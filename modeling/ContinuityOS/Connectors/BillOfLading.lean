import ContinuityOS.Connectors.Edi

/-! # The bill of lading of a load tender

Every reference segment overwrites the bill of lading, whatever its qualifier, so the number that
is returned is the reference of the last one.
-/
namespace ContinuityOS.Connectors
open Library

/-- A reference segment whose qualifier says that it is the bill of lading. -/
def isBillOfLading (elements : List String) : Bool :=
  isSegment "L11" 2 elements ∧ elements.getD 2 "" = "BM"

/-- The reference of a reference segment. -/
def reference (elements : List String) : String := elements.getD 1 ""

/-- The reference of the last reference segment, whatever its qualifier. -/
def lastReference (message : List (List String)) : Option String :=
  (message.filter (isSegment "L11" 2)).getLast?.map reference

/-- The shipment that the last identification segment names. -/
def shipmentIdentification (message : List (List String)) : String :=
  ((message.filter (isSegment "B2A" 2)).getLast?.map fun elements => elements.getD 2 "").getD
    "EDI204-UNKNOWN"

section Tender
variable (float : String → Option ℚ)

theorem LoadTender.segment_bolNumber (t : LoadTender) (elements : List String) :
    (t.segment float elements).bolNumber =
      if isSegment "L11" 2 elements then reference elements else t.bolNumber := by
  unfold segment
  cases float (elements.getD 4 "") <;> split_ifs <;> simp_all [isSegment, reference]

theorem LoadTender.segment_shipmentId (t : LoadTender) (elements : List String) :
    (t.segment float elements).shipmentId =
      if isSegment "B2A" 2 elements then elements.getD 2 "" else t.shipmentId := by
  unfold segment
  cases float (elements.getD 4 "") <;> split_ifs <;> simp_all [isSegment]

/-- The bill of lading that is returned is the last reference, or is named after the shipment. -/
theorem parseEdi204_bolNumber (now : DateTime) (content : String) :
    (parseEdi204 float now content).bolNumber =
      if (lastReference (segments content)).getD "" = "" then
        "BOL-" ++ shipmentIdentification (segments content)
      else (lastReference (segments content)).getD "" := by
  have hbol := foldl_lastWrite (LoadTender.segment_bolNumber float) (segments content) {}
  have hid := foldl_lastWrite (LoadTender.segment_shipmentId float) (segments content) {}
  simp only [parseEdi204, hbol, hid]
  rfl

/-- A message with a segment for the bill of lading has a last reference. -/
theorem exists_lastReference {message : List (List String)} {bill : List String}
    (hbill : message.filter isBillOfLading = [bill]) : ∃ last, lastReference message = some last := by
  have hmem : bill ∈ message.filter isBillOfLading := hbill ▸ List.mem_singleton_self bill
  obtain ⟨hin, his⟩ := List.mem_filter.mp hmem
  have hreference : bill ∈ message.filter (isSegment "L11" 2) := by
    rw [isBillOfLading, decide_eq_true_eq] at his
    exact List.mem_filter.mpr ⟨hin, his.1⟩
  have hne : message.filter (isSegment "L11" 2) ≠ [] := List.ne_nil_of_mem hreference
  exact ⟨_, by rw [lastReference, List.getLast?_eq_some_getLast hne, Option.map_some]⟩

/-- With one segment for the bill of lading, its reference is returned exactly where the last
reference segment has the same one; an empty reference stands for the name after the shipment. -/
theorem bolNumber_eq_reference_iff (now : DateTime) (content : String) (bill : List String)
    (hbill : (segments content).filter isBillOfLading = [bill]) :
    (parseEdi204 float now content).bolNumber = reference bill ↔
      (reference bill ≠ "" ∧ lastReference (segments content) = some (reference bill)) ∨
        (lastReference (segments content) = some "" ∧
          reference bill = "BOL-" ++ shipmentIdentification (segments content)) := by
  obtain ⟨last, hlast⟩ := exists_lastReference hbill
  have hnamed : "BOL-" ++ shipmentIdentification (segments content) ≠ "" := by
    intro h
    have hlength := congrArg String.length h
    rw [String.length_append] at hlength
    exact absurd hlength (by simp)
  rw [parseEdi204_bolNumber, hlast, Option.getD_some, Option.some.injEq, Option.some.injEq]
  by_cases hempty : last = ""
  · rw [if_pos hempty, hempty]
    constructor
    · exact fun h => Or.inr ⟨rfl, h.symm⟩
    · rintro (⟨hne, heq⟩ | ⟨-, heq⟩)
      · exact absurd heq.symm hne
      · exact heq.symm
  · rw [if_neg hempty]
    constructor
    · rintro rfl
      exact Or.inl ⟨hempty, rfl⟩
    · rintro (⟨-, heq⟩ | ⟨heq, -⟩)
      · exact heq
      · exact absurd heq hempty

end Tender

section Sample

def tenderTime : DateTime where
  parts := { year := 2026, month := 7, day := 24, hour := 0, minute := 0, second := 0
             microsecond := 0, offset := 0 }
  valid := by decide

theorem bolNumber_eq_reference_sample :
    (parseEdi204 (fun _ => none) tenderTime "L11*PO9*PO~L11*BOL1*BM~").bolNumber = "BOL1" :=
  (bolNumber_eq_reference_iff (fun _ => none) tenderTime "L11*PO9*PO~L11*BOL1*BM~"
    ["L11", "BOL1", "BM"] (by decide +kernel)).mpr (Or.inl (by decide +kernel))

/-- A reference after the bill of lading is returned in its place. -/
theorem bolNumber_not_reference :
    ¬ ∀ (float : String → Option ℚ) (now : DateTime) (content : String) (bill : List String),
      (segments content).filter isBillOfLading = [bill] →
        (parseEdi204 float now content).bolNumber = reference bill := by
  intro h
  have hbol := h (fun _ => none) tenderTime "L11*BOL1*BM~L11*PO9*PO~" ["L11", "BOL1", "BM"]
    (by decide +kernel)
  exact absurd hbol (by decide +kernel)

end Sample

end ContinuityOS.Connectors
