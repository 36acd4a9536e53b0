import ContinuityOS.Connectors.BillOfLading
import ContinuityOS.Connectors.Synthesis

/-! # The leg of an ocean message

The parser numbers the stops by the type of their port, and the synthesizer joins them in the
order of the message. The leg points from the load port to the discharge port where the message
names them in this order and no other port.
-/
namespace ContinuityOS.Connectors
open Library ContinuityOS.Graph

/-- A port segment of the load port, with or without the name of the port. -/
def isLoad (elements : List String) : Bool := elements.getD 0 "" = "R4" ∧ elements.getD 1 "" = "L"

def isDischarge (elements : List String) : Bool :=
  elements.getD 0 "" = "R4" ∧ elements.getD 1 "" = "D"

section Legs
variable (lower : String → String)

/-- The node of the port of a segment. -/
def portNode (elements : List String) : String := nodeIdOf lower (OceanStatus.portStop elements)

/-- The graph of an ocean message has one edge, between these nodes. -/
def HasOneLeg (now : DateTime) (content networkId source target : String) : Prop :=
  ∃ g e, synthesizeDependencyGraph lower [parseEdi315 now content] networkId = .ok g ∧
    g.edges = [e] ∧ e.source = source ∧ e.target = target

/-- The ports of the message are the load port and then the discharge port, or it has none and
these are the ports that the parser puts in their place. -/
def PortsInOrder (calls : List (List String)) (load discharge : List String) : Prop :=
  calls.map (portNode lower) = [portNode lower load, portNode lower discharge] ∨
    (calls = [] ∧ OceanStatus.defaultStops.map (nodeIdOf lower) =
      [portNode lower load, portNode lower discharge])

variable {lower}

/-- Stops have one leg where there are two of them. -/
theorem legs_eq_singleton_iff (stops : List ShipmentStop) (source target : String) :
    (∃ e, (legs stops).map (fun leg => stopEdge lower leg.1 leg.2) = [e] ∧ e.source = source ∧
      e.target = target) ↔ stops.map (nodeIdOf lower) = [source, target] := by
  match stops with
  | [] => simp [legs]
  | [_] => simp [legs]
  | [a, b] => simp [legs, stopEdge]
  | a :: b :: c :: rest => simp [legs]

theorem hasOneLeg_iff (now : DateTime) (content networkId source target : String) :
    HasOneLeg lower now content networkId source target ↔
      (parseEdi315 now content).stops.map (nodeIdOf lower) = [source, target] := by
  obtain ⟨g, hg, hedges⟩ :=
    @synthesizeDependencyGraph_ok lower [parseEdi315 now content] networkId
  have hshipment := @addShipment_edges lower (parseEdi315 now content)
  rw [← legs_eq_singleton_iff, ← hshipment]
  constructor
  · rintro ⟨g', e, hg', he, hends⟩
    cases hg.symm.trans hg'
    exact ⟨e, hedges.symm.trans he, hends⟩
  · rintro ⟨e, he, hends⟩
    exact ⟨g, e, hg, hedges.trans he, hends⟩

/-- A load port or discharge port that is named is taken by the parser. -/
theorem mem_portCalls {content : String} {elements : List String}
    {isPort : List String → Bool} (hport : ∀ l, isPort l = true → l.getD 0 "" = "R4")
    (h : (segments content).filter isPort = [elements]) (hnamed : 3 < elements.length) :
    elements ∈ portCalls content := by
  have hmem : elements ∈ (segments content).filter isPort := h ▸ List.mem_singleton_self elements
  obtain ⟨hin, his⟩ := List.mem_filter.mp hmem
  exact List.mem_filter.mpr ⟨hin, decide_eq_true ⟨hport elements his, hnamed⟩⟩

/-- The leg points from the load port to the discharge port exactly where the message has the two
ports in this order and no other; for ports with names, where these are its port segments. -/
theorem oceanLeg_iff (now : DateTime) (content networkId : String) (load discharge : List String)
    (hload : (segments content).filter isLoad = [load])
    (hdischarge : (segments content).filter isDischarge = [discharge])
    (hports : portNode lower load ≠ portNode lower discharge) :
    (HasOneLeg lower now content networkId (portNode lower load) (portNode lower discharge) ↔
        PortsInOrder lower (portCalls content) load discharge) ∧
      (3 < load.length → 3 < discharge.length →
        (PortsInOrder lower (portCalls content) load discharge ↔
          portCalls content = [load, discharge])) := by
  constructor
  · rw [hasOneLeg_iff, parseEdi315_stops, PortsInOrder]
    by_cases hnone : portCalls content = []
    · rw [if_pos hnone, hnone]
      simp
    · rw [if_neg hnone, List.map_map]
      exact (or_iff_left fun h => hnone h.1).symm
  · intro hloadNamed hdischargeNamed
    have hloadCall := mem_portCalls (fun l hl => (of_decide_eq_true hl).1) hload hloadNamed
    have hdischargeCall :=
      mem_portCalls (fun l hl => (of_decide_eq_true hl).1) hdischarge hdischargeNamed
    constructor
    · rintro (hnodes | ⟨hnone, -⟩)
      · obtain ⟨first, rest, hcalls, hfirst, hrest⟩ := List.map_eq_cons_iff.mp hnodes
        obtain ⟨second, none, rfl, hsecond, hnil⟩ := List.map_eq_cons_iff.mp hrest
        rw [List.map_eq_nil_iff.mp hnil] at hcalls
        rw [hcalls, List.mem_pair] at hloadCall hdischargeCall
        have hloadFirst : load = first := by
          rcases hloadCall with rfl | rfl
          · rfl
          · exact absurd hsecond hports
        have hdischargeSecond : discharge = second := by
          rcases hdischargeCall with rfl | rfl
          · exact absurd hfirst.symm hports
          · rfl
        rw [hcalls, hloadFirst, hdischargeSecond]
      · rw [hnone] at hloadCall
        exact absurd hloadCall List.not_mem_nil
    · intro hcalls
      exact Or.inl (by rw [hcalls]; rfl)

end Legs

section Sample

def shanghai : List String := ["R4", "L", "CNSHA", "Shanghai"]

def vancouver : List String := ["R4", "D", "CAVAN", "Vancouver"]

theorem shanghai_ne_vancouver :
    portNode String.toLower shanghai ≠ portNode String.toLower vancouver := by
  with_unfolding_all decide

theorem oceanLeg_iff_sample :
    HasOneLeg String.toLower tenderTime "R4*L*CNSHA*Shanghai~R4*D*CAVAN*Vancouver~" "n"
      (portNode String.toLower shanghai) (portNode String.toLower vancouver) := by
  have hleg := oceanLeg_iff tenderTime "R4*L*CNSHA*Shanghai~R4*D*CAVAN*Vancouver~" "n" shanghai
    vancouver (by decide +kernel) (by decide +kernel) shanghai_ne_vancouver
  exact hleg.1.mpr ((hleg.2 (by decide) (by decide)).mpr (by decide +kernel))

/-- A message that names the discharge port first reverses the leg. -/
theorem oceanLeg_reversed :
    ¬ ∀ (lower : String → String) (now : DateTime) (content networkId : String)
        (load discharge : List String), (segments content).filter isLoad = [load] →
      (segments content).filter isDischarge = [discharge] →
      portNode lower load ≠ portNode lower discharge →
      HasOneLeg lower now content networkId (portNode lower load) (portNode lower discharge) := by
  intro h
  have hleg := h String.toLower tenderTime "R4*D*CAVAN*Vancouver~R4*L*CNSHA*Shanghai~" "n" shanghai
    vancouver (by decide +kernel) (by decide +kernel) shanghai_ne_vancouver
  have hstops : (parseEdi315 tenderTime "R4*D*CAVAN*Vancouver~R4*L*CNSHA*Shanghai~").stops =
      [OceanStatus.portStop vancouver, OceanStatus.portStop shanghai] := by decide +kernel
  rw [hasOneLeg_iff, hstops] at hleg
  exact shanghai_ne_vancouver (List.cons.inj hleg).1.symm

end Sample

end ContinuityOS.Connectors
