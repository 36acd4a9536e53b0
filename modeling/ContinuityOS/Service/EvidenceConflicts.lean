import ContinuityOS.Evidence.Conflicts
import ContinuityOS.Service.Exchange

/-! # Conflicts of a ledger

When a disagreement between two observations of a ledger is surfaced: one value of their metric
that is not positive leaves it out, and so does a compared value that is not read.
-/
namespace ContinuityOS.Service
open Library Evidence EvidenceLedger

section Surfacing
variable {ed : Ed25519}

/-- The conflicts of the ledger are found, and the disagreement of two records is among them. -/
def Surfaces (L : EvidenceLedger ed) (v : ValueReading) (file : File) (r t : EvidenceRecord) :
    Prop :=
  ∃ cs, L.findConflicts v file = .ok cs ∧ Reports cs r.subjectId (r.metricOf v) r t

/-- A disagreement between two observations is surfaced exactly where all values that the ledger
compares are numbers and those of their metric are positive. -/
theorem surfaces_iff (L : EvidenceLedger ed) (v : ValueReading) (file : File)
    (records : List EvidenceRecord) (r t : EvidenceRecord) (a b : ℚ)
    (hrecords : L.allRecords file = .ok records) (hr : r ∈ records) (ht : t ∈ records)
    (hrObserved : r.isMetricObservation = true) (htObserved : t.isMetricObservation = true)
    (hsubject : t.subjectId = r.subjectId) (hmetric : t.metricOf v = r.metricOf v)
    (ha : r.valueOf v = .ok (.finite a)) (hb : t.valueOf v = .ok (.finite b))
    (hab : 2 / 10 * min |a| |b| < |a - b|) :
    Surfaces L v file r t ↔
      Readable v records ∧ Comparable v (group v records r.subjectId (r.metricOf v)) := by
  have hrGroup : r ∈ group v records r.subjectId (r.metricOf v) :=
    mem_group.mpr ⟨hr, rfl, hrObserved, rfl⟩
  have htGroup : t ∈ group v records r.subjectId (r.metricOf v) :=
    mem_group.mpr ⟨ht, hsubject, htObserved, hmetric⟩
  rw [← conflictsOf_reports_iff hrGroup htGroup ha hb hab, Surfaces, findConflicts, hrecords]

end Surfacing

section Sample

/-- A text with a character that is no white space is not blank. -/
theorem strip_ne_nil {text : List Char} {c : Char} (hc : c ∈ text) (hspace : isStripped c = false) :
    strip text ≠ [] := by
  intro hblank
  rw [strip, List.dropWhile_eq_nil_iff] at hblank
  have hall : ∀ d ∈ text, isStripped d = true := by
    apply List.rdropWhile_eq_nil_iff.mp
    by_contra hne
    exact List.rdropWhile_last_not isStripped text hne (hblank _ (List.getLast_mem hne))
  rw [hall c hc] at hspace
  cases hspace

/-- A line that the table reads as a record is the text of the record. -/
theorem parseLine_plainLedger {table : List EvidenceRecord} {line : List Char} {r : EvidenceRecord}
    (h : (plainLedger table).parseLine line = some r) : line = r.toJson.dumps := by
  have hfound : (table.find? fun s => String.ofList s.toJson.dumps = String.ofList line) =
      some r := by
    cases hfind : table.find? fun s => String.ofList s.toJson.dumps = String.ofList line with
    | none =>
      simp only [parseLine, plainLedger, init, tableCodec, hfind] at h
      cases h
    | some s =>
      simp only [parseLine, plainLedger, init, tableCodec, hfind] at h
      exact h
  have htext := List.find?_some hfound
  exact (String.ofList_injective (of_decide_eq_true htext)).symm

theorem allRecords_plainFile {calls : List AppendCall}
    (htexts : (plainRecords calls).Pairwise fun r s => r.toJson.dumps ≠ s.toJson.dumps)
    (hnumbers : ∀ call ∈ calls, Json.printable (Json.literalsMembers call.payload) = true)
    (hcalls : ∀ call ∈ calls, Json.printable call.chars = true) :
    (plainLedger (plainRecords calls)).allRecords (plainFile calls) = .ok (plainRecords calls) := by
  obtain ⟨-, lines, hlines, hparsed⟩ := plainFile_holds htexts hnumbers hcalls
  have hshown : ∀ line ∈ lines, strip line ≠ [] := by
    intro line hline
    have hmem := hparsed ▸ List.mem_map_of_mem hline
    obtain ⟨r, -, hr⟩ := List.mem_map.mp hmem
    have hbrace : '\x7b' ∈ line := by
      rw [parseLine_plainLedger hr.symm, EvidenceRecord.toJson, Json.dumps]
      exact List.mem_cons_self
    exact strip_ne_nil hbrace (by decide)
  have hkept : (lines.filter fun line => strip line ≠ []) = lines :=
    List.filter_eq_self.mpr fun line hline => decide_eq_true (hshown line hline)
  rw [plainFile, fileLines] at hlines
  obtain ⟨text, htext, hsplit⟩ := map_eq_ok.mp hlines
  rw [plainFile, allRecords, htext, ok_bind, hsplit]
  simp only [hkept]
  exact mapM_validate hparsed

/-- The conversions of whole numbers and of texts. -/
def wholeReading : ValueReading where
  float
    | .int n => some (.finite n)
    | _ => none
  str
    | .string text => text
    | _ => ""

/-- A reading of the draft of a vessel, told from the others by its identifier. -/
def draftCall (i : ℕ) (value : ℤ) : AppendCall where
  recordId := String.ofList (List.replicate i 'a')
  createdAt := "2026-07-23T00:00:00+00:00"
  recordType := "observation"
  subjectId := "asset-a"
  payload := [("metric", .string "draft"), ("value", .int value)]

/-- Two readings that differ and are positive. -/
def positiveDrafts : List AppendCall := [draftCall 0 10, draftCall 1 20]

/-- The same with a reading of zero. -/
def zeroDrafts : List AppendCall := [draftCall 0 10, draftCall 1 20, draftCall 2 0]

theorem drafts_ids {calls : List AppendCall} (h : ∀ call ∈ calls, ∃ i value, call = draftCall i value) :
    ∀ call ∈ calls, ∃ i, call.recordId = String.ofList (List.replicate i 'a') := by
  intro call hcall
  obtain ⟨i, value, rfl⟩ := h call hcall
  exact ⟨i, rfl⟩

theorem allRecords_positiveDrafts :
    (plainLedger (plainRecords positiveDrafts)).allRecords (plainFile positiveDrafts) =
      .ok (plainRecords positiveDrafts) :=
  allRecords_plainFile (texts_of_ids (drafts_ids (by simp [positiveDrafts])) (by decide)) (by decide)
    (by decide)

theorem allRecords_zeroDrafts :
    (plainLedger (plainRecords zeroDrafts)).allRecords (plainFile zeroDrafts) =
      .ok (plainRecords zeroDrafts) :=
  allRecords_plainFile (texts_of_ids (drafts_ids (by simp [zeroDrafts])) (by decide)) (by decide)
    (by decide)

/-- The record of a reading after some record. -/
def draftRecord (previousHash : String) (i : ℕ) (value : ℤ) : EvidenceRecord :=
  (plainLedger []).recordFor previousHash (draftCall i value)

def firstDraft : EvidenceRecord := draftRecord genesis 0 10

def secondDraft : EvidenceRecord := draftRecord firstDraft.recordHash 1 20

def zeroDraft : EvidenceRecord := draftRecord secondDraft.recordHash 2 0

theorem draftRecord_group (previousHash : String) (i : ℕ) (value : ℤ) :
    (draftRecord previousHash i value).subjectId = "asset-a" ∧
      (draftRecord previousHash i value).isMetricObservation = true ∧
      (draftRecord previousHash i value).metricOf wholeReading = "draft" := ⟨rfl, rfl, rfl⟩

theorem drafts_together : secondDraft.subjectId = firstDraft.subjectId ∧
    secondDraft.metricOf wholeReading = firstDraft.metricOf wholeReading := by
  obtain ⟨hsubject, -, hmetric⟩ := draftRecord_group genesis 0 10
  obtain ⟨hsubject', -, hmetric'⟩ := draftRecord_group firstDraft.recordHash 1 20
  exact ⟨hsubject'.trans hsubject.symm, hmetric'.trans hmetric.symm⟩

theorem draft_discrepancy : 2 / 10 * min |((10 : ℤ) : ℚ)| |((20 : ℤ) : ℚ)| <
    |((10 : ℤ) : ℚ) - ((20 : ℤ) : ℚ)| := by
  norm_num [abs_of_pos, abs_of_neg]

/-- Where every value is a positive number, the groups are read and can be compared. -/
theorem readable_of_positive {v : ValueReading} {records : List EvidenceRecord}
    (h : ∀ r ∈ records, ∃ q : ℚ, 0 < q ∧ r.valueOf v = .ok (.finite q)) :
    Readable v records ∧ ∀ subjectId metric, Comparable v (group v records subjectId metric) := by
  have hread : ∀ {subjectId metric : String}, ∀ r ∈ group v records subjectId metric,
      ∃ q : ℚ, 0 < q ∧ r.valueOf v = .ok (.finite q) := fun r hr => h r (mem_group.mp hr).1
  constructor
  · intro subjectId metric _ r hr
    obtain ⟨q, -, hq⟩ := hread r hr
    exact ⟨_, hq⟩
  · intro subjectId metric
    constructor
    · intro r hr hnan
      obtain ⟨q, -, hq⟩ := hread r (List.mem_of_mem_head? hr)
      rw [hq] at hnan
      cases hnan
    · intro r hr x hx _
      obtain ⟨q, hpositive, hq⟩ := hread r hr
      rw [hq] at hx
      cases hx
      exact hpositive

theorem surfaces_iff_sample :
    Surfaces (plainLedger (plainRecords positiveDrafts)) wholeReading (plainFile positiveDrafts)
      firstDraft secondDraft := by
  have hrecords : plainRecords positiveDrafts = [firstDraft, secondDraft] := rfl
  have hvalues : ∀ r ∈ plainRecords positiveDrafts,
      ∃ q : ℚ, 0 < q ∧ r.valueOf wholeReading = .ok (.finite q) := by
    rw [hrecords, List.forall_mem_cons, List.forall_mem_singleton]
    exact ⟨⟨(10 : ℤ), by norm_num, rfl⟩, (20 : ℤ), by norm_num, rfl⟩
  obtain ⟨hreadable, hcomparable⟩ := readable_of_positive hvalues
  exact (surfaces_iff (plainLedger (plainRecords positiveDrafts)) wholeReading
    (plainFile positiveDrafts) (plainRecords positiveDrafts) firstDraft secondDraft (10 : ℤ) (20 : ℤ)
    allRecords_positiveDrafts (by rw [hrecords]; simp) (by rw [hrecords]; simp) rfl rfl
    drafts_together.1 drafts_together.2 rfl rfl draft_discrepancy).mpr ⟨hreadable, hcomparable _ _⟩

/-- A reading of zero hides the disagreement of two others. -/
theorem not_surfaces_zero :
    ¬ ∀ (L : EvidenceLedger sampleScheme) (v : ValueReading) (file : File)
        (records : List EvidenceRecord) (r t : EvidenceRecord) (a b : ℚ),
      L.allRecords file = .ok records → r ∈ records → t ∈ records →
      r.isMetricObservation = true → t.isMetricObservation = true → t.subjectId = r.subjectId →
      t.metricOf v = r.metricOf v → r.valueOf v = .ok (.finite a) →
      t.valueOf v = .ok (.finite b) → 2 / 10 * min |a| |b| < |a - b| → Surfaces L v file r t := by
  intro h
  have hrecords : plainRecords zeroDrafts = [firstDraft, secondDraft, zeroDraft] := rfl
  have hsurfaces := h (plainLedger (plainRecords zeroDrafts)) wholeReading (plainFile zeroDrafts)
    (plainRecords zeroDrafts) firstDraft secondDraft (10 : ℤ) (20 : ℤ) allRecords_zeroDrafts
    (by rw [hrecords]; simp) (by rw [hrecords]; simp) rfl rfl drafts_together.1 drafts_together.2
    rfl rfl draft_discrepancy
  have hgroup : ∀ r ∈ [firstDraft, secondDraft, zeroDraft],
      r ∈ group wholeReading (plainRecords zeroDrafts) "asset-a" "draft" := by
    intro r hr
    refine mem_group.mpr ⟨hrecords ▸ hr, ?_⟩
    simp only [List.mem_cons, List.not_mem_nil, or_false] at hr
    rcases hr with rfl | rfl | rfl <;> exact draftRecord_group _ _ _
  rw [Surfaces, findConflicts, allRecords_zeroDrafts] at hsurfaces
  have hcomparable := ((conflictsOf_reports_iff (hgroup firstDraft (by simp))
    (hgroup secondDraft (by simp)) rfl rfl draft_discrepancy).mp hsurfaces).2
  exact lt_irrefl (0 : ℚ) (hcomparable.positive zeroDraft (hgroup zeroDraft (by simp)) _ rfl nofun)

end Sample

end ContinuityOS.Service
