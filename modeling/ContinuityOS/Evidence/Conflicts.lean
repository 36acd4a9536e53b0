import ContinuityOS.Evidence.Ledger
import ContinuityOS.Library.Dict
import ContinuityOS.Library.Fallible
import ContinuityOS.Library.FloatNumber

/-! # Conflicting evidence

The observations of a subject are compared metric by metric, by the least and the greatest value
of each group. A disagreement is reported exactly where every value of the group is positive and
every group has values that are read as numbers.
-/
namespace ContinuityOS.Evidence
open Library

/-- Conversions of payload values that are left to the language: to a number, if there is one,
and to text. -/
structure ValueReading where
  float : Json → Option FloatNumber
  str : Json → String

inductive ConflictError where
  | ledger (error : LedgerError)
  | notANumber
deriving DecidableEq

structure MetricRecord where
  recordId : String
  source : Json
  value : Json
  confidence : Json
  createdAt : String

structure StateRecord where
  recordId : String
  state : Json
  createdAt : String

inductive Conflict where
  | metricDiscrepancy (subjectId metric : String) (spread : FloatNumber)
      (records : List MetricRecord) (divergence resolutionNote : String)
  | stateConflict (subjectId : String) (conflictingStates : List String)
      (records : List StateRecord) (divergence resolutionNote : String)

namespace EvidenceRecord

def payload? (r : EvidenceRecord) (key : String) : Option Json := Bindings.lookup r.payload key

/-- An observation that names its metric. -/
def isMetricObservation (r : EvidenceRecord) : Bool :=
  r.recordType = "observation" ∧ (r.payload? "metric").isSome = true

def metricRecord (r : EvidenceRecord) : MetricRecord where
  recordId := r.recordId
  source := (r.payload? "source_id").getD (.string "unknown")
  value := (r.payload? "value").getD .null
  confidence := (r.payload? "confidence").getD (.float "1.0")
  createdAt := r.createdAt

end EvidenceRecord

/-- A number as a percentage with one decimal. -/
def percentOf : FloatNumber → String
  | .nan => "nan%"
  | .negInf => "-inf%"
  | .finite q => percent q
  | .posInf => "inf%"

def rounded : FloatNumber → FloatNumber
  | .finite q => .finite (roundDigits 4 q)
  | x => x

/-- The difference of the greatest and the least value and its ratio to the least, where they
disagree. Two infinite values have no difference. -/
def discrepancy (first : FloatNumber) (rest : List FloatNumber) :
    Option (FloatNumber × FloatNumber) :=
  match FloatNumber.least first rest, FloatNumber.greatest first rest with
  | .finite least, .finite greatest =>
    if 0 < least ∧ 2 / 10 < (greatest - least) / least then
      some (.finite (greatest - least), .finite ((greatest - least) / least))
    else none
  | .finite least, .posInf => if 0 < least then some (.posInf, .posInf) else none
  | _, _ => none

section Conflicts
variable (v : ValueReading)

namespace EvidenceRecord

def metricOf (r : EvidenceRecord) : String := v.str ((r.payload? "metric").getD .null)

def valueOf (r : EvidenceRecord) : Except ConflictError FloatNumber :=
  match r.payload? "value" with
  | none => .ok (.finite 0)
  | some value =>
    match v.float value with
    | some x => .ok x
    | none => .error .notANumber

/-- Truth of a value. -/
def isTrue : Json → Bool
  | .null => false
  | .bool b => b
  | .int n => n ≠ 0
  | .float literal => v.float (.float literal) ≠ some (.finite 0)
  | .string text => text ≠ ""
  | .array items => !items.isEmpty
  | .object members => !members.isEmpty

def stateOf (r : EvidenceRecord) : Json :=
  match r.payload? "state" with
  | some state => if isTrue v state then state else (r.payload? "effective_state").getD .null
  | none => (r.payload? "effective_state").getD .null

end EvidenceRecord

open EvidenceRecord

def metricConflicts (subjectId : String) (group : String × List EvidenceRecord) :
    Except ConflictError (List Conflict) :=
  if 2 ≤ group.2.length then do
    match ← group.2.mapM (valueOf v) with
    | [] => return []
    | first :: rest =>
      match discrepancy first rest with
      | none => return []
      | some (spread, ratio) =>
        return [.metricDiscrepancy subjectId group.1 (rounded spread) (group.2.map metricRecord)
          ("Observed values for " ++ group.1 ++ " differ by " ++ percentOf ratio)
          "Both records preserved in immutable ledger for human review."]
  else return []

def stateConflicts (subjectId : String) (recs : List EvidenceRecord) : List Conflict :=
  let stateRecs := recs.filter fun r =>
    (r.payload? "state").isSome || (r.payload? "effective_state").isSome
  let states := (stateRecs.map fun r => v.str (stateOf v r)).toFinset
  if 2 ≤ stateRecs.length ∧ 1 < states.card then
    [.stateConflict subjectId (sortedSet states)
      (stateRecs.map fun r => ⟨r.recordId, stateOf v r, r.createdAt⟩)
      ("Subject has conflicting assessed states: " ++ ", ".intercalate (sortedSet states))
      "Multi-source evidence divergence preserved for auditability."]
  else []

/-- The observations of a subject by their metric. -/
def obsByMetric (recs : List EvidenceRecord) : Dict String (List EvidenceRecord) :=
  Dict.collect ((recs.filter isMetricObservation).map fun r => (metricOf v r, r))

def bySubject (records : List EvidenceRecord) : Dict String (List EvidenceRecord) :=
  Dict.collect (records.map fun r => (r.subjectId, r))

def subjectConflicts (subject : String × List EvidenceRecord) :
    Except ConflictError (List Conflict) := do
  let metrics ← (obsByMetric v subject.2).entries.mapM (metricConflicts v subject.1)
  return metrics.flatten ++ stateConflicts v subject.1 subject.2

def conflictsOf (records : List EvidenceRecord) : Except ConflictError (List Conflict) := do
  let subjects ← (bySubject records).entries.mapM (subjectConflicts v)
  return subjects.flatten

end Conflicts

namespace EvidenceLedger
variable {ed : Ed25519} (L : EvidenceLedger ed)

/-- Every record of the ledger; blank lines are passed over. -/
def allRecords (file : File) : Except LedgerError (List EvidenceRecord) :=
  match file with
  | none => .ok []
  | some bytes => do
    let lines := splitlines (← readText bytes)
    (lines.filter fun line => strip line ≠ []).mapM L.validate

def findConflicts (v : ValueReading) (file : File) : Except ConflictError (List Conflict) :=
  match L.allRecords file with
  | .error e => .error (.ledger e)
  | .ok records => conflictsOf v records

end EvidenceLedger

section Groups
variable {v : ValueReading}

/-- The observations of one metric of a subject. -/
def group (v : ValueReading) (records : List EvidenceRecord) (subjectId metric : String) :
    List EvidenceRecord :=
  ((records.filter fun r => r.subjectId = subjectId).filter EvidenceRecord.isMetricObservation).filter
    fun r => r.metricOf v = metric

theorem mem_group {records : List EvidenceRecord} {subjectId metric : String} {r : EvidenceRecord} :
    r ∈ group v records subjectId metric ↔ r ∈ records ∧ r.subjectId = subjectId ∧
      r.isMetricObservation = true ∧ r.metricOf v = metric := by
  simp only [group, List.mem_filter, decide_eq_true_eq, and_assoc]

theorem mem_obsByMetric {records : List EvidenceRecord} {subjectId metric : String}
    {g : List EvidenceRecord} :
    (metric, g) ∈ (obsByMetric v (records.filter fun r => r.subjectId = subjectId)).entries ↔
      g ≠ [] ∧ g = group v records subjectId metric := by
  rw [obsByMetric, Dict.mem_entries_collect_key, group]
  constructor
  · rintro ⟨⟨r, hr, hmetric⟩, rfl⟩
    exact ⟨List.ne_nil_of_mem (List.mem_filter.mpr ⟨hr, decide_eq_true hmetric⟩), rfl⟩
  · rintro ⟨hne, rfl⟩
    obtain ⟨r, hr⟩ := List.exists_mem_of_ne_nil _ hne
    obtain ⟨hmem, hmetric⟩ := List.mem_filter.mp hr
    exact ⟨⟨r, hmem, of_decide_eq_true hmetric⟩, rfl⟩

theorem mem_bySubject {records : List EvidenceRecord} {subjectId : String}
    {recs : List EvidenceRecord} :
    (subjectId, recs) ∈ (bySubject records).entries ↔
      (∃ r ∈ records, r.subjectId = subjectId) ∧
        recs = records.filter fun r => r.subjectId = subjectId := by
  rw [bySubject, Dict.mem_entries_collect_key]

/-- Every value that is compared with another one is read as a number. -/
def Readable (v : ValueReading) (records : List EvidenceRecord) : Prop :=
  ∀ subjectId metric, 2 ≤ (group v records subjectId metric).length →
    ∀ r ∈ group v records subjectId metric, ∃ x, r.valueOf v = .ok x

theorem metricConflicts_ok_iff (subjectId : String) (g : String × List EvidenceRecord) :
    (∃ cs, metricConflicts v subjectId g = .ok cs) ↔
      (2 ≤ g.2.length → ∀ r ∈ g.2, ∃ x, r.valueOf v = .ok x) := by
  rw [← mapM_ok_iff]
  unfold metricConflicts
  split_ifs with hlength
  · constructor
    · rintro ⟨cs, hcs⟩ -
      obtain ⟨values, hvalues, -⟩ := bind_eq_ok.mp hcs
      exact ⟨values, hvalues⟩
    · intro h
      obtain ⟨values, hvalues⟩ := h hlength
      rw [hvalues, ok_bind]
      split
      · exact ⟨_, rfl⟩
      · split <;> exact ⟨_, rfl⟩
  · exact iff_of_true ⟨_, rfl⟩ fun h => absurd h hlength

/-- The comparison succeeds exactly where the values can be read. -/
theorem conflictsOf_ok_iff (records : List EvidenceRecord) :
    (∃ cs, conflictsOf v records = .ok cs) ↔ Readable v records := by
  have hsubject : ∀ subject, (∃ cs, subjectConflicts v subject = .ok cs) ↔
      ∀ g ∈ (obsByMetric v subject.2).entries, ∃ cs, metricConflicts v subject.1 g = .ok cs :=
    fun _ => exists_bind_pure.trans mapM_ok_iff
  have hall : (∃ cs, conflictsOf v records = .ok cs) ↔
      ∀ subject ∈ (bySubject records).entries, ∃ cs, subjectConflicts v subject = .ok cs :=
    exists_bind_pure.trans mapM_ok_iff
  rw [hall]
  constructor
  · intro h subjectId metric hlength r hr
    obtain ⟨hmem, hof, -⟩ := mem_group.mp hr
    have hgroups := (hsubject _).mp (h _ (mem_bySubject.mpr ⟨⟨r, hmem, hof⟩, rfl⟩))
    have hne : group v records subjectId metric ≠ [] := List.ne_nil_of_mem hr
    exact (metricConflicts_ok_iff subjectId _).mp (hgroups _ (mem_obsByMetric.mpr ⟨hne, rfl⟩))
      hlength r hr
  · rintro h ⟨subjectId, recs⟩ hentry
    obtain ⟨-, rfl⟩ := mem_bySubject.mp hentry
    rw [hsubject]
    rintro ⟨metric, g⟩ hg
    obtain ⟨-, rfl⟩ := mem_obsByMetric.mp hg
    exact (metricConflicts_ok_iff subjectId _).mpr (h subjectId metric)

/-- The values of a group are read, and they disagree. -/
def Discrepant (v : ValueReading) (g : List EvidenceRecord) : Prop :=
  2 ≤ g.length ∧ ∃ first rest, g.mapM (EvidenceRecord.valueOf v) = .ok (first :: rest) ∧
    ∃ d, discrepancy first rest = some d

/-- A discrepancy of a subject and a metric is reported that lists two records. -/
def Reports (cs : List Conflict) (subjectId metric : String) (r t : EvidenceRecord) : Prop :=
  ∃ spread records divergence resolutionNote,
    .metricDiscrepancy subjectId metric spread records divergence resolutionNote ∈ cs ∧
      r.metricRecord ∈ records ∧ t.metricRecord ∈ records

/-- What the comparison of one group reports: the whole group where it disagrees. -/
theorem metricConflicts_cases {subjectId : String} {g : String × List EvidenceRecord}
    {cs : List Conflict} (h : metricConflicts v subjectId g = .ok cs) :
    (¬ Discrepant v g.2 ∧ cs = []) ∨
      (Discrepant v g.2 ∧ ∃ spread divergence resolutionNote,
        cs = [.metricDiscrepancy subjectId g.1 spread (g.2.map EvidenceRecord.metricRecord)
          divergence resolutionNote]) := by
  unfold metricConflicts at h
  split_ifs at h with hlength
  · obtain ⟨values, hvalues, hreport⟩ := bind_eq_ok.mp h
    cases values with
    | nil =>
      cases hreport
      refine Or.inl ⟨?_, rfl⟩
      rintro ⟨-, first, rest, hread, -⟩
      rw [hvalues] at hread
      cases hread
    | cons first rest =>
      cases hd : discrepancy first rest with
      | none =>
        simp only [hd] at hreport
        cases hreport
        refine Or.inl ⟨?_, rfl⟩
        rintro ⟨-, first', rest', hread, d, hd'⟩
        rw [hvalues] at hread
        cases hread
        rw [hd] at hd'
        cases hd'
      | some d =>
        simp only [hd] at hreport
        cases hreport
        exact Or.inr ⟨⟨hlength, first, rest, hvalues, d, hd⟩, _, _, _, rfl⟩
  · cases h
    exact Or.inl ⟨fun hd => hlength hd.1, rfl⟩

/-- Two records of a group are reported together exactly where the group disagrees. -/
theorem reports_iff {records : List EvidenceRecord} {cs : List Conflict}
    (h : conflictsOf v records = .ok cs) {subjectId metric : String} {r t : EvidenceRecord}
    (hr : r ∈ group v records subjectId metric) (ht : t ∈ group v records subjectId metric) :
    Reports cs subjectId metric r t ↔ Discrepant v (group v records subjectId metric) := by
  obtain ⟨subjects, hsubjects, hcs⟩ := bind_eq_ok.mp h
  cases hcs
  have hentry : (subjectId, records.filter fun r => r.subjectId = subjectId) ∈
      (bySubject records).entries := by
    obtain ⟨hmem, hof, -⟩ := mem_group.mp hr
    exact mem_bySubject.mpr ⟨⟨r, hmem, hof⟩, rfl⟩
  constructor
  · rintro ⟨spread, listed, divergence, note, hc, -⟩
    obtain ⟨part, hpart, hc⟩ := List.mem_flatten.mp hc
    obtain ⟨⟨other, recs⟩, hother, hpart⟩ := (mem_of_mapM_ok hsubjects part).mp hpart
    obtain ⟨-, rfl⟩ := mem_bySubject.mp hother
    obtain ⟨metrics, hmetrics, heq⟩ := bind_eq_ok.mp hpart
    cases heq
    rcases List.mem_append.mp hc with hc | hc
    · obtain ⟨found, hfound, hc⟩ := List.mem_flatten.mp hc
      obtain ⟨⟨otherMetric, g⟩, hg, hfound⟩ := (mem_of_mapM_ok hmetrics found).mp hfound
      obtain ⟨-, rfl⟩ := mem_obsByMetric.mp hg
      rcases metricConflicts_cases hfound with ⟨-, rfl⟩ | ⟨hdiscrepant, _, _, _, rfl⟩
      · cases hc
      · cases List.mem_singleton.mp hc
        exact hdiscrepant
    · unfold stateConflicts at hc
      simp only at hc
      split_ifs at hc
      · cases List.mem_singleton.mp hc
      · cases hc
  · intro hdiscrepant
    obtain ⟨part, hpart⟩ := mapM_ok_iff.mp ⟨_, hsubjects⟩ _ hentry
    obtain ⟨metrics, hmetrics, heq⟩ := bind_eq_ok.mp hpart
    cases heq
    have hgroup : (metric, group v records subjectId metric) ∈
        (obsByMetric v (records.filter fun r => r.subjectId = subjectId)).entries :=
      mem_obsByMetric.mpr ⟨List.ne_nil_of_mem hr, rfl⟩
    obtain ⟨found, hfound⟩ := mapM_ok_iff.mp ⟨_, hmetrics⟩ _ hgroup
    rcases metricConflicts_cases hfound with ⟨hagree, -⟩ | ⟨-, spread, divergence, note, rfl⟩
    · exact absurd hdiscrepant hagree
    · refine ⟨spread, _, divergence, note, ?_, List.mem_map_of_mem hr, List.mem_map_of_mem ht⟩
      have hmetric := (mem_of_mapM_ok hmetrics _).mpr ⟨_, hgroup, hfound⟩
      have hsubject := (mem_of_mapM_ok hsubjects _).mpr ⟨_, hentry, hpart⟩
      refine List.mem_flatten.mpr ⟨_, hsubject, List.mem_append_left _ ?_⟩
      exact List.mem_flatten.mpr ⟨_, hmetric, List.mem_singleton_self _⟩

/-- Two numbers that differ by more than a fifth of the smaller one are reported exactly where the
first value is a number and all numbers are positive. -/
theorem discrepancy_iff {first : FloatNumber} {rest : List FloatNumber} {a b : ℚ}
    (ha : .finite a ∈ first :: rest) (hb : .finite b ∈ first :: rest)
    (hab : 2 / 10 * min |a| |b| < |a - b|) :
    (∃ d, discrepancy first rest = some d) ↔
      first ≠ .nan ∧ ∀ x ∈ first :: rest, x ≠ .nan → x.Positive := by
  constructor
  · rintro ⟨d, hd⟩
    have hleast : ∃ least, FloatNumber.least first rest = .finite least ∧ 0 < least := by
      unfold discrepancy at hd
      split at hd
      · rename_i least greatest hl hg
        split_ifs at hd with hpositive
        exact ⟨least, hl, hpositive.1⟩
      · rename_i least hl hg
        split_ifs at hd with hpositive
        exact ⟨least, hl, hpositive⟩
      · cases hd
    obtain ⟨least, hl, hpositive⟩ := hleast
    have hfirst : first ≠ .nan := by
      rintro rfl
      rw [FloatNumber.least_nan] at hl
      cases hl
    obtain ⟨-, -, hleast⟩ := FloatNumber.least_spec first hfirst rest
    have hlp : (FloatNumber.least first rest).Positive := by
      rw [hl]
      exact hpositive
    exact ⟨hfirst, fun x hx hnan => hlp.of_le hnan (hleast x hx hnan)⟩
  · rintro ⟨hfirst, hpositive⟩
    obtain ⟨hlnan, hlmem, hleast⟩ := FloatNumber.least_spec first hfirst rest
    obtain ⟨hgnan, -, hgreatest⟩ := FloatNumber.greatest_spec first hfirst rest
    obtain ⟨least, hl, hl0, hla⟩ :=
      (hpositive _ hlmem hlnan).finite_of_le (hleast _ ha (by simp))
    have hlb : least ≤ b := by
      have hle := hleast _ hb (by simp)
      rwa [hl, FloatNumber.order_finite_le] at hle
    rcases FloatNumber.finite_or_posInf hgnan (hgreatest _ ha (by simp)) with hg | ⟨g, hg, hag⟩
    · exact ⟨_, by rw [discrepancy, hl, hg]; exact if_pos hl0⟩
    · have hbg : b ≤ g := by
        have hle := hgreatest _ hb (by simp)
        rwa [hg, FloatNumber.order_finite_le] at hle
      have hspread : 2 / 10 < (g - least) / least := by
        rw [lt_div_iff₀ hl0]
        have hmin : least ≤ min |a| |b| :=
          le_min (hla.trans (le_abs_self a)) (hlb.trans (le_abs_self b))
        have habs : |a - b| ≤ g - least := by
          rw [abs_le]
          constructor <;> linarith
        linarith
      exact ⟨_, by rw [discrepancy, hl, hg]; exact if_pos ⟨hl0, hspread⟩⟩

/-- The first value of a group is a number, and every number in it is positive. -/
structure Comparable (v : ValueReading) (g : List EvidenceRecord) : Prop where
  first : ∀ r, g.head? = some r → r.valueOf v ≠ .ok .nan
  positive : ∀ r ∈ g, ∀ x, r.valueOf v = .ok x → x ≠ .nan → x.Positive

theorem comparable_iff {g : List EvidenceRecord} {first : FloatNumber} {rest : List FloatNumber}
    (h : g.mapM (EvidenceRecord.valueOf v) = .ok (first :: rest)) :
    Comparable v g ↔ first ≠ .nan ∧ ∀ x ∈ first :: rest, x ≠ .nan → x.Positive := by
  have hmem := mem_of_mapM_ok h
  have hmap := mapM_eq_ok_iff.mp h
  cases g with
  | nil => cases hmap
  | cons r g =>
    have hfirst : r.valueOf v = .ok first := (List.cons.inj hmap).1
    constructor
    · rintro ⟨hhead, hpositive⟩
      refine ⟨fun hnan => hhead r rfl (hnan ▸ hfirst), fun x hx hnan => ?_⟩
      obtain ⟨t, ht, hvalue⟩ := (hmem x).mp hx
      exact hpositive t ht x hvalue hnan
    · rintro ⟨hnan, hpositive⟩
      refine ⟨?_, fun t ht x hvalue hxnan => hpositive x ((hmem x).mpr ⟨t, ht, hvalue⟩) hxnan⟩
      rintro t ht hvalue
      cases ht
      rw [hfirst] at hvalue
      exact hnan (Except.ok.inj hvalue)

/-- Two observations of a group that disagree are reported together exactly where all compared
values of the records are read and the group is comparable. -/
theorem conflictsOf_reports_iff {records : List EvidenceRecord} {subjectId metric : String}
    {r t : EvidenceRecord} (hr : r ∈ group v records subjectId metric)
    (ht : t ∈ group v records subjectId metric) {a b : ℚ} (ha : r.valueOf v = .ok (.finite a))
    (hb : t.valueOf v = .ok (.finite b)) (hab : 2 / 10 * min |a| |b| < |a - b|) :
    (∃ cs, conflictsOf v records = .ok cs ∧ Reports cs subjectId metric r t) ↔
      Readable v records ∧ Comparable v (group v records subjectId metric) := by
  have hne : r ≠ t := by
    rintro rfl
    rw [ha] at hb
    cases hb
    rw [sub_self, abs_zero] at hab
    exact absurd hab (not_lt.mpr (by positivity))
  have hlength : 2 ≤ (group v records subjectId metric).length := by
    match hg : group v records subjectId metric with
    | [] => simp [hg] at hr
    | [s] =>
      rw [hg] at hr ht
      exact absurd ((List.mem_singleton.mp hr).trans (List.mem_singleton.mp ht).symm) hne
    | _ :: _ :: _ => simp
  have hdiscrepant : Readable v records →
      (Discrepant v (group v records subjectId metric) ↔
        Comparable v (group v records subjectId metric)) := by
    intro hreadable
    obtain ⟨values, hvalues⟩ := mapM_ok_iff.mpr (hreadable subjectId metric hlength)
    have hmem := mem_of_mapM_ok hvalues
    cases values with
    | nil => exact absurd ((hmem _).mpr ⟨r, hr, ha⟩) List.not_mem_nil
    | cons first rest =>
      rw [comparable_iff hvalues, ← discrepancy_iff ((hmem _).mpr ⟨r, hr, ha⟩)
        ((hmem _).mpr ⟨t, ht, hb⟩) hab]
      constructor
      · rintro ⟨-, first', rest', hread, hd⟩
        rw [hvalues] at hread
        cases hread
        exact hd
      · exact fun hd => ⟨hlength, first, rest, hvalues, hd⟩
  constructor
  · rintro ⟨cs, hcs, hreports⟩
    have hreadable := (conflictsOf_ok_iff records).mp ⟨cs, hcs⟩
    exact ⟨hreadable, (hdiscrepant hreadable).mp ((reports_iff hcs hr ht).mp hreports)⟩
  · rintro ⟨hreadable, hcomparable⟩
    obtain ⟨cs, hcs⟩ := (conflictsOf_ok_iff records).mpr hreadable
    exact ⟨cs, hcs, (reports_iff hcs hr ht).mpr ((hdiscrepant hreadable).mpr hcomparable)⟩

end Groups

end ContinuityOS.Evidence
