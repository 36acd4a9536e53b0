import ContinuityOS.Storage.Backends

/-! # The table as a map

What the table stands for is a map from tenants and record names to records. Storing a record
updates the map at one place; a lookup returns what the map has there, payload and time included,
and a query lists the map's records of a tenant and type, the latest texts of times first.
-/
namespace ContinuityOS.Storage
open Library SQLiteStorageBackend

/-- The record under a tenant and a record name. -/
abbrev Contents := String → String → Option StoredRecord

namespace Contents

def empty : Contents := fun _ _ => none

def put (contents : Contents) (record : StoredRecord) : Contents := fun tenantId recordId =>
  if record.tenantId = tenantId ∧ record.recordId = recordId then some record
  else contents tenantId recordId

def next (contents : Contents) : StorageCall → Contents
  | .storeRecord record => contents.put record
  | _ => contents

/-- The records of a tenant and type, the latest texts of times first. -/
structure Lists (contents : Contents) (tenantId entityType : String) (listed : List StoredRecord) :
    Prop where
  nodup : (listed.map StoredRecord.recordId).Nodup
  mem : ∀ record, record ∈ listed ↔ record.tenantId = tenantId ∧ record.entityType = entityType ∧
    contents record.tenantId record.recordId = some record
  latest : listed.Pairwise fun a b => b.createdAt.isoformat ≤ a.createdAt.isoformat

/-- What a call returns of the map. -/
def Answers (contents : Contents) : StorageCall → StorageResult → Prop
  | .storeRecord _, result => result = .stored
  | .getRecord tenantId recordId, result => result = .record (contents tenantId recordId)
  | .queryRecords tenantId entityType limit, result =>
    if 2 ^ 63 ≤ limit then result = .overflowError
    else ∃ listed, contents.Lists tenantId entityType listed ∧ result = .records (listed.take limit)

end Contents

/-- Every call of a run on the table is answered as from the map. -/
def RunAnswers : Contents → List Row → List StorageCall → Prop
  | _, _, [] => True
  | contents, rows, call :: calls => contents.Answers call (step jsonText rows call).1 ∧
      RunAnswers (contents.next call) (step jsonText rows call).2 calls

/-- The rows are those of the records in the map, one for each place. -/
structure Represents (records : List StoredRecord) (rows : List Row) (contents : Contents) :
    Prop where
  rows_eq : rows = records.map (rowOf jsonText)
  proper : ∀ record ∈ records, (Json.object record.payload).proper = true
  apart : records.Pairwise fun a b => ¬(a.tenantId = b.tenantId ∧ a.recordId = b.recordId)
  mem : ∀ record, record ∈ records ↔ contents record.tenantId record.recordId = some record
  placed : ∀ tenantId recordId record, contents tenantId recordId = some record →
    record.tenantId = tenantId ∧ record.recordId = recordId

section Steps
variable {records : List StoredRecord} {rows : List Row} {contents : Contents}

theorem represents_empty : Represents [] [] Contents.empty where
  rows_eq := rfl
  proper := List.forall_mem_nil _
  apart := List.Pairwise.nil
  mem _ := ⟨fun h => absurd h List.not_mem_nil, fun h => nomatch h⟩
  placed _ _ _ h := nomatch h

theorem Represents.put (h : Represents records rows contents) {record : StoredRecord}
    (hproper : (Json.object record.payload).proper = true) :
    Represents (replaced records record) (storeRecord jsonText rows record)
      (contents.put record) where
  rows_eq := by
    rw [storeRecord, h.rows_eq, replaced, List.map_append, List.filter_map]
    rfl
  proper := by
    intro other hother
    rcases List.mem_append.mp hother with hold | hnew
    · exact h.proper other (List.mem_of_mem_filter hold)
    · rw [List.mem_singleton.mp hnew]
      exact hproper
  apart := by
    refine List.pairwise_append.mpr ⟨h.apart.filter _, List.pairwise_singleton _ _, ?_⟩
    intro a ha b hb
    rw [List.mem_singleton.mp hb]
    exact of_decide_eq_true (List.mem_filter.mp ha).2
  mem := by
    intro other
    rw [replaced, List.mem_append, List.mem_filter, List.mem_singleton, Contents.put]
    by_cases hplace : record.tenantId = other.tenantId ∧ record.recordId = other.recordId
    · rw [if_pos hplace, Option.some.injEq]
      constructor
      · rintro (⟨-, hapart⟩ | rfl)
        · exact absurd ⟨hplace.1.symm, hplace.2.symm⟩ (of_decide_eq_true hapart)
        · rfl
      · exact fun heq => Or.inr heq.symm
    · rw [if_neg hplace, ← h.mem other]
      constructor
      · rintro (⟨hmem, -⟩ | rfl)
        · exact hmem
        · exact absurd ⟨rfl, rfl⟩ hplace
      · exact fun hmem => Or.inl ⟨hmem, decide_eq_true fun hsame =>
          hplace ⟨hsame.1.symm, hsame.2.symm⟩⟩
  placed := by
    intro tenantId recordId found hfound
    rw [Contents.put] at hfound
    split_ifs at hfound with hplace
    · cases hfound
      exact hplace
    · exact h.placed tenantId recordId found hfound

theorem Represents.find?_records (h : Represents records rows contents)
    (tenantId recordId : String) :
    records.find? (fun record => record.tenantId = tenantId ∧ record.recordId = recordId) =
      contents tenantId recordId := by
  cases hother : records.find? fun record =>
      record.tenantId = tenantId ∧ record.recordId = recordId with
  | none =>
    cases hfound : contents tenantId recordId with
    | none => rfl
    | some record =>
      obtain ⟨rfl, rfl⟩ := h.placed tenantId recordId record hfound
      have hnot := List.find?_eq_none.mp hother record ((h.mem record).mpr hfound)
      exact absurd (decide_eq_true ⟨rfl, rfl⟩) hnot
  | some record =>
    have hplace := List.find?_some hother
    obtain ⟨rfl, rfl⟩ := of_decide_eq_true hplace
    exact ((h.mem record).mp (List.mem_of_find?_eq_some hother)).symm

theorem Represents.getRecord (h : Represents records rows contents) (tenantId recordId : String) :
    getRecord jsonText rows tenantId recordId = .record (contents tenantId recordId) := by
  have hfind : rows.find? (fun row => row.tenantId = tenantId ∧ row.recordId = recordId) =
      (contents tenantId recordId).map (rowOf jsonText) := by
    rw [h.rows_eq, List.find?_map, ← h.find?_records tenantId recordId]
    rfl
  rw [SQLiteStorageBackend.getRecord, hfind]
  cases hfound : contents tenantId recordId with
  | none => rfl
  | some record =>
    obtain ⟨rfl, rfl⟩ := h.placed tenantId recordId record hfound
    have hproper := h.proper record ((h.mem record).mpr hfound)
    rw [Option.map_some]
    simp only [recordOf_rowOf (loads_dumps_payload hproper)]

theorem Represents.queryRecords (h : Represents records rows contents)
    (tenantId entityType : String) {limit : ℕ} (hlimit : limit < 2 ^ 63) :
    ∃ listed, contents.Lists tenantId entityType listed ∧
      queryRecords jsonText rows tenantId entityType limit = .records (listed.take limit) := by
  set chosen := records.filter fun record =>
    record.tenantId = tenantId ∧ record.entityType = entityType with hchosen
  set listed := (sortedBy (fun record => record.createdAt.isoformat) chosen).reverse with hlisted
  have hperm : listed.Perm chosen := (List.reverse_perm _).trans (sortedBy_perm _ _)
  have hmem : ∀ record, record ∈ listed ↔ record ∈ records ∧
      record.tenantId = tenantId ∧ record.entityType = entityType := by
    intro record
    rw [hperm.mem_iff, hchosen, List.mem_filter, decide_eq_true_eq]
  refine ⟨listed, ⟨?_, ?_, ?_⟩, ?_⟩
  · rw [(hperm.map _).nodup_iff]
    refine List.pairwise_map.mpr ((h.apart.filter _).imp_of_mem fun {a b} ha hb hapart => ?_)
    have htenant := (of_decide_eq_true (List.mem_filter.mp ha).2).1
    have hother := (of_decide_eq_true (List.mem_filter.mp hb).2).1
    exact fun hname => hapart ⟨htenant.trans hother.symm, hname⟩
  · intro record
    rw [hmem, h.mem record]
    tauto
  · rw [hlisted, List.pairwise_reverse]
    exact pairwise_sortedBy _ _
  · have hselected : (rows.filter fun row =>
        row.tenantId = tenantId ∧ row.entityType = entityType) = chosen.map (rowOf jsonText) := by
      rw [h.rows_eq, List.filter_map]
      rfl
    have hsorted : (sortedBy Row.createdAt (chosen.map (rowOf jsonText))).reverse =
        listed.map (rowOf jsonText) := by
      rw [sortedBy_map, hlisted, List.map_reverse]
      rfl
    have hread : ((listed.take limit).map (rowOf jsonText)).mapM (recordOf jsonText) =
        some (listed.take limit) := mapM_recordOf fun record hrecord =>
      loads_dumps_payload (h.proper record ((hmem record).mp (List.mem_of_mem_take hrecord)).1)
    rw [SQLiteStorageBackend.queryRecords, if_neg (not_le.mpr hlimit)]
    simp only [hselected, hsorted, ← List.map_take, hread]

/-- One call is answered as from the map, and leaves rows that represent the next map. -/
theorem Represents.step (h : Represents records rows contents) (call : StorageCall)
    (hproper : ∀ record, call = .storeRecord record → (Json.object record.payload).proper = true) :
    contents.Answers call (step jsonText rows call).1 ∧
      ∃ records', Represents records' (step jsonText rows call).2 (contents.next call) := by
  cases call with
  | storeRecord record => exact ⟨rfl, _, h.put (hproper record rfl)⟩
  | getRecord tenantId recordId => exact ⟨h.getRecord tenantId recordId, records, h⟩
  | queryRecords tenantId entityType limit =>
    refine ⟨?_, records, h⟩
    by_cases hlimit : 2 ^ 63 ≤ limit
    · rw [Contents.Answers, if_pos hlimit]
      exact if_pos hlimit
    · rw [Contents.Answers, if_neg hlimit]
      exact h.queryRecords tenantId entityType (not_le.mp hlimit)

theorem Represents.run (h : Represents records rows contents) (calls : List StorageCall)
    (hproper : ∀ record ∈ storedRecords calls, (Json.object record.payload).proper = true) :
    RunAnswers contents rows calls := by
  induction calls generalizing records rows contents with
  | nil => trivial
  | cons call calls ih =>
    have hcall : ∀ record, call = .storeRecord record →
        (Json.object record.payload).proper = true := by
      rintro record rfl
      exact hproper record List.mem_cons_self
    have hrest : ∀ record ∈ storedRecords calls,
        (Json.object record.payload).proper = true := by
      intro record hrecord
      refine hproper record ?_
      cases call with
      | storeRecord other => exact List.mem_cons_of_mem _ hrecord
      | _ => exact hrecord
    obtain ⟨hanswers, records', hnext⟩ := h.step call hcall
    exact ⟨hanswers, ih hnext hrest⟩

end Steps

/-- In every run on an empty table that stores proper payloads, lookups return the record last
stored under the tenant and name, and queries list the tenant's records of the type. -/
theorem runAnswers_lastStored (calls : List StorageCall)
    (hproper : ∀ record ∈ storedRecords calls, (Json.object record.payload).proper = true) :
    RunAnswers Contents.empty [] calls := represents_empty.run calls hproper

section Sample

def payloadRecord (days : ℤ) : StoredRecord :=
  { sampleStored "a" "1" sampleTime with
    payload := [("state", .string "fermé"), ("days", .array [.int days, .float "0.5"])] }

/-- The second record replaces the first. -/
theorem runAnswers_lastStored_sample :
    RunAnswers Contents.empty []
      [.storeRecord (payloadRecord 1), .storeRecord (payloadRecord 2), .getRecord "a" "1"] :=
  runAnswers_lastStored _ fun record hrecord => by
    rcases List.mem_pair.mp hrecord with rfl | rfl <;> decide +kernel

end Sample

end ContinuityOS.Storage
