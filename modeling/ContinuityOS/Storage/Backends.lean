import ContinuityOS.Library.DateTime
import ContinuityOS.Library.Dict
import ContinuityOS.Library.JsonRoundTrip
import ContinuityOS.Library.Sorting
import ContinuityOS.Library.Text

/-! # The two storage backends

One backend keeps rows under tenant and record, with times as text; the other keeps records
under the joined text of tenant and record, with times as times. They agree as long as joined
texts stay apart, texts of times are in the order of the times and limits fit in 63 bits, as
in every run over times in UTC with tenants without a colon.
-/
namespace ContinuityOS.Storage
open Library

structure StoredRecord where
  recordId : String
  tenantId : String
  entityType : String
  payload : List (String × Json)
  createdAt : DateTime

/-- The text of a payload and the payload of a text. -/
structure JsonText where
  dumps : List (String × Json) → String
  loads : String → List (String × Json)

/-- The writer and the reader of the language's own library. -/
def jsonText : JsonText where
  dumps payload := String.ofList (Json.object payload).dumpsDefault
  loads text :=
    match Json.loads text.toList with
    | some (.object members) => members
    | _ => []

theorem loads_dumps_payload {payload : List (String × Json)}
    (h : (Json.object payload).proper = true) :
    jsonText.loads (jsonText.dumps payload) = payload := by
  simp only [jsonText, String.toList_ofList, Json.loads_dumpsDefault h]

inductive StorageCall where
  | storeRecord (record : StoredRecord)
  | getRecord (tenantId recordId : String)
  | queryRecords (tenantId entityType : String) (limit : ℕ)

inductive StorageResult where
  | stored
  | record (found : Option StoredRecord)
  | records (found : List StoredRecord)
  | overflowError
  | valueError

namespace SQLiteStorageBackend

/-- A row of the table `enterprise_records`. -/
structure Row where
  recordId : String
  tenantId : String
  entityType : String
  payload : String
  createdAt : String

variable (json : JsonText)

def rowOf (record : StoredRecord) : Row where
  recordId := record.recordId
  tenantId := record.tenantId
  entityType := record.entityType
  payload := json.dumps record.payload
  createdAt := record.createdAt.isoformat

def recordOf (row : Row) : Option StoredRecord :=
  (DateTime.fromisoformat row.createdAt).map fun createdAt =>
    { recordId := row.recordId, tenantId := row.tenantId, entityType := row.entityType
      payload := json.loads row.payload, createdAt := createdAt }

/-- The row replaces the one with its primary key. -/
def storeRecord (rows : List Row) (record : StoredRecord) : List Row :=
  (rows.filter fun row => ¬(row.tenantId = record.tenantId ∧ row.recordId = record.recordId))
    ++ [rowOf json record]

def getRecord (rows : List Row) (tenantId recordId : String) : StorageResult :=
  match rows.find? fun row => row.tenantId = tenantId ∧ row.recordId = recordId with
  | none => .record none
  | some row =>
    match recordOf json row with
    | none => .valueError
    | some record => .record (some record)

/-- A limit beyond 63 bits cannot be bound to the statement. -/
def queryRecords (rows : List Row) (tenantId entityType : String) (limit : ℕ) : StorageResult :=
  if 2 ^ 63 ≤ limit then .overflowError
  else
    let selected := rows.filter fun row => row.tenantId = tenantId ∧ row.entityType = entityType
    match ((sortedBy Row.createdAt selected).reverse.take limit).mapM (recordOf json) with
    | none => .valueError
    | some records => .records records

def step (rows : List Row) : StorageCall → StorageResult × List Row
  | .storeRecord record => (.stored, storeRecord json rows record)
  | .getRecord tenantId recordId => (getRecord json rows tenantId recordId, rows)
  | .queryRecords tenantId entityType limit =>
    (queryRecords json rows tenantId entityType limit, rows)

end SQLiteStorageBackend

namespace PostgreSQLStorageBackend

/-- The memory cache that stands in for the database. -/
abbrev MemoryCache := Dict String StoredRecord

def keyOf (tenantId recordId : String) : String := tenantId ++ ":" ++ recordId

def values (memory : MemoryCache) : List StoredRecord := memory.entries.map Prod.snd

def matching (memory : MemoryCache) (tenantId entityType : String) : List StoredRecord :=
  (values memory).filter fun record => record.tenantId = tenantId ∧ record.entityType = entityType

/-- Sorting in reverse keeps the order of equal times. -/
def queryRecords (memory : MemoryCache) (tenantId entityType : String) (limit : ℕ) :
    List StoredRecord :=
  ((sortedBy (fun record => record.createdAt.instant)
    (matching memory tenantId entityType).reverse).reverse).take limit

def step (memory : MemoryCache) : StorageCall → StorageResult × MemoryCache
  | .storeRecord record => (.stored, memory.set (keyOf record.tenantId record.recordId) record)
  | .getRecord tenantId recordId => (.record (memory.get? (keyOf tenantId recordId)), memory)
  | .queryRecords tenantId entityType limit =>
    (.records (queryRecords memory tenantId entityType limit), memory)

/-- The joined text of a call names its own record, a limit fits, and the times a query sorts
have texts in their order. -/
def Meets (memory : MemoryCache) : StorageCall → Prop
  | .storeRecord record => ∀ other, memory.get? (keyOf record.tenantId record.recordId) = some other →
      other.tenantId = record.tenantId ∧ other.recordId = record.recordId
  | .getRecord tenantId recordId => ∀ other, memory.get? (keyOf tenantId recordId) = some other →
      other.tenantId = tenantId ∧ other.recordId = recordId
  | .queryRecords tenantId entityType limit => limit < 2 ^ 63 ∧
      ∀ a ∈ matching memory tenantId entityType, ∀ b ∈ matching memory tenantId entityType,
        a.createdAt.instant < b.createdAt.instant → a.createdAt.isoformat < b.createdAt.isoformat

/-- Every call of a run meets the condition on the memory it finds. -/
def RunMeets : MemoryCache → List StorageCall → Prop
  | _, [] => True
  | memory, call :: calls => Meets memory call ∧ RunMeets (step memory call).2 calls

end PostgreSQLStorageBackend

/-- Both backends return the same, and a record that is found belongs to the tenant that asks. -/
def AgreesAt (json : JsonText) (rows : List SQLiteStorageBackend.Row)
    (memory : PostgreSQLStorageBackend.MemoryCache) (call : StorageCall) : Prop :=
  (SQLiteStorageBackend.step json rows call).1 = (PostgreSQLStorageBackend.step memory call).1 ∧
    ∀ tenantId recordId, call = .getRecord tenantId recordId → ∀ record,
      (SQLiteStorageBackend.step json rows call).1 = .record (some record) ∨
          (PostgreSQLStorageBackend.step memory call).1 = .record (some record) →
        record.tenantId = tenantId

def RunAgrees (json : JsonText) : List SQLiteStorageBackend.Row →
    PostgreSQLStorageBackend.MemoryCache → List StorageCall → Prop
  | _, _, [] => True
  | rows, memory, call :: calls => AgreesAt json rows memory call ∧
      RunAgrees json (SQLiteStorageBackend.step json rows call).2
        (PostgreSQLStorageBackend.step memory call).2 calls

/-- The records that are stored in a run. -/
def storedRecords (calls : List StorageCall) : List StoredRecord :=
  calls.filterMap fun call =>
    match call with
    | .storeRecord record => some record
    | _ => none

open PostgreSQLStorageBackend

/-- The rows and the memory hold the same records, and their times differ. -/
structure Related (json : JsonText) (records : List StoredRecord)
    (rows : List SQLiteStorageBackend.Row) (memory : MemoryCache) : Prop where
  rows_eq : rows = records.map (SQLiteStorageBackend.rowOf json)
  perm : records.Perm (values memory)
  keyed : ∀ key record, memory.get? key = some record →
    key = keyOf record.tenantId record.recordId
  loads_dumps : ∀ record ∈ records, json.loads (json.dumps record.payload) = record.payload
  apart : records.Pairwise fun a b => a.createdAt.instant ≠ b.createdAt.instant

section Steps
variable {json : JsonText} {records : List StoredRecord} {rows : List SQLiteStorageBackend.Row}
  {memory : MemoryCache}

theorem mem_values {record : StoredRecord} :
    record ∈ values memory ↔ ∃ key, memory.get? key = some record := by
  rw [values, List.mem_map]
  constructor
  · rintro ⟨⟨key, found⟩, hentry, rfl⟩
    exact ⟨key, (Dict.mem_entries memory key found).mp hentry⟩
  · rintro ⟨key, hget⟩
    exact ⟨(key, record), (Dict.mem_entries memory key record).mpr hget, rfl⟩

theorem recordOf_rowOf {record : StoredRecord}
    (h : json.loads (json.dumps record.payload) = record.payload) :
    SQLiteStorageBackend.recordOf json (SQLiteStorageBackend.rowOf json record) = some record := by
  simp only [SQLiteStorageBackend.recordOf, SQLiteStorageBackend.rowOf,
    DateTime.fromisoformat_isoformat, h, Option.map_some]

theorem mapM_recordOf {found : List StoredRecord}
    (h : ∀ record ∈ found, json.loads (json.dumps record.payload) = record.payload) :
    (found.map (SQLiteStorageBackend.rowOf json)).mapM (SQLiteStorageBackend.recordOf json) =
      some found := by
  induction found with
  | nil => rfl
  | cons record found ih =>
    rw [List.forall_mem_cons] at h
    rw [List.map_cons, List.mapM_cons, recordOf_rowOf h.1, ih h.2]
    rfl

/-- Assigning leaves the values of the other keys and adds the new one. -/
theorem values_set_perm (key : String) (record : StoredRecord) :
    (values (memory.set key record)).Perm
      (((memory.entries.filter fun entry => entry.1 ≠ key).map Prod.snd) ++ [record]) := by
  have hassign : ∀ l : List (String × StoredRecord), (l.map Prod.fst).Nodup →
      (Bindings.assign l key record).Perm ((l.filter fun entry => entry.1 ≠ key) ++ [(key, record)]) := by
    intro l hl
    induction l with
    | nil => exact List.Perm.refl _
    | cons entry l ih =>
      obtain ⟨k, found⟩ := entry
      rw [List.map_cons, List.nodup_cons] at hl
      by_cases hk : k = key
      · have hrest : l.filter (fun entry => entry.1 ≠ key) = l := by
          rw [List.filter_eq_self]
          intro entry hentry
          rw [decide_eq_true_eq]
          exact fun heq => hl.1 (List.mem_map.mpr ⟨entry, hentry, heq.trans hk.symm⟩)
        rw [Bindings.assign, if_pos hk, List.filter_cons_of_neg (by simpa using hk), hrest]
        exact (List.perm_append_singleton _ _).symm
      · rw [Bindings.assign, if_neg hk, List.filter_cons_of_pos (by simpa using hk),
          List.cons_append]
        exact (ih hl.2).cons _
  have hperm := (hassign memory.entries memory.nodup).map Prod.snd
  rw [List.map_append] at hperm
  exact hperm

/-- The records after a record is stored. -/
def replaced (records : List StoredRecord) (record : StoredRecord) : List StoredRecord :=
  (records.filter fun other =>
    ¬(other.tenantId = record.tenantId ∧ other.recordId = record.recordId)) ++ [record]

theorem Related.store (h : Related json records rows memory) {record : StoredRecord}
    (hmeets : Meets memory (.storeRecord record))
    (hjson : json.loads (json.dumps record.payload) = record.payload)
    (hnew : ∀ other ∈ records, other.createdAt.instant ≠ record.createdAt.instant) :
    Related json (replaced records record) (SQLiteStorageBackend.storeRecord json rows record)
      (memory.set (keyOf record.tenantId record.recordId) record) where
  rows_eq := by
    rw [SQLiteStorageBackend.storeRecord, h.rows_eq, replaced, List.map_append, List.filter_map]
    rfl
  perm := by
    have hvalues : (memory.entries.filter fun entry =>
          entry.1 ≠ keyOf record.tenantId record.recordId).map Prod.snd =
        (values memory).filter fun other =>
          ¬(other.tenantId = record.tenantId ∧ other.recordId = record.recordId) := by
      rw [values, List.filter_map]
      refine congrArg (List.map Prod.snd) (List.filter_congr fun entry hentry => ?_)
      have hget := (Dict.mem_entries memory entry.1 entry.2).mp hentry
      have hkey := h.keyed entry.1 entry.2 hget
      change decide (entry.1 ≠ keyOf record.tenantId record.recordId) =
        decide ¬(entry.2.tenantId = record.tenantId ∧ entry.2.recordId = record.recordId)
      rw [decide_eq_decide]
      refine not_congr ⟨fun heq => hmeets entry.2 (heq ▸ hget), fun hpair => ?_⟩
      rw [hkey, hpair.1, hpair.2]
    refine List.Perm.trans ?_ (values_set_perm _ _).symm
    rw [hvalues, replaced]
    exact (h.perm.filter _).append_right [record]
  keyed := by
    intro key found hget
    rw [Dict.get?_set] at hget
    split_ifs at hget with hkey
    · cases hget
      exact hkey.symm
    · exact h.keyed key found hget
  loads_dumps := by
    intro found hmem
    rcases List.mem_append.mp hmem with hold | hlast
    · exact h.loads_dumps found (List.mem_of_mem_filter hold)
    · rw [List.mem_singleton.mp hlast]
      exact hjson
  apart := by
    refine List.pairwise_append.mpr ⟨h.apart.filter _, List.pairwise_singleton _ _, ?_⟩
    intro other hother found hfound
    rw [List.mem_singleton.mp hfound]
    exact hnew other (List.mem_of_mem_filter hother)

/-- Where the joined text names its own record, both backends find the same, for the tenant. -/
theorem Related.get (h : Related json records rows memory) {tenantId recordId : String}
    (hmeets : Meets memory (.getRecord tenantId recordId)) :
    SQLiteStorageBackend.getRecord json rows tenantId recordId =
        .record (memory.get? (keyOf tenantId recordId)) ∧
      ∀ record, memory.get? (keyOf tenantId recordId) = some record → record.tenantId = tenantId := by
  refine ⟨?_, fun record hget => (hmeets record hget).1⟩
  have hfind : (rows.find? fun row => row.tenantId = tenantId ∧ row.recordId = recordId) =
      (memory.get? (keyOf tenantId recordId)).map (SQLiteStorageBackend.rowOf json) := by
    rw [h.rows_eq, List.find?_map]
    apply congrArg
    cases hget : memory.get? (keyOf tenantId recordId) with
    | none =>
      rw [List.find?_eq_none]
      intro other hother hpair
      have hpair' : other.tenantId = tenantId ∧ other.recordId = recordId := of_decide_eq_true hpair
      obtain ⟨key, hfound⟩ := mem_values.mp (h.perm.mem_iff.mp hother)
      rw [h.keyed key other hfound, hpair'.1, hpair'.2, hget] at hfound
      cases hfound
    | some record =>
      have hmem : record ∈ records := h.perm.mem_iff.mpr (mem_values.mpr ⟨_, hget⟩)
      cases hfound : records.find? ((fun row : SQLiteStorageBackend.Row =>
          decide (row.tenantId = tenantId ∧ row.recordId = recordId)) ∘
            SQLiteStorageBackend.rowOf json) with
      | none =>
        exact absurd (decide_eq_true (hmeets record hget)) (List.find?_eq_none.mp hfound record hmem)
      | some other =>
        have hholds := List.find?_some hfound
        have hpair : other.tenantId = tenantId ∧ other.recordId = recordId :=
          of_decide_eq_true hholds
        obtain ⟨key, hother⟩ := mem_values.mp (h.perm.mem_iff.mp (List.mem_of_find?_eq_some hfound))
        rw [h.keyed key other hother, hpair.1, hpair.2, hget] at hother
        exact hother.symm
  rw [SQLiteStorageBackend.getRecord, hfind]
  cases hget : memory.get? (keyOf tenantId recordId) with
  | none => rfl
  | some record =>
    have hmem : record ∈ records := h.perm.mem_iff.mpr (mem_values.mpr ⟨_, hget⟩)
    simp only [Option.map_some, recordOf_rowOf (h.loads_dumps record hmem)]

/-- Where texts are in the order of times, both backends sort alike. -/
theorem Related.query (h : Related json records rows memory) {tenantId entityType : String}
    {limit : ℕ} (hmeets : Meets memory (.queryRecords tenantId entityType limit)) :
    SQLiteStorageBackend.queryRecords json rows tenantId entityType limit =
      .records (PostgreSQLStorageBackend.queryRecords memory tenantId entityType limit) := by
  obtain ⟨hlimit, hordered⟩ := hmeets
  let sorted := sortedBy (fun record : StoredRecord => record.createdAt.instant)
    (matching memory tenantId entityType).reverse
  have hmatching : (matching memory tenantId entityType).Perm
      (records.filter fun record => record.tenantId = tenantId ∧ record.entityType = entityType) :=
    (h.perm.filter _).symm
  have hsorted : sorted.Perm (matching memory tenantId entityType) :=
    (sortedBy_perm _ _).trans (List.reverse_perm _)
  have hmem : ∀ {record}, record ∈ sorted → record ∈ records := fun hrecord =>
    List.mem_of_mem_filter (hmatching.mem_iff.mp (hsorted.mem_iff.mp hrecord))
  have hapart : sorted.Pairwise fun a b => a.createdAt.instant ≠ b.createdAt.instant :=
    ((hsorted.trans hmatching).pairwise_iff (fun hne => Ne.symm hne)).mpr (h.apart.filter _)
  have htexts : sorted.Pairwise fun a b => a.createdAt.isoformat < b.createdAt.isoformat := by
    have htimes := (pairwise_sortedBy (fun record : StoredRecord => record.createdAt.instant)
      (matching memory tenantId entityType).reverse).and hapart
    exact htimes.imp_of_mem fun ha hb hboth => hordered _ (hsorted.mem_iff.mp ha) _
      (hsorted.mem_iff.mp hb) (lt_of_le_of_ne hboth.1 hboth.2)
  have hselected : (rows.filter fun row => row.tenantId = tenantId ∧ row.entityType = entityType) =
      (records.filter fun record => record.tenantId = tenantId ∧
        record.entityType = entityType).map (SQLiteStorageBackend.rowOf json) := by
    rw [h.rows_eq, List.filter_map]
    rfl
  have hrows : sortedBy SQLiteStorageBackend.Row.createdAt
        (rows.filter fun row => row.tenantId = tenantId ∧ row.entityType = entityType) =
      sorted.map (SQLiteStorageBackend.rowOf json) := by
    have hperm : (sortedBy SQLiteStorageBackend.Row.createdAt
          (rows.filter fun row => row.tenantId = tenantId ∧ row.entityType = entityType)).Perm
        (sorted.map (SQLiteStorageBackend.rowOf json)) := by
      rw [hselected]
      exact (sortedBy_perm _ _).trans ((hsorted.trans hmatching).symm.map _)
    have hstrict : (sorted.map (SQLiteStorageBackend.rowOf json)).Pairwise
        fun a b => a.createdAt < b.createdAt := List.pairwise_map.mpr htexts
    have hne := (hperm.pairwise_iff fun hne => Ne.symm hne).mpr (hstrict.imp fun hlt => ne_of_lt hlt)
    refine hperm.eq_of_pairwise (fun a b _ _ hab hba => absurd (lt_trans hab hba) (lt_irrefl _))
      (((pairwise_sortedBy _ _).and hne).imp fun hboth => lt_of_le_of_ne hboth.1 hboth.2) hstrict
  rw [SQLiteStorageBackend.queryRecords, if_neg (not_le.mpr hlimit)]
  simp only [hrows]
  rw [← List.map_reverse, ← List.map_take, mapM_recordOf]
  · rfl
  · intro record hrecord
    exact h.loads_dumps record (hmem (List.mem_reverse.mp (List.mem_of_mem_take hrecord)))

end Steps

section Runs
variable {json : JsonText}

theorem run_agrees_of_related {calls : List StorageCall} {records : List StoredRecord}
    {rows : List SQLiteStorageBackend.Row} {memory : MemoryCache}
    (h : Related json records rows memory)
    (hjson : ∀ record ∈ storedRecords calls,
      json.loads (json.dumps record.payload) = record.payload)
    (hdistinct : ((records ++ storedRecords calls).map fun record => record.createdAt.instant).Nodup)
    (hmeets : RunMeets memory calls) : RunAgrees json rows memory calls := by
  induction calls generalizing records rows memory with
  | nil => trivial
  | cons call calls ih =>
    obtain ⟨hcall, hrest⟩ := hmeets
    cases call with
    | storeRecord record =>
      have hstored : storedRecords (.storeRecord record :: calls) = record :: storedRecords calls := rfl
      rw [hstored] at hjson hdistinct
      rw [List.forall_mem_cons] at hjson
      have hnew : ∀ other ∈ records, other.createdAt.instant ≠ record.createdAt.instant := by
        intro other hother heq
        rw [List.map_append, List.nodup_append] at hdistinct
        exact hdistinct.2.2 _ (List.mem_map_of_mem hother) _
          (List.mem_map_of_mem List.mem_cons_self) heq
      refine ⟨⟨rfl, fun tenantId recordId heq => ?_⟩,
        ih (h.store hcall hjson.1 hnew) hjson.2 ?_ hrest⟩
      · cases heq
      · have hsub : (replaced records record ++ storedRecords calls).Sublist
            (records ++ record :: storedRecords calls) := by
          rw [replaced, List.append_assoc]
          exact List.filter_sublist.append_right _
        exact (hsub.map _).nodup hdistinct
    | getRecord tenantId recordId =>
      obtain ⟨hsame, hown⟩ := h.get hcall
      refine ⟨⟨hsame, fun tenant id heq record hfound => ?_⟩, ih h hjson hdistinct hrest⟩
      cases heq
      have hget : memory.get? (keyOf tenantId recordId) = some record := by
        rcases hfound with hsqlite | hpostgres
        · exact (StorageResult.record.inj (hsame.symm.trans hsqlite))
        · exact StorageResult.record.inj hpostgres
      exact hown record hget
    | queryRecords tenantId entityType limit =>
      refine ⟨⟨h.query hcall, fun tenant id heq => ?_⟩, ih h hjson hdistinct hrest⟩
      cases heq

/-- In a run from empty backends in which every call meets the condition, the backends agree and
no record crosses tenants. -/
theorem run_agrees (json : JsonText) (calls : List StorageCall)
    (hjson : ∀ record ∈ storedRecords calls,
      json.loads (json.dumps record.payload) = record.payload)
    (hdistinct : ((storedRecords calls).map fun record => record.createdAt.instant).Nodup)
    (hmeets : RunMeets Dict.empty calls) : RunAgrees json [] Dict.empty calls := by
  have hempty : Related json [] [] Dict.empty :=
    { rows_eq := rfl
      perm := List.Perm.refl _
      keyed := fun key record hget => by cases hget
      loads_dumps := List.forall_mem_nil _
      apart := List.Pairwise.nil }
  exact run_agrees_of_related hempty hjson hdistinct hmeets

end Runs

section Utc

/-- A tenant without a colon, a time in UTC, a limit of 63 bits. -/
def StorageCall.Plain : StorageCall → Prop
  | .storeRecord record => ':' ∉ record.tenantId.toList ∧ record.createdAt.IsUtc
  | .getRecord tenantId _ => ':' ∉ tenantId.toList
  | .queryRecords _ _ limit => limit < 2 ^ 63

/-- Every record is plain and stands under its own key. -/
def PlainMemory (memory : MemoryCache) : Prop :=
  ∀ key record, memory.get? key = some record → key = keyOf record.tenantId record.recordId ∧
    ':' ∉ record.tenantId.toList ∧ record.createdAt.IsUtc

theorem PlainMemory.own {memory : MemoryCache} (h : PlainMemory memory) {tenantId recordId : String}
    (hplain : ':' ∉ tenantId.toList) {other : StoredRecord}
    (hget : memory.get? (keyOf tenantId recordId) = some other) :
    other.tenantId = tenantId ∧ other.recordId = recordId := by
  obtain ⟨hkey, hcolon, -⟩ := h _ other hget
  obtain ⟨htenant, hrecord⟩ := joined_inj (by decide) hplain hcolon hkey
  exact ⟨htenant.symm, hrecord.symm⟩

theorem PlainMemory.meets {memory : MemoryCache} (h : PlainMemory memory) {call : StorageCall}
    (hcall : call.Plain) : Meets memory call := by
  cases call with
  | storeRecord record => exact fun other hget => h.own hcall.1 hget
  | getRecord tenantId recordId => exact fun other hget => h.own hcall hget
  | queryRecords tenantId entityType limit =>
    have hutc : ∀ record ∈ matching memory tenantId entityType, record.createdAt.IsUtc := by
      intro record hrecord
      obtain ⟨key, hget⟩ := mem_values.mp (List.mem_of_mem_filter hrecord)
      exact (h key record hget).2.2
    refine ⟨hcall, fun a ha b hb hlt => ?_⟩
    exact DateTime.isoformat_lt_of_instant_lt ((hutc a ha).trans (hutc b hb).symm) hlt

theorem PlainMemory.step {memory : MemoryCache} (h : PlainMemory memory) {call : StorageCall}
    (hcall : call.Plain) : PlainMemory (step memory call).2 := by
  cases call with
  | storeRecord record =>
    intro key found hget
    rw [PostgreSQLStorageBackend.step, Dict.get?_set] at hget
    split_ifs at hget with hkey
    · cases hget
      exact ⟨hkey.symm, hcall⟩
    · exact h key found hget
  | getRecord tenantId recordId => exact h
  | queryRecords tenantId entityType limit => exact h

theorem PlainMemory.runMeets {calls : List StorageCall} {memory : MemoryCache}
    (h : PlainMemory memory) (hcalls : ∀ call ∈ calls, call.Plain) : RunMeets memory calls := by
  induction calls generalizing memory with
  | nil => trivial
  | cons call calls ih =>
    rw [List.forall_mem_cons] at hcalls
    exact ⟨h.meets hcalls.1, ih (h.step hcalls.1) hcalls.2⟩

/-- Every run of plain calls meets the condition of agreement. -/
theorem runMeets_of_plain {calls : List StorageCall} (hcalls : ∀ call ∈ calls, call.Plain) :
    RunMeets Dict.empty calls := by
  have hempty : PlainMemory Dict.empty := by
    intro key record hget
    cases hget
  exact hempty.runMeets hcalls

end Utc

section Sample

def sampleTime : DateTime where
  parts := { year := 2026, month := 1, day := 1, hour := 10, minute := 0, second := 0
             microsecond := 0, offset := 0 }
  valid := by decide

/-- An hour later on the clock, four hours earlier in fact. -/
def easternTime : DateTime where
  parts := { year := 2026, month := 1, day := 1, hour := 11, minute := 0, second := 0
             microsecond := 0, offset := 18000000000 }
  valid := by decide

def samplePayload : List (String × Json) := [("days", .int 3), ("state", .string "fermé")]

theorem samplePayload_proper : (Json.object samplePayload).proper = true := by decide +kernel

def sampleStored (tenantId recordId : String) (createdAt : DateTime) : StoredRecord where
  recordId := recordId
  tenantId := tenantId
  entityType := "observation"
  payload := samplePayload
  createdAt := createdAt

def StorageResult.recordIds : StorageResult → List String
  | .records found => found.map StoredRecord.recordId
  | _ => []

/-- A quarter of a second after the first time. -/
def quarterTime : DateTime where
  parts := { year := 2026, month := 1, day := 1, hour := 10, minute := 0, second := 0
             microsecond := 250000, offset := 0 }
  valid := by decide

/-- Two records of one type, found by their keys and sorted by a query that takes both. -/
theorem run_agrees_sample : RunAgrees jsonText [] Dict.empty
    [.storeRecord (sampleStored "a" "1" sampleTime),
      .storeRecord (sampleStored "a" "2" quarterTime), .getRecord "a" "1",
      .queryRecords "a" "observation" 10] := by
  have hplain : ∀ call ∈ [StorageCall.storeRecord (sampleStored "a" "1" sampleTime),
      .storeRecord (sampleStored "a" "2" quarterTime), .getRecord "a" "1",
      .queryRecords "a" "observation" 10], call.Plain := by
    simp only [List.forall_mem_cons, StorageCall.Plain]
    exact ⟨⟨by decide, rfl⟩, ⟨by decide, rfl⟩, by decide, by decide, List.forall_mem_nil _⟩
  refine run_agrees jsonText _ (fun record hrecord => ?_) (by decide)
    (runMeets_of_plain hplain)
  rcases List.mem_pair.mp hrecord with rfl | rfl
  · exact loads_dumps_payload samplePayload_proper
  · exact loads_dumps_payload samplePayload_proper

/-- A record of one tenant is found by another whose joined text is the same, records whose times
have different offsets are sorted differently, and only one backend takes a limit of 64 bits. -/
theorem run_disagrees :
    ¬ RunAgrees jsonText [] Dict.empty
        [.storeRecord (sampleStored "a:b" "c" sampleTime), .getRecord "a" "b:c"] ∧
      ¬ RunAgrees jsonText [] Dict.empty
        [.storeRecord (sampleStored "a" "1" sampleTime),
          .storeRecord (sampleStored "a" "2" easternTime), .queryRecords "a" "observation" 1] ∧
      ¬ RunAgrees jsonText [] Dict.empty [.queryRecords "a" "observation" (2 ^ 63)] := by
  refine ⟨?_, ?_, ?_⟩
  · rintro ⟨-, ⟨-, hown⟩, -⟩
    have hkey : keyOf "a:b" "c" = keyOf "a" "b:c" := by decide
    have hget : (Dict.empty.set (keyOf "a:b" "c") (sampleStored "a:b" "c" sampleTime)).get?
        (keyOf "a" "b:c") = some (sampleStored "a:b" "c" sampleTime) := by
      rw [hkey, Dict.get?_set_self]
    have htenant := hown "a" "b:c" rfl (sampleStored "a:b" "c" sampleTime)
      (Or.inr (congrArg StorageResult.record hget))
    exact absurd htenant (by decide)
  · rintro ⟨-, -, ⟨hsame, -⟩, -⟩
    exact absurd (congrArg StorageResult.recordIds hsame) (by decide)
  · rintro ⟨⟨hsame, -⟩, -⟩
    have hoverflow : SQLiteStorageBackend.queryRecords jsonText [] "a" "observation" (2 ^ 63) =
        .overflowError := if_pos (le_refl _)
    cases hoverflow.symm.trans hsame

end Sample

end ContinuityOS.Storage
