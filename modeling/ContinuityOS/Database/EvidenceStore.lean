import ContinuityOS.Library.DateTime
import ContinuityOS.Library.Fallible
import ContinuityOS.Library.JsonText
import ContinuityOS.Library.Sorting

/-! # The transactional evidence store

Records are inserted as rows of one table and queried by tenant and corridor, the latest sequence
numbers first, in pages. The row and the record that an insertion returns are built one after the
other, each with a reading of the clock of its own.
-/
namespace ContinuityOS.Database
open Library

inductive DatabaseError where
  | valueError (text : String)
  | integerOverflow
  | uniqueConstraint
  | invalidJson
deriving DecidableEq

structure IndexedEvidenceRecord where
  recordId : String
  tenantId : String
  corridorId : String
  sequenceNum : ℤ
  payloadType : String
  payloadHash : String
  rawPayloadJson : String
  recordedAt : DateTime

/-- A row of the table. -/
structure EvidenceRow where
  recordId : String
  tenantId : String
  corridorId : String
  sequenceNum : ℤ
  payloadType : String
  payloadHash : String
  rawPayloadJson : String
  recordedAt : String

/-- A row as a query returns it. -/
structure QueriedRecord where
  recordId : String
  tenantId : String
  corridorId : String
  sequenceNum : ℤ
  payloadType : String
  payloadHash : String
  payload : Json
  recordedAt : String

/-- The arguments of an insertion, with the identifier that it draws, the time that it reads for
the row, and the time that the returned record reads for itself. -/
structure InsertCall where
  tenantId : String
  corridorId : String
  sequenceNum : ℤ
  payloadType : String
  payloadHash : String
  payload : List (String × Json)
  recordId : String
  now : DateTime
  recordedAt : DateTime

namespace InsertCall

def payloadJson (call : InsertCall) : String :=
  String.ofList (Json.object call.payload).sortKeys.dumpsDefault

def row (call : InsertCall) : EvidenceRow where
  recordId := call.recordId
  tenantId := call.tenantId
  corridorId := call.corridorId
  sequenceNum := call.sequenceNum
  payloadType := call.payloadType
  payloadHash := call.payloadHash
  rawPayloadJson := call.payloadJson
  recordedAt := call.now.isoformat

def record (call : InsertCall) : IndexedEvidenceRecord where
  recordId := call.recordId
  tenantId := call.tenantId
  corridorId := call.corridorId
  sequenceNum := call.sequenceNum
  payloadType := call.payloadType
  payloadHash := call.payloadHash
  rawPayloadJson := call.payloadJson
  recordedAt := call.recordedAt

end InsertCall

/-- An insertion: the record that it returns and the rows that it leaves. Integers are stored in
64 bits. -/
def insertRecord (rows : List EvidenceRow) (call : InsertCall) :
    Except DatabaseError (IndexedEvidenceRecord × List EvidenceRow) :=
  if call.tenantId = "" then .error (.valueError "tenant_id must be a non-empty string")
  else if call.corridorId = "" then .error (.valueError "corridor_id must be a non-empty string")
  else if call.sequenceNum < -2 ^ 63 ∨ 2 ^ 63 ≤ call.sequenceNum then .error .integerOverflow
  else if call.recordId ∈ rows.map EvidenceRow.recordId then .error .uniqueConstraint
  else .ok (call.record, rows ++ [call.row])

section Query
variable (loads : String → Option Json)

def queriedRecord (row : EvidenceRow) : Except DatabaseError QueriedRecord :=
  match loads row.rawPayloadJson with
  | none => .error .invalidJson
  | some payload => .ok
    { recordId := row.recordId, tenantId := row.tenantId, corridorId := row.corridorId
      sequenceNum := row.sequenceNum, payloadType := row.payloadType
      payloadHash := row.payloadHash, payload := payload, recordedAt := row.recordedAt }

def maxLimit : ℤ := 1000

def maxOffset : ℤ := 1000000

/-- The rows of a tenant, and of a corridor where one is given. -/
def selects (tenantId : String) (corridorId : Option String) (row : EvidenceRow) : Bool :=
  row.tenantId = tenantId ∧ ∀ wanted, corridorId = some wanted → row.corridorId = wanted

def selected (rows : List EvidenceRow) (tenantId : String) (corridorId : Option String) :
    List EvidenceRow :=
  sortedBy (fun row => -row.sequenceNum) (rows.filter (selects tenantId corridorId))

def queryRecords (rows : List EvidenceRow) (tenantId : String) (corridorId : Option String)
    (limit offset : ℤ) : Except DatabaseError (List QueriedRecord) :=
  if tenantId = "" then .error (.valueError "tenant_id must be a non-empty string")
  else if limit < 1 ∨ maxLimit < limit then
    .error (.valueError ("limit must be between 1 and " ++ toString maxLimit))
  else if offset < 0 ∨ maxOffset < offset then
    .error (.valueError ("offset must be between 0 and " ++ toString maxOffset))
  else if corridorId = some "" then
    .error (.valueError "corridor_id must be non-empty when provided")
  else
    (((selected rows tenantId corridorId).drop offset.toNat).take limit.toNat).mapM
      (queriedRecord loads)

end Query

/-- One insertion of a history: the rows, and the calls that returned a record. -/
def insertStep (state : List EvidenceRow × List InsertCall) (call : InsertCall) :
    List EvidenceRow × List InsertCall :=
  match insertRecord state.1 call with
  | .ok (_, rows) => (rows, state.2 ++ [call])
  | .error _ => state

/-- The table after a history of insertions, and the calls that returned a record. -/
def insertAll (calls : List InsertCall) : List EvidenceRow × List InsertCall :=
  calls.foldl insertStep ([], [])

/-- The table holds the rows of the calls that returned, and their identifiers are distinct. -/
structure Holds (calls : List InsertCall) (state : List EvidenceRow × List InsertCall) : Prop where
  rows : state.1 = state.2.map InsertCall.row
  nodup : (state.2.map InsertCall.recordId).Nodup
  sublist : state.2.Sublist calls

theorem insertRecord_cases (rows : List EvidenceRow) (call : InsertCall) :
    (∃ e, insertRecord rows call = .error e) ∨
      (call.recordId ∉ rows.map EvidenceRow.recordId ∧
        insertRecord rows call = .ok (call.record, rows ++ [call.row])) := by
  unfold insertRecord
  split_ifs with htenant hcorridor hsequence hunique
  · exact Or.inl ⟨_, rfl⟩
  · exact Or.inl ⟨_, rfl⟩
  · exact Or.inl ⟨_, rfl⟩
  · exact Or.inl ⟨_, rfl⟩
  · exact Or.inr ⟨hunique, rfl⟩

theorem Holds.step {calls : List InsertCall} {state : List EvidenceRow × List InsertCall}
    (h : Holds calls state) (call : InsertCall) :
    Holds (calls ++ [call]) (insertStep state call) := by
  rcases insertRecord_cases state.1 call with ⟨e, herror⟩ | ⟨hnew, hok⟩
  · rw [insertStep, herror]
    exact ⟨h.rows, h.nodup, h.sublist.trans (List.sublist_append_left calls [call])⟩
  · rw [insertStep, hok]
    have hids : state.1.map EvidenceRow.recordId = state.2.map InsertCall.recordId := by
      rw [h.rows, List.map_map]
      rfl
    rw [hids] at hnew
    refine ⟨?_, ?_, h.sublist.append (List.Sublist.refl [call])⟩
    · rw [List.map_append, h.rows]
      rfl
    · rw [List.map_append]
      exact h.nodup.append (List.nodup_singleton _) (by simpa using hnew)

/-- What holds of the table after every history of insertions. -/
theorem insertAll_holds (calls : List InsertCall) : Holds calls (insertAll calls) := by
  induction calls using List.reverseRecOn with
  | nil => exact ⟨rfl, List.nodup_nil, List.Sublist.refl []⟩
  | append_singleton calls call ih =>
    rw [insertAll, List.foldl_append]
    exact ih.step call

end ContinuityOS.Database
