import ContinuityOS.Database.EvidenceStore
import ContinuityOS.Library.Paging

/-! # What the store returns of what it acknowledged

Consecutive pages of a query list the rows of the selection by falling sequence number. A listed
row has the fields of the record that its insertion returned, except that its time is the reading
made for the row: the two agree exactly when the two readings of the clock are the same.
-/
namespace ContinuityOS.Database
open Library

namespace InsertCall

/-- The row of a call as a query returns it, with the payload that its text reads as. -/
def queried (call : InsertCall) (payload : Json) : QueriedRecord where
  recordId := call.recordId
  tenantId := call.tenantId
  corridorId := call.corridorId
  sequenceNum := call.sequenceNum
  payloadType := call.payloadType
  payloadHash := call.payloadHash
  payload := payload
  recordedAt := call.now.isoformat

end InsertCall

/-- The calls of a tenant, and of a corridor where one is given. -/
def concerns (tenantId : String) (corridorId : Option String) (call : InsertCall) : Bool :=
  call.tenantId = tenantId ∧ ∀ wanted, corridorId = some wanted → call.corridorId = wanted

section Returned
variable (loads : String → Option Json)

/-- A returned row has the fields of a record. -/
structure Agrees (queried : QueriedRecord) (record : IndexedEvidenceRecord) : Prop where
  recordId : queried.recordId = record.recordId
  tenantId : queried.tenantId = record.tenantId
  corridorId : queried.corridorId = record.corridorId
  sequenceNum : queried.sequenceNum = record.sequenceNum
  payloadType : queried.payloadType = record.payloadType
  payloadHash : queried.payloadHash = record.payloadHash
  payload : loads record.rawPayloadJson = some queried.payload
  recordedAt : queried.recordedAt = record.recordedAt.isoformat

variable (calls : List InsertCall) (tenantId : String) (corridorId : Option String) (limit : ℕ)

def acknowledged : List InsertCall := (insertAll calls).2.filter (concerns tenantId corridorId)

/-- Consecutive pages from the first on, which together are the acknowledged records of a tenant
and corridor by falling sequence number. -/
structure Returned (pages : List (List QueriedRecord)) (records : List IndexedEvidenceRecord) :
    Prop where
  nonempty : pages ≠ []
  served : ∀ k (hk : k < pages.length),
    queryRecords loads (insertAll calls).1 tenantId corridorId limit (k * limit : ℕ) =
      .ok pages[k]
  perm : records.Perm ((acknowledged calls tenantId corridorId).map InsertCall.record)
  descending : records.Pairwise fun a b => b.sequenceNum < a.sequenceNum
  agree : List.Forall₂ (Agrees loads) pages.flatten records

/-- The number of rows that pages of a limit reach. -/
def reach : ℕ := (maxOffset.toNat / limit + 1) * limit

end Returned

section Pages
variable {loads : String → Option Json} {calls : List InsertCall} {tenantId : String}
  {corridorId : Option String} {limit : ℕ}

def ordered (calls : List InsertCall) (tenantId : String) (corridorId : Option String) :
    List InsertCall :=
  sortedBy (fun call => -call.sequenceNum) (acknowledged calls tenantId corridorId)

theorem ordered_perm :
    (ordered calls tenantId corridorId).Perm (acknowledged calls tenantId corridorId) :=
  sortedBy_perm _ _

theorem mem_calls_of_mem_ordered {call : InsertCall}
    (h : call ∈ ordered calls tenantId corridorId) : call ∈ calls :=
  (insertAll_holds calls).sublist.subset (List.mem_of_mem_filter (ordered_perm.mem_iff.mp h))

theorem selected_insertAll : selected (insertAll calls).1 tenantId corridorId =
    (ordered calls tenantId corridorId).map InsertCall.row := by
  rw [selected, (insertAll_holds calls).rows, List.filter_map, sortedBy_map]
  rfl

theorem ordered_descending (hseq : (calls.map InsertCall.sequenceNum).Nodup) :
    (ordered calls tenantId corridorId).Pairwise fun a b => b.sequenceNum < a.sequenceNum := by
  have hsub : (acknowledged calls tenantId corridorId).Sublist calls :=
    List.filter_sublist.trans (insertAll_holds calls).sublist
  have hnodup : ((ordered calls tenantId corridorId).map InsertCall.sequenceNum).Nodup :=
    (ordered_perm.map _).nodup_iff.mpr (hseq.sublist (hsub.map _))
  have hle := pairwise_sortedBy (fun call : InsertCall => -call.sequenceNum)
    (acknowledged calls tenantId corridorId)
  refine (hle.and (List.pairwise_map.mp hnodup)).imp fun {a b} h => ?_
  have h1 := h.1
  have h2 := h.2
  omega

theorem queriedRecord_row {call : InsertCall} {payload : Json}
    (h : loads call.payloadJson = some payload) :
    queriedRecord loads call.row = .ok (call.queried payload) := by
  have hrow : loads call.row.rawPayloadJson = some payload := h
  rw [queriedRecord, hrow]
  rfl

/-- Rows of calls are read one by one. -/
theorem exists_queried {l : List InsertCall}
    (h : ∀ call ∈ l, ∃ payload, loads call.payloadJson = some payload) :
    ∃ out, (l.map InsertCall.row).mapM (queriedRecord loads) = .ok out ∧
      List.Forall₂ (fun queried call => ∃ payload, loads call.payloadJson = some payload ∧
        queried = call.queried payload) out l := by
  induction l with
  | nil => exact ⟨[], rfl, .nil⟩
  | cons call l ih =>
    rw [List.forall_mem_cons] at h
    obtain ⟨payload, hpayload⟩ := h.1
    obtain ⟨out, hmap, hout⟩ := ih h.2
    refine ⟨call.queried payload :: out, ?_, .cons ⟨payload, hpayload, rfl⟩ hout⟩
    rw [List.map_cons, List.mapM_cons, queriedRecord_row hpayload, hmap]
    rfl

/-- The rows of a selection are those of its calls in order, and each can be read. -/
theorem exists_listed
    (hloads : ∀ call ∈ calls, ∃ payload, loads call.payloadJson = some payload) :
    ∃ out, (selected (insertAll calls).1 tenantId corridorId).mapM (queriedRecord loads) =
        .ok out ∧
      List.Forall₂ (fun queried call => ∃ payload, loads call.payloadJson = some payload ∧
        queried = call.queried payload) out (ordered calls tenantId corridorId) := by
  rw [selected_insertAll]
  exact exists_queried fun call h => hloads call (mem_calls_of_mem_ordered h)

/-- A query of an admissible limit is served when its strings are not empty and its offset is not
too large, and returns a page. -/
theorem queryRecords_eq_ok_iff {rows : List EvidenceRow} {out page : List QueriedRecord}
    {offset : ℕ} (hlow : 1 ≤ limit) (hhigh : limit ≤ 1000)
    (hout : (selected rows tenantId corridorId).mapM (queriedRecord loads) = .ok out) :
    queryRecords loads rows tenantId corridorId limit offset = .ok page ↔
      tenantId ≠ "" ∧ offset ≤ maxOffset.toNat ∧ corridorId ≠ some "" ∧
        page = (out.drop offset).take limit := by
  have hlimit : ¬((limit : ℤ) < 1 ∨ maxLimit < limit) := by
    unfold maxLimit
    omega
  have hoffset : ((offset : ℤ) < 0 ∨ maxOffset < offset) ↔ ¬offset ≤ maxOffset.toNat := by
    unfold maxOffset
    omega
  unfold queryRecords
  rw [if_neg hlimit, Int.toNat_natCast, Int.toNat_natCast, mapM_slice hout]
  split_ifs with htenant hbound hcorridor
  · simp [htenant]
  · simp [hoffset.mp hbound]
  · simp [hcorridor]
  · have hreach : offset ≤ maxOffset.toNat := not_not.mp fun h => hbound (hoffset.mpr h)
    simp [htenant, hreach, hcorridor, eq_comm]

variable {pages : List (List QueriedRecord)} {records : List IndexedEvidenceRecord}

/-- A row agrees with the record of its own call only, for identifiers are distinct. -/
theorem now_eq_of_agrees {call : InsertCall} {payload : Json} {record : IndexedEvidenceRecord}
    (hcall : call ∈ acknowledged calls tenantId corridorId)
    (hrecord : record ∈ (acknowledged calls tenantId corridorId).map InsertCall.record)
    (h : Agrees loads (call.queried payload) record) : call.now = call.recordedAt := by
  obtain ⟨other, hother, heq⟩ := List.mem_map.mp hrecord
  have hids : call.recordId = other.recordId := h.recordId.trans (congrArg (·.recordId) heq.symm)
  have hsame : call = other :=
    List.inj_on_of_nodup_map (insertAll_holds calls).nodup (List.mem_of_mem_filter hcall)
      (List.mem_of_mem_filter hother) hids
  have htext := h.recordedAt
  rw [← heq, ← hsame] at htext
  exact DateTime.isoformat_injective htext

theorem agrees_record {call : InsertCall} {payload : Json}
    (hpayload : loads call.payloadJson = some payload) (hnow : call.now = call.recordedAt) :
    Agrees loads (call.queried payload) call.record where
  recordId := rfl
  tenantId := rfl
  corridorId := rfl
  sequenceNum := rfl
  payloadType := rfl
  payloadHash := rfl
  payload := hpayload
  recordedAt := congrArg DateTime.isoformat hnow

section Listed
variable {out : List QueriedRecord} (hlow : 1 ≤ limit) (hhigh : limit ≤ 1000)
  (hmap : (selected (insertAll calls).1 tenantId corridorId).mapM (queriedRecord loads) = .ok out)
  (hout : List.Forall₂ (fun queried call => ∃ payload, loads call.payloadJson = some payload ∧
    queried = call.queried payload) out (ordered calls tenantId corridorId))
include hlow hhigh hmap hout

/-- What the pages list is every row of the selection, and the offsets reach that far. -/
theorem Returned.flatten_eq (h : Returned loads calls tenantId corridorId limit pages records) :
    pages.flatten = out ∧ (acknowledged calls tenantId corridorId).length ≤ reach limit := by
  have hserved k (hk : k < pages.length) :=
    (queryRecords_eq_ok_iff hlow hhigh hmap).mp (h.served k hk)
  have hflatten : pages.flatten = out.take (pages.length * limit) :=
    flatten_pages fun k hk => (hserved k hk).2.2.2
  have hpos : 0 < pages.length := List.length_pos_iff.mpr h.nonempty
  have hlast := (Nat.le_div_iff_mul_le hlow).mpr (hserved (pages.length - 1) (by omega)).2.1
  have hcount : pages.length * limit ≤ reach limit :=
    Nat.mul_le_mul_right limit (by omega)
  have hrecords : records.length = (acknowledged calls tenantId corridorId).length := by
    rw [h.perm.length_eq, List.length_map]
  have hlength : out.length = (acknowledged calls tenantId corridorId).length :=
    hout.length_eq.trans ordered_perm.length_eq
  have hlisted : (out.take (pages.length * limit)).length = out.length := by
    rw [← hflatten, h.agree.length_eq, hrecords, hlength]
  rw [List.length_take] at hlisted
  refine ⟨?_, by omega⟩
  rw [hflatten, List.take_of_length_le (by omega)]

theorem Returned.now_eq (h : Returned loads calls tenantId corridorId limit pages records)
    {call : InsertCall} (hcall : call ∈ acknowledged calls tenantId corridorId) :
    call.now = call.recordedAt := by
  have hagree := h.agree
  rw [(h.flatten_eq hlow hhigh hmap hout).1] at hagree
  obtain ⟨i, hi, hget⟩ := List.mem_iff_getElem.mp (ordered_perm.mem_iff.mpr hcall)
  have hqueue : i < out.length := hout.length_eq ▸ hi
  have hrecord : i < records.length := hagree.length_eq ▸ hqueue
  obtain ⟨payload, -, hqueried⟩ := hout.get hqueue hi
  have hpair := hagree.get hqueue hrecord
  rw [hqueried, List.get_eq_getElem, hget] at hpair
  exact now_eq_of_agrees hcall (h.perm.mem_iff.mp (List.get_mem records ⟨i, hrecord⟩)) hpair

theorem returned_of_now_eq (hseq : (calls.map InsertCall.sequenceNum).Nodup)
    (htenant : tenantId ≠ "") (hcorridor : corridorId ≠ some "")
    (hreach : (acknowledged calls tenantId corridorId).length ≤ reach limit)
    (hnow : ∀ call ∈ acknowledged calls tenantId corridorId, call.now = call.recordedAt) :
    Returned loads calls tenantId corridorId limit
      ((List.range (maxOffset.toNat / limit + 1)).map
        fun k => (out.drop (k * limit)).take limit)
      ((ordered calls tenantId corridorId).map InsertCall.record) where
  nonempty := by simp
  served k hk := by
    rw [List.length_map, List.length_range] at hk
    rw [List.getElem_map, List.getElem_range]
    exact (queryRecords_eq_ok_iff hlow hhigh hmap).mpr
      ⟨htenant, mul_le_of_lt_pages hk, hcorridor, rfl⟩
  perm := ordered_perm.map _
  descending := List.pairwise_map.mpr (ordered_descending hseq)
  agree := by
    have hlength : out.length ≤ reach limit :=
      (hout.length_eq.trans ordered_perm.length_eq).trans_le hreach
    rw [← List.flatMap_def, flatMap_pages, ← reach, List.take_of_length_le hlength,
      List.forall₂_map_right_iff]
    refine List.forall₂_iff_get.mpr ⟨hout.length_eq, fun i hi hi' => ?_⟩
    obtain ⟨payload, hpayload, hqueried⟩ := hout.get hi hi'
    rw [hqueried]
    exact agrees_record hpayload (hnow _ (ordered_perm.mem_iff.mp (List.get_mem _ ⟨i, hi'⟩)))

end Listed

/-- The pages of a selection return what was acknowledged exactly when the query is admissible,
the selection is within reach of its offsets, and each insertion of the selection read the same
time for the row and for the record. -/
theorem returned_iff (hseq : (calls.map InsertCall.sequenceNum).Nodup) (hlow : 1 ≤ limit)
    (hhigh : limit ≤ 1000)
    (hloads : ∀ call ∈ calls, ∃ payload, loads call.payloadJson = some payload) :
    (∃ pages records, Returned loads calls tenantId corridorId limit pages records) ↔
      tenantId ≠ "" ∧ corridorId ≠ some "" ∧
        (acknowledged calls tenantId corridorId).length ≤ reach limit ∧
        ∀ call ∈ acknowledged calls tenantId corridorId, call.now = call.recordedAt := by
  obtain ⟨out, hmap, hout⟩ := @exists_listed loads calls tenantId corridorId hloads
  constructor
  · rintro ⟨pages, records, h⟩
    have hfirst := (queryRecords_eq_ok_iff hlow hhigh hmap).mp
      (h.served 0 (List.length_pos_iff.mpr h.nonempty))
    exact ⟨hfirst.1, hfirst.2.2.1, (h.flatten_eq hlow hhigh hmap hout).2,
      fun call hcall => h.now_eq hlow hhigh hmap hout hcall⟩
  · rintro ⟨htenant, hcorridor, hreach, hnow⟩
    exact ⟨_, _, returned_of_now_eq hlow hhigh hmap hout hseq htenant hcorridor hreach hnow⟩

end Pages

section Sample

def rowTime : DateTime where
  parts := { year := 2026, month := 7, day := 23, hour := 0, minute := 0, second := 0
             microsecond := 5, offset := 0 }
  valid := by decide

def laterTime : DateTime where
  parts := { year := 2026, month := 7, day := 23, hour := 0, minute := 0, second := 0
             microsecond := 6, offset := 0 }
  valid := by decide

def sampleInsert (recordId : String) (sequenceNum : ℤ) (recordedAt : DateTime) : InsertCall where
  tenantId := "T1"
  corridorId := "C1"
  sequenceNum := sequenceNum
  payloadType := "TEST"
  payloadHash := "00"
  payload := []
  recordId := recordId
  now := rowTime
  recordedAt := recordedAt

def emptyLoads (text : String) : Option Json := if text = "\x7b\x7d" then some (.object []) else none

theorem emptyLoads_sampleInsert (recordId : String) (sequenceNum : ℤ) (recordedAt : DateTime) :
    ∃ payload, emptyLoads (sampleInsert recordId sequenceNum recordedAt).payloadJson =
      some payload := by
  have htext : String.ofList (Json.object []).sortKeys.dumpsDefault = "\x7b\x7d" := by
    decide +kernel
  exact ⟨.object [], if_pos htext⟩

def promptInserts : List InsertCall :=
  [sampleInsert "r1" 1 rowTime, sampleInsert "r2" 2 rowTime]

theorem returned_iff_sample :
    ∃ pages records, Returned emptyLoads promptInserts "T1" (some "C1") 1 pages records := by
  have hcalls : ∀ call ∈ promptInserts, (∃ payload, emptyLoads call.payloadJson = some payload) ∧
      call.now = call.recordedAt := by
    intro call hcall
    rcases List.mem_pair.mp hcall with rfl | rfl
    · exact ⟨emptyLoads_sampleInsert _ _ _, rfl⟩
    · exact ⟨emptyLoads_sampleInsert _ _ _, rfl⟩
  refine (returned_iff (by decide) (by decide) (by decide) fun call hcall =>
    (hcalls call hcall).1).mpr ⟨by decide, by decide, by decide, fun call hcall => ?_⟩
  exact (hcalls call ((insertAll_holds promptInserts).sublist.subset
    (List.mem_of_mem_filter hcall))).2

def lateInserts : List InsertCall := [sampleInsert "r1" 1 laterTime]

theorem not_returned_late :
    ¬∃ pages records, Returned emptyLoads lateInserts "T1" none 50 pages records := by
  rintro ⟨pages, records, h⟩
  have hloads : ∀ call ∈ lateInserts, ∃ payload, emptyLoads call.payloadJson = some payload := by
    intro call hcall
    rw [List.mem_singleton.mp hcall]
    exact emptyLoads_sampleInsert _ _ _
  obtain ⟨out, hmap, hout⟩ := @exists_listed emptyLoads lateInserts "T1" none hloads
  have hmem : sampleInsert "r1" 1 laterTime ∈ acknowledged lateInserts "T1" none :=
    List.mem_filter.mpr ⟨List.mem_singleton.mpr rfl, by decide⟩
  have hnow : rowTime = laterTime := h.now_eq (by decide) (by decide) hmap hout hmem
  exact absurd hnow (by decide)

end Sample

end ContinuityOS.Database
