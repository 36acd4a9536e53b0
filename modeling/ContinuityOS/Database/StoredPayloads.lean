import ContinuityOS.Database.Acknowledgement
import ContinuityOS.Library.JsonRoundTrip

/-! # The payloads that queries return

Payloads are stored as text and read back by the library's own reader. After any history of
insertions every admissible query is served: it lists a slice of the tenant's acknowledged
insertions by falling sequence number, each with its own payload, the keys in order.
-/
namespace ContinuityOS.Database
open Library

def jsonLoads (text : String) : Option Json := Json.loads text.toList

/-- The number of rows of a tenant, in every corridor. -/
def countRecords (rows : List EvidenceRow) (tenantId : String) : Except DatabaseError ℕ :=
  if tenantId = "" then .error (.valueError "tenant_id must be a non-empty string")
  else .ok (rows.countP fun row => row.tenantId = tenantId)

namespace InsertCall

/-- The arguments have a payload that Python has: distinct keys, and literals of numbers. -/
def Proper (call : InsertCall) : Prop := (Json.object call.payload).proper = true

/-- The row of a call as a query returns it. -/
def returned (call : InsertCall) : QueriedRecord :=
  call.queried (Json.object call.payload).sortKeys

theorem Proper.loads {call : InsertCall} (h : call.Proper) :
    jsonLoads call.payloadJson = some (Json.object call.payload).sortKeys := by
  rw [jsonLoads, payloadJson, String.toList_ofList,
    Json.loads_dumpsDefault (Json.proper_sortKeys _ h)]

end InsertCall

section Queries
variable {calls : List InsertCall} {tenantId : String} {corridorId : Option String}

/-- The rows of a selection are read as their calls. -/
theorem mapM_queriedRecord (h : ∀ call ∈ calls, call.Proper) :
    (selected (insertAll calls).1 tenantId corridorId).mapM (queriedRecord jsonLoads) =
      .ok ((ordered calls tenantId corridorId).map InsertCall.returned) := by
  rw [selected_insertAll]
  have hrows : ∀ l : List InsertCall, (∀ call ∈ l, call.Proper) →
      (l.map InsertCall.row).mapM (queriedRecord jsonLoads) = .ok (l.map InsertCall.returned) := by
    intro l hl
    induction l with
    | nil => rfl
    | cons call l ih =>
      rw [List.forall_mem_cons] at hl
      rw [List.map_cons, List.mapM_cons, queriedRecord_row hl.1.loads, ih hl.2]
      rfl
  exact hrows _ fun call hcall => h call (mem_calls_of_mem_ordered hcall)

theorem ordered_pairwise :
    (ordered calls tenantId corridorId).Pairwise fun a b => b.sequenceNum ≤ a.sequenceNum :=
  (pairwise_sortedBy (fun call : InsertCall => -call.sequenceNum) _).imp fun h => by omega

theorem countRecords_insertAll (htenant : tenantId ≠ "") :
    countRecords (insertAll calls).1 tenantId = .ok (acknowledged calls tenantId none).length := by
  have hrow : ((fun row : EvidenceRow => decide (row.tenantId = tenantId)) ∘ InsertCall.row) =
      concerns tenantId none := by
    funext call
    rw [Function.comp_apply, concerns, decide_eq_decide]
    exact ⟨fun hcall => ⟨hcall, fun _ hnone => nomatch hnone⟩, fun hcall => hcall.1⟩
  rw [countRecords, if_neg htenant, (insertAll_holds calls).rows, List.countP_map, hrow,
    acknowledged, List.countP_eq_length_filter]

/-- After any history of insertions of proper payloads, a tenant's acknowledged insertions are
listed by falling sequence number, each admissible query returns its slice of them with the
payloads that were inserted, and the count is their number. -/
theorem queries_return_payloads (calls : List InsertCall) (h : ∀ call ∈ calls, call.Proper)
    (tenantId : String) (corridorId : Option String) (htenant : tenantId ≠ "")
    (hcorridor : corridorId ≠ some "") :
    ∃ listed : List InsertCall,
      listed.Perm ((insertAll calls).2.filter (concerns tenantId corridorId)) ∧
      listed.Pairwise (fun a b => b.sequenceNum ≤ a.sequenceNum) ∧
      (∀ limit offset : ℕ, 1 ≤ limit → limit ≤ 1000 → offset ≤ 1000000 →
        queryRecords jsonLoads (insertAll calls).1 tenantId corridorId limit offset =
          .ok (((listed.drop offset).take limit).map InsertCall.returned)) ∧
      countRecords (insertAll calls).1 tenantId =
        .ok ((insertAll calls).2.filter (concerns tenantId none)).length := by
  refine ⟨ordered calls tenantId corridorId, ordered_perm, ordered_pairwise, ?_,
    countRecords_insertAll htenant⟩
  intro limit offset hlow hhigh hoffset
  refine (queryRecords_eq_ok_iff hlow hhigh (mapM_queriedRecord h)).mpr
    ⟨htenant, hoffset, hcorridor, ?_⟩
  rw [List.map_take, List.map_drop]

end Queries

section Sample

/-- An insertion whose payload has its keys out of order. -/
def payloadInsert : InsertCall :=
  { sampleInsert "r3" 3 rowTime with
    payload := [("state", .string "fermé"), ("days", .array [.int 3, .float "2.5"])] }

def laterInsert : InsertCall :=
  { sampleInsert "r4" 5 rowTime with payload := [("state", .string "ouvert")] }

/-- Two insertions, and the first one again, which the table refuses. -/
def payloadInserts : List InsertCall := [payloadInsert, laterInsert, payloadInsert]

theorem payloadInserts_proper : ∀ call ∈ payloadInserts, call.Proper := by
  have hfirst : payloadInsert.Proper := by
    rw [InsertCall.Proper]
    decide +kernel
  have hlater : laterInsert.Proper := by
    rw [InsertCall.Proper]
    decide +kernel
  simp only [payloadInserts, List.forall_mem_cons]
  exact ⟨hfirst, hlater, hfirst, List.forall_mem_nil _⟩

theorem payloadInserts_acknowledged :
    (insertAll payloadInserts).2.filter (concerns "T1" (some "C1")) = [payloadInsert, laterInsert] ∧
      (insertAll payloadInserts).2.filter (concerns "T1" none) = [payloadInsert, laterInsert] :=
  ⟨rfl, rfl⟩

/-- The later of two insertions comes first, and each has its payload. -/
theorem queries_return_payloads_sample :
    queryRecords jsonLoads (insertAll payloadInserts).1 "T1" (some "C1") 10 0 =
        .ok [laterInsert.returned, payloadInsert.returned] ∧
      countRecords (insertAll payloadInserts).1 "T1" = .ok 2 := by
  obtain ⟨listed, hperm, hordered, hquery, hcount⟩ := queries_return_payloads payloadInserts
    payloadInserts_proper "T1" (some "C1") (by decide) (by decide)
  rw [payloadInserts_acknowledged.1] at hperm
  rw [payloadInserts_acknowledged.2] at hcount
  have hlisted : listed = [laterInsert, payloadInsert] := by
    have hswap : listed.Perm [laterInsert, payloadInsert] := hperm.trans (List.Perm.swap _ _ _)
    refine hswap.eq_of_pairwise (fun a b ha hb hab hba => ?_) hordered (by decide)
    rcases List.mem_pair.mp (hswap.mem_iff.mp ha) with rfl | rfl
    · rcases List.mem_pair.mp hb with rfl | rfl
      · rfl
      · exact absurd hba (by decide)
    · rcases List.mem_pair.mp hb with rfl | rfl
      · exact absurd hab (by decide)
      · rfl
  have hpage := hquery 10 0 (by decide) (by decide) (by decide)
  rw [hlisted] at hpage
  exact ⟨hpage, hcount⟩

end Sample

end ContinuityOS.Database
