import ContinuityOS.Library.Dict
import ContinuityOS.Library.JsonRoundTrip

/-! # Dictionaries up to the order of keys

Sorting keys leaves what is found under a key, up to the order of keys inside it. Two proper
dictionaries are the same when sorted exactly if each key finds the same in both.
-/
namespace ContinuityOS.Library.Json

variable {members : List (String × Json)}

/-- The members of a dictionary in the order of their keys. -/
def sortedMembers (members : List (String × Json)) : List (String × Json) :=
  sortedBy Prod.fst (sortKeysMembers members)

theorem sortKeys_object (members : List (String × Json)) :
    (Json.object members).sortKeys = .object (sortedMembers members) := by
  rw [sortKeys, sortedMembers]

theorem lookup_map_sortKeys (members : List (String × Json)) (key : String) :
    Bindings.lookup (sortKeysMembers members) key = (Bindings.lookup members key).map sortKeys := by
  induction members with
  | nil => rfl
  | cons member members ih =>
    obtain ⟨name, value⟩ := member
    rw [sortKeysMembers, Bindings.lookup, Bindings.lookup, ih]
    split_ifs <;> rfl

theorem lookup_eq_of_perm {l l' : List (String × Json)} (hperm : l.Perm l')
    (hnodup : (l.map Prod.fst).Nodup) (key : String) :
    Bindings.lookup l key = Bindings.lookup l' key := by
  have hnodup' := (hperm.map Prod.fst).nodup_iff.mp hnodup
  cases hfound : Bindings.lookup l key with
  | some value =>
    have hmem := hperm.mem_iff.mp (Bindings.mem_of_lookup l key value hfound)
    exact (Bindings.lookup_of_mem l' hnodup' key value hmem).symm
  | none =>
    rw [Bindings.lookup_eq_none, (hperm.map Prod.fst).mem_iff] at hfound
    exact ((Bindings.lookup_eq_none l' key).mpr hfound).symm

theorem perm_of_lookup {l l' : List (String × Json)} (hl : (l.map Prod.fst).Nodup)
    (hl' : (l'.map Prod.fst).Nodup)
    (h : ∀ key, Bindings.lookup l key = Bindings.lookup l' key) : l.Perm l' := by
  refine (List.perm_ext_iff_of_nodup (List.Nodup.of_map _ hl) (List.Nodup.of_map _ hl')).mpr ?_
  rintro ⟨key, value⟩
  constructor
  · intro hmem
    exact Bindings.mem_of_lookup l' key value
      ((h key).symm.trans (Bindings.lookup_of_mem l hl key value hmem))
  · intro hmem
    exact Bindings.mem_of_lookup l key value
      ((h key).trans (Bindings.lookup_of_mem l' hl' key value hmem))

theorem nodup_sortKeysMembers (h : (members.map Prod.fst).Nodup) :
    ((sortKeysMembers members).map Prod.fst).Nodup := by rwa [map_fst_sortKeysMembers]

theorem nodup_sortedMembers (h : (members.map Prod.fst).Nodup) :
    ((sortedMembers members).map Prod.fst).Nodup :=
  ((sortedBy_perm Prod.fst (sortKeysMembers members)).map Prod.fst).nodup_iff.mpr
    (nodup_sortKeysMembers h)

/-- A key finds the same among the sorted members, with its own keys sorted. -/
theorem lookup_sortedMembers (h : (members.map Prod.fst).Nodup) (key : String) :
    Bindings.lookup (sortedMembers members) key = (Bindings.lookup members key).map sortKeys := by
  rw [← lookup_map_sortKeys, sortedMembers]
  exact lookup_eq_of_perm (sortedBy_perm _ _) (nodup_sortedMembers h) key

/-- Members that find the same under every key are the same when sorted. -/
theorem sortedMembers_ext {members' : List (String × Json)} (h : (members.map Prod.fst).Nodup)
    (h' : (members'.map Prod.fst).Nodup)
    (hsame : ∀ key, (Bindings.lookup members key).map sortKeys =
      (Bindings.lookup members' key).map sortKeys) :
    sortedMembers members = sortedMembers members' := by
  have hperm : (sortKeysMembers members).Perm (sortKeysMembers members') :=
    perm_of_lookup (nodup_sortKeysMembers h) (nodup_sortKeysMembers h') fun key => by
      rw [lookup_map_sortKeys, lookup_map_sortKeys, hsame key]
  exact sortedBy_eq_of_perm Prod.fst hperm (List.pairwise_map.mp (nodup_sortKeysMembers h))

theorem nodup_assign (h : (members.map Prod.fst).Nodup) (key : String) (value : Json) :
    ((Bindings.assign members key value).map Prod.fst).Nodup := by
  rw [Bindings.keys_assign]
  split_ifs with hmem
  · exact h
  · exact List.nodup_append.mpr ⟨h, List.nodup_singleton _, by
      rintro a ha b hb rfl
      exact hmem (List.mem_singleton.mp hb ▸ ha)⟩

theorem proper_assign (h : proper (.object members) = true) {key : String} {value : Json}
    (hvalue : proper value = true) :
    proper (.object (Bindings.assign members key value)) = true := by
  obtain ⟨hnodup, hproper⟩ := proper_object_iff.mp h
  refine proper_object_iff.mpr ⟨nodup_assign hnodup key value, fun member hmember => ?_⟩
  have hlookup := Bindings.lookup_of_mem _ (nodup_assign hnodup key value) member.1 member.2 hmember
  rw [Bindings.lookup_assign] at hlookup
  split_ifs at hlookup
  · rwa [← Option.some.inj hlookup]
  · exact hproper member (Bindings.mem_of_lookup _ _ _ hlookup)

theorem proper_of_lookup (h : proper (.object members) = true) {key : String} {value : Json}
    (hfound : Bindings.lookup members key = some value) : proper value = true :=
  (proper_object_iff.mp h).2 _ (Bindings.mem_of_lookup _ _ _ hfound)

mutual
/-- Keys that are in order stay as they are. -/
theorem sortKeys_sortKeys : ∀ j : Json, proper j = true → j.sortKeys.sortKeys = j.sortKeys
  | .null, _ | .bool _, _ | .int _, _ | .float _, _ | .string _, _ => rfl
  | .array items, h => by
    rw [sortKeys, sortKeys, sortKeysItems_sortKeysItems items h]
  | .object members, h => by
    obtain ⟨hnodup, hproper⟩ := Bool.and_eq_true_iff.mp h
    have hkeys := of_decide_eq_true hnodup
    rw [sortKeys_object, sortKeys_object]
    refine congrArg Json.object (sortedMembers_ext (nodup_sortedMembers hkeys) hkeys fun key => ?_)
    rw [lookup_sortedMembers hkeys, Option.map_map]
    cases hfound : Bindings.lookup members key with
    | none => rfl
    | some value =>
      have hmem := Bindings.mem_of_lookup _ _ _ hfound
      exact congrArg some (sortKeysMembers_sortKeys members hproper (key, value) hmem)
theorem sortKeysItems_sortKeysItems : ∀ items : List Json, properItems items = true →
    sortKeysItems (sortKeysItems items) = sortKeysItems items
  | [], _ => rfl
  | item :: items, h => by
    obtain ⟨hitem, hitems⟩ := Bool.and_eq_true_iff.mp h
    rw [sortKeysItems, sortKeysItems, sortKeys_sortKeys item hitem,
      sortKeysItems_sortKeysItems items hitems]
theorem sortKeysMembers_sortKeys : ∀ members : List (String × Json), properMembers members = true →
    ∀ member ∈ members, member.2.sortKeys.sortKeys = member.2.sortKeys
  | [], _ => List.forall_mem_nil _
  | (_, value) :: members, h => by
    obtain ⟨hvalue, hmembers⟩ := Bool.and_eq_true_iff.mp h
    exact List.forall_mem_cons.mpr
      ⟨sortKeys_sortKeys value hvalue, sortKeysMembers_sortKeys members hmembers⟩
end

end ContinuityOS.Library.Json
