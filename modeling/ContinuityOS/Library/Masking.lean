import ContinuityOS.Library.Json

/-! # Values under hidden keys

Masking replaces the value under every hidden key, at any depth, by one fixed value. Two
values that agree where nothing is hidden are the same dictionary once masked.
-/
namespace ContinuityOS.Library.Json
variable (hidden : String → Bool) (c : Json)

mutual
def mask : Json → Json
  | .array items => .array (maskItems items)
  | .object members => .object (maskMembers members)
  | j => j
def maskItems : List Json → List Json
  | [] => []
  | item :: items => mask item :: maskItems items
def maskMembers : List (String × Json) → List (String × Json)
  | [] => []
  | (key, value) :: members =>
    (key, if hidden key then c else mask value) :: maskMembers members
end

mutual
/-- A hidden key occurs somewhere. -/
def holdsHidden : Json → Bool
  | .array items => holdsHiddenItems items
  | .object members => holdsHiddenMembers members
  | _ => false
def holdsHiddenItems : List Json → Bool
  | [] => false
  | item :: items => holdsHidden item || holdsHiddenItems items
def holdsHiddenMembers : List (String × Json) → Bool
  | [] => false
  | (key, value) :: members => hidden key || holdsHidden value || holdsHiddenMembers members
end

/-- Equal as dictionaries: the order of keys does not count. -/
def SameDict (a b : List (String × Json)) : Prop :=
  (Json.object a).sortKeys = (Json.object b).sortKeys

variable {hidden c}

theorem SameDict.symm {a b : List (String × Json)} (h : SameDict a b) : SameDict b a := Eq.symm h

theorem SameDict.trans {a b d : List (String × Json)} (h : SameDict a b) (h' : SameDict b d) :
    SameDict a d := Eq.trans h h'

theorem maskMembers_eq_map (members : List (String × Json)) : maskMembers hidden c members =
    members.map fun m => (m.1, if hidden m.1 then c else mask hidden c m.2) := by
  induction members with
  | nil => rfl
  | cons m members ih => rw [maskMembers, ih, List.map_cons]

theorem sortKeysMembers_eq_map (members : List (String × Json)) :
    sortKeysMembers members = members.map fun m => (m.1, m.2.sortKeys) := by
  induction members with
  | nil => rfl
  | cons m members ih => rw [sortKeysMembers, ih, List.map_cons]

theorem holdsHiddenMembers_eq_any (members : List (String × Json)) :
    holdsHiddenMembers hidden members =
      members.any fun m => hidden m.1 || holdsHidden hidden m.2 := by
  induction members with
  | nil => rfl
  | cons m members ih => rw [holdsHiddenMembers, ih, List.any_cons]

theorem maskMembers_filter (p : String → Bool) (members : List (String × Json)) :
    maskMembers hidden c (members.filter fun m => p m.1) =
      (maskMembers hidden c members).filter fun m => p m.1 := by
  rw [maskMembers_eq_map, maskMembers_eq_map, List.filter_map]
  rfl

theorem maskMembers_sortedBy (members : List (String × Json)) :
    sortedBy Prod.fst (maskMembers hidden c members) =
      maskMembers hidden c (sortedBy Prod.fst members) := by
  rw [maskMembers_eq_map, maskMembers_eq_map]
  exact (List.map_insertionSort (fun a b : String × Json => a.1 ≤ b.1)
    (fun a b : String × Json => a.1 ≤ b.1)
    (fun m => (m.1, if hidden m.1 then c else mask hidden c m.2)) members
    fun _ _ _ _ => Iff.rfl).symm

mutual
theorem sortKeys_mask (hc : c.sortKeys = c) :
    ∀ j : Json, (mask hidden c j).sortKeys = mask hidden c j.sortKeys
  | .null => rfl
  | .bool _ => rfl
  | .int _ => rfl
  | .float _ => rfl
  | .string _ => rfl
  | .array items => congrArg Json.array (sortKeysItems_mask hc items)
  | .object members => by
    rw [mask, sortKeys, sortKeys, mask, sortKeysMembers_mask hc members, maskMembers_sortedBy]
theorem sortKeysItems_mask (hc : c.sortKeys = c) : ∀ items : List Json,
    sortKeysItems (maskItems hidden c items) = maskItems hidden c (sortKeysItems items)
  | [] => rfl
  | item :: items => by
    rw [maskItems, sortKeysItems, sortKeysItems, maskItems, sortKeys_mask hc item,
      sortKeysItems_mask hc items]
theorem sortKeysMembers_mask (hc : c.sortKeys = c) : ∀ members : List (String × Json),
    sortKeysMembers (maskMembers hidden c members) = maskMembers hidden c (sortKeysMembers members)
  | [] => rfl
  | (key, value) :: members => by
    rw [maskMembers, sortKeysMembers, sortKeysMembers, maskMembers, sortKeysMembers_mask hc members]
    by_cases hkey : hidden key
    · simp only [hkey, if_true, hc]
    · simp only [hkey, Bool.false_eq_true, if_false, sortKeys_mask hc value]
end

mutual
theorem mask_of_clear : ∀ j : Json, holdsHidden hidden j = false → mask hidden c j = j
  | .null, _ => rfl
  | .bool _, _ => rfl
  | .int _, _ => rfl
  | .float _, _ => rfl
  | .string _, _ => rfl
  | .array items, h => congrArg Json.array (maskItems_of_clear items h)
  | .object members, h => congrArg Json.object (maskMembers_of_clear members h)
theorem maskItems_of_clear : ∀ items : List Json, holdsHiddenItems hidden items = false →
    maskItems hidden c items = items
  | [], _ => rfl
  | item :: items, h => by
    rw [holdsHiddenItems, Bool.or_eq_false_iff] at h
    rw [maskItems, mask_of_clear item h.1, maskItems_of_clear items h.2]
theorem maskMembers_of_clear : ∀ members : List (String × Json),
    holdsHiddenMembers hidden members = false → maskMembers hidden c members = members
  | [], _ => rfl
  | (key, value) :: members, h => by
    rw [holdsHiddenMembers, Bool.or_eq_false_iff, Bool.or_eq_false_iff] at h
    rw [maskMembers, h.1.1, mask_of_clear value h.1.2, maskMembers_of_clear members h.2]
    rfl
end

mutual
/-- Masking twice is masking with the later value. -/
theorem mask_mask (d : Json) : ∀ j : Json, mask hidden d (mask hidden c j) = mask hidden d j
  | .null => rfl
  | .bool _ => rfl
  | .int _ => rfl
  | .float _ => rfl
  | .string _ => rfl
  | .array items => congrArg Json.array (maskItems_mask d items)
  | .object members => congrArg Json.object (maskMembers_mask d members)
theorem maskItems_mask (d : Json) : ∀ items : List Json,
    maskItems hidden d (maskItems hidden c items) = maskItems hidden d items
  | [] => rfl
  | item :: items => by
    rw [maskItems, maskItems, maskItems, mask_mask d item, maskItems_mask d items]
theorem maskMembers_mask (d : Json) : ∀ members : List (String × Json),
    maskMembers hidden d (maskMembers hidden c members) = maskMembers hidden d members
  | [] => rfl
  | (key, value) :: members => by
    rw [maskMembers, maskMembers, maskMembers, maskMembers_mask d members]
    by_cases hkey : hidden key
    · simp only [hkey, if_true]
    · simp only [hkey, Bool.false_eq_true, if_false, mask_mask d value]
end

mutual
/-- Two values told apart are told apart in the place of a hidden value. -/
theorem clear_of_mask_eq {d : Json} (hne : c ≠ d) :
    ∀ j : Json, mask hidden c j = mask hidden d j → holdsHidden hidden j = false
  | .null, _ => rfl
  | .bool _, _ => rfl
  | .int _, _ => rfl
  | .float _, _ => rfl
  | .string _, _ => rfl
  | .array items, h => clearItems_of_mask_eq hne items (Json.array.inj h)
  | .object members, h => clearMembers_of_mask_eq hne members (Json.object.inj h)
theorem clearItems_of_mask_eq {d : Json} (hne : c ≠ d) : ∀ items : List Json,
    maskItems hidden c items = maskItems hidden d items → holdsHiddenItems hidden items = false
  | [], _ => rfl
  | item :: items, h => by
    rw [maskItems, maskItems, List.cons.injEq] at h
    rw [holdsHiddenItems, clear_of_mask_eq hne item h.1, clearItems_of_mask_eq hne items h.2]
    rfl
theorem clearMembers_of_mask_eq {d : Json} (hne : c ≠ d) : ∀ members : List (String × Json),
    maskMembers hidden c members = maskMembers hidden d members →
      holdsHiddenMembers hidden members = false
  | [], _ => rfl
  | (key, value) :: members, h => by
    rw [maskMembers, maskMembers, List.cons.injEq, Prod.mk.injEq] at h
    obtain ⟨⟨-, hvalue⟩, hrest⟩ := h
    have hkey : hidden key = false := by
      by_contra hhidden
      rw [Bool.not_eq_false] at hhidden
      rw [if_pos hhidden, if_pos hhidden] at hvalue
      exact hne hvalue
    rw [hkey] at hvalue
    rw [holdsHiddenMembers, hkey, clear_of_mask_eq hne value hvalue,
      clearMembers_of_mask_eq hne members hrest]
    rfl
end

theorem holdsHiddenMembers_perm {a b : List (String × Json)} (h : a.Perm b) :
    holdsHiddenMembers hidden a = holdsHiddenMembers hidden b := by
  rw [holdsHiddenMembers_eq_any, holdsHiddenMembers_eq_any, h.any_eq]

mutual
theorem holdsHidden_sortKeys : ∀ j : Json, holdsHidden hidden j.sortKeys = holdsHidden hidden j
  | .null => rfl
  | .bool _ => rfl
  | .int _ => rfl
  | .float _ => rfl
  | .string _ => rfl
  | .array items => holdsHiddenItems_sortKeys items
  | .object members => by
    rw [sortKeys, holdsHidden, holdsHiddenMembers_perm (sortedBy_perm _ _),
      holdsHiddenMembers_sortKeys members, holdsHidden]
theorem holdsHiddenItems_sortKeys : ∀ items : List Json,
    holdsHiddenItems hidden (sortKeysItems items) = holdsHiddenItems hidden items
  | [] => rfl
  | item :: items => by
    rw [sortKeysItems, holdsHiddenItems, holdsHiddenItems, holdsHidden_sortKeys item,
      holdsHiddenItems_sortKeys items]
theorem holdsHiddenMembers_sortKeys : ∀ members : List (String × Json),
    holdsHiddenMembers hidden (sortKeysMembers members) = holdsHiddenMembers hidden members
  | [] => rfl
  | (key, value) :: members => by
    rw [sortKeysMembers, holdsHiddenMembers, holdsHiddenMembers, holdsHidden_sortKeys value,
      holdsHiddenMembers_sortKeys members]
end

mutual
theorem holdsHidden_mask : ∀ j : Json, holdsHidden hidden (mask hidden c j) = holdsHidden hidden j
  | .null => rfl
  | .bool _ => rfl
  | .int _ => rfl
  | .float _ => rfl
  | .string _ => rfl
  | .array items => holdsHiddenItems_mask items
  | .object members => holdsHiddenMembers_mask members
theorem holdsHiddenItems_mask : ∀ items : List Json,
    holdsHiddenItems hidden (maskItems hidden c items) = holdsHiddenItems hidden items
  | [] => rfl
  | item :: items => by
    rw [maskItems, holdsHiddenItems, holdsHiddenItems, holdsHidden_mask item,
      holdsHiddenItems_mask items]
theorem holdsHiddenMembers_mask : ∀ members : List (String × Json),
    holdsHiddenMembers hidden (maskMembers hidden c members) = holdsHiddenMembers hidden members
  | [] => rfl
  | (key, value) :: members => by
    rw [maskMembers, holdsHiddenMembers, holdsHiddenMembers, holdsHiddenMembers_mask members]
    by_cases hkey : hidden key
    · simp only [hkey, Bool.true_or]
    · simp only [hkey, Bool.false_eq_true, if_false, holdsHidden_mask value]
end

section Dictionaries
variable {a b : List (String × Json)}

theorem sameDict_iff : SameDict a b ↔
    sortedBy Prod.fst (sortKeysMembers a) = sortedBy Prod.fst (sortKeysMembers b) := by
  rw [SameDict, sortKeys, sortKeys, Json.object.injEq]

/-- The same keys are dropped from the same dictionaries. -/
theorem SameDict.filter (h : SameDict a b) (p : String → Bool) :
    SameDict (a.filter fun m => p m.1) (b.filter fun m => p m.1) := by
  have hmap : ∀ l : List (String × Json), sortKeysMembers (l.filter fun m => p m.1) =
      (sortKeysMembers l).filter fun m => p m.1 := by
    intro l
    rw [sortKeysMembers_eq_map, sortKeysMembers_eq_map, List.filter_map]
    rfl
  rw [sameDict_iff] at h ⊢
  rw [hmap, hmap, sortedBy_filter, sortedBy_filter, h]

theorem SameDict.holdsHidden_eq (h : SameDict a b) :
    holdsHiddenMembers hidden a = holdsHiddenMembers hidden b := by
  have hsorted := congrArg (holdsHidden hidden) h
  rw [holdsHidden_sortKeys, holdsHidden_sortKeys] at hsorted
  exact hsorted

/-- Two maskings of the same members agree only where nothing is hidden. -/
theorem clear_of_sameDict {d : Json} (hc : c.sortKeys = c) (hd : d.sortKeys = d) (hne : c ≠ d)
    (h : SameDict (maskMembers hidden c a) (maskMembers hidden d a)) :
    holdsHiddenMembers hidden a = false := by
  have hmasked : mask hidden c (Json.object a).sortKeys = mask hidden d (Json.object a).sortKeys := by
    rw [← sortKeys_mask hc, ← sortKeys_mask hd]
    exact h
  have hclear := clear_of_mask_eq hne _ hmasked
  rw [holdsHidden_sortKeys] at hclear
  exact hclear

/-- Where nothing is hidden, agreement up to the hidden values is agreement. -/
theorem sameDict_of_masked (hclear : holdsHiddenMembers hidden a = false)
    (h : SameDict (maskMembers hidden c a) (maskMembers hidden c b)) : SameDict a b := by
  have hother : holdsHiddenMembers hidden b = false := by
    have heq : holdsHiddenMembers hidden _ = holdsHiddenMembers hidden _ := h.holdsHidden_eq
    rw [holdsHiddenMembers_mask, holdsHiddenMembers_mask] at heq
    rw [← heq, hclear]
  rw [maskMembers_of_clear a hclear, maskMembers_of_clear b hother] at h
  exact h

end Dictionaries

end ContinuityOS.Library.Json
