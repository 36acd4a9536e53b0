import Mathlib.Data.List.Nodup
import Mathlib.Tactic

/-! # Insertion-ordered dictionaries

A dictionary is a list of bindings with distinct keys. Assigning to a present
key keeps its position; assigning to a new key appends a binding.
-/
namespace ContinuityOS.Library

universe u v
variable {κ : Type u} {ν : Type v} [DecidableEq κ]

namespace Bindings

def lookup : List (κ × ν) → κ → Option ν
  | [], _ => none
  | (k₀, v₀) :: l, k => if k₀ = k then some v₀ else lookup l k

def assign : List (κ × ν) → κ → ν → List (κ × ν)
  | [], k, v => [(k, v)]
  | (k₀, v₀) :: l, k, v => if k₀ = k then (k, v) :: l else (k₀, v₀) :: assign l k v

theorem lookup_assign (l : List (κ × ν)) (k k' : κ) (v : ν) :
    lookup (assign l k v) k' = if k = k' then some v else lookup l k' := by
  induction l with
  | nil => simp [assign, lookup]
  | cons b l ih =>
    obtain ⟨k₀, v₀⟩ := b
    by_cases h : k₀ = k
    · subst h
      by_cases h' : k₀ = k' <;> simp [assign, lookup, h']
    · by_cases h' : k₀ = k'
      · subst h'
        simp [assign, lookup, h, Ne.symm h]
      · simp [assign, lookup, h, h', ih]

theorem keys_assign (l : List (κ × ν)) (k : κ) (v : ν) :
    (assign l k v).map Prod.fst =
      if k ∈ l.map Prod.fst then l.map Prod.fst else l.map Prod.fst ++ [k] := by
  induction l with
  | nil => simp [assign]
  | cons b l ih =>
    obtain ⟨k₀, v₀⟩ := b
    by_cases h : k₀ = k
    · subst h
      simp [assign]
    · simp only [assign, h, if_false, List.map_cons, ih, List.mem_cons, Ne.symm h, false_or]
      split_ifs <;> simp

theorem assign_of_not_mem {l : List (κ × ν)} {k : κ} {v : ν} (h : k ∉ l.map Prod.fst) :
    assign l k v = l ++ [(k, v)] := by
  induction l with
  | nil => rfl
  | cons b l ih =>
    rw [List.map_cons, List.mem_cons, not_or] at h
    rw [assign, if_neg (Ne.symm h.1), ih h.2, List.cons_append]

theorem lookup_eq_none (l : List (κ × ν)) (k : κ) :
    lookup l k = none ↔ k ∉ l.map Prod.fst := by
  induction l with
  | nil => simp [lookup]
  | cons b l ih =>
    obtain ⟨k₀, v₀⟩ := b
    by_cases h : k₀ = k
    · simp [lookup, h]
    · simp [lookup, h, ih, Ne.symm h]

theorem mem_of_lookup (l : List (κ × ν)) (k : κ) (v : ν) (h : lookup l k = some v) :
    (k, v) ∈ l := by
  induction l with
  | nil => simp [lookup] at h
  | cons b l ih =>
    obtain ⟨k₀, v₀⟩ := b
    by_cases hk : k₀ = k
    · simp_all [lookup]
    · simp only [lookup, hk, if_false] at h
      exact List.mem_cons_of_mem _ (ih h)

theorem lookup_of_mem (l : List (κ × ν)) (hl : (l.map Prod.fst).Nodup) (k : κ) (v : ν)
    (h : (k, v) ∈ l) : lookup l k = some v := by
  induction l with
  | nil => simp at h
  | cons b l ih =>
    obtain ⟨k₀, v₀⟩ := b
    simp only [List.map_cons, List.nodup_cons] at hl
    rcases List.mem_cons.mp h with h | h
    · cases h
      simp [lookup]
    · have hk : k₀ ≠ k := fun he => hl.1 (he ▸ List.mem_map_of_mem h)
      simp [lookup, hk, ih hl.2 h]

end Bindings

/-- Bindings in insertion order, at most one for each key. -/
structure Dict (κ : Type u) (ν : Type v) where
  entries : List (κ × ν)
  nodup : (entries.map Prod.fst).Nodup

namespace Dict

instance [DecidableEq ν] : DecidableEq (Dict κ ν) := fun d e =>
  decidable_of_iff (d.entries = e.entries) ⟨fun h => by cases d; cases e; simp_all, fun h => h ▸ rfl⟩

def empty : Dict κ ν := ⟨[], List.nodup_nil⟩

def keys (d : Dict κ ν) : List κ := d.entries.map Prod.fst

def get? (d : Dict κ ν) (k : κ) : Option ν := Bindings.lookup d.entries k

def getD (d : Dict κ ν) (k : κ) (v : ν) : ν := (d.get? k).getD v

def set (d : Dict κ ν) (k : κ) (v : ν) : Dict κ ν where
  entries := Bindings.assign d.entries k v
  nodup := by
    rw [Bindings.keys_assign]
    split_ifs with h
    · exact d.nodup
    · exact List.nodup_append.mpr ⟨d.nodup, List.nodup_singleton k, by
        intro a ha b hb
        rw [List.mem_singleton.mp hb]
        exact fun he => h (he ▸ ha)⟩

theorem keys_set (d : Dict κ ν) (k : κ) (v : ν) :
    (d.set k v).keys = if k ∈ d.keys then d.keys else d.keys ++ [k] :=
  Bindings.keys_assign d.entries k v

def erase (d : Dict κ ν) (k : κ) : Dict κ ν where
  entries := d.entries.filter fun b => b.1 ≠ k
  nodup := (List.filter_sublist.map Prod.fst).nodup d.nodup

/-- Assigning what is there changes nothing. -/
theorem set_of_get? (d : Dict κ ν) {k : κ} {v : ν} (h : d.get? k = some v) : d.set k v = d := by
  have hassign : ∀ l : List (κ × ν), Bindings.lookup l k = some v → Bindings.assign l k v = l := by
    intro l hl
    induction l with
    | nil => cases hl
    | cons b l ih =>
      obtain ⟨k₀, v₀⟩ := b
      by_cases hk : k₀ = k
      · rw [Bindings.lookup, if_pos hk] at hl
        rw [Bindings.assign, if_pos hk, hk, Option.some.inj hl]
      · rw [Bindings.lookup, if_neg hk] at hl
        rw [Bindings.assign, if_neg hk, ih hl]
  have hentries : (d.set k v).entries = d.entries := hassign d.entries h
  cases d
  simp only [set] at hentries ⊢
  simp only [hentries]

theorem keys_erase (d : Dict κ ν) (k : κ) : (d.erase k).keys = d.keys.filter fun k' => k' ≠ k := by
  rw [keys, erase, keys, List.filter_map]
  rfl

/-- One binding for each listed key, as a comprehension over distinct keys builds it. -/
def ofKeys (l : List κ) (hl : l.Nodup) (f : κ → ν) : Dict κ ν where
  entries := l.map (fun k => (k, f k))
  nodup := by simpa [List.map_map, Function.comp_def] using hl

omit [DecidableEq κ] in
theorem keys_ofKeys (l : List κ) (hl : l.Nodup) (f : κ → ν) : (ofKeys l hl f).keys = l := by
  rw [keys, ofKeys, List.map_map]
  exact List.map_id l

theorem get?_set (d : Dict κ ν) (k k' : κ) (v : ν) :
    (d.set k v).get? k' = if k = k' then some v else d.get? k' :=
  Bindings.lookup_assign d.entries k k' v

@[simp] theorem get?_set_self (d : Dict κ ν) (k : κ) (v : ν) : (d.set k v).get? k = some v := by
  simp [get?_set]

theorem get?_set_ne (d : Dict κ ν) {k k' : κ} (h : k ≠ k') (v : ν) :
    (d.set k v).get? k' = d.get? k' := by simp [get?_set, h]

@[simp] theorem get?_empty (k : κ) : (empty : Dict κ ν).get? k = none := rfl

theorem getD_set (d : Dict κ ν) (k k' : κ) (v w : ν) :
    (d.set k v).getD k' w = if k = k' then v else d.getD k' w := by
  unfold getD
  rw [get?_set]
  split_ifs <;> rfl

theorem getD_of_get? (d : Dict κ ν) {k : κ} {v : ν} (h : d.get? k = some v) (w : ν) :
    d.getD k w = v := by simp [getD, h]

theorem mem_entries (d : Dict κ ν) (k : κ) (v : ν) : (k, v) ∈ d.entries ↔ d.get? k = some v :=
  ⟨Bindings.lookup_of_mem _ d.nodup k v, Bindings.mem_of_lookup _ k v⟩

theorem mem_keys (d : Dict κ ν) (k : κ) : k ∈ d.keys ↔ d.get? k ≠ none := by
  rw [Ne, get?, Bindings.lookup_eq_none, not_not]
  rfl

theorem get?_eq_none (d : Dict κ ν) {k : κ} : d.get? k = none ↔ k ∉ d.keys :=
  Bindings.lookup_eq_none _ _

omit [DecidableEq κ] in
theorem keys_nodup (d : Dict κ ν) : d.keys.Nodup := d.nodup

theorem get?_ofKeys (l : List κ) (hl : l.Nodup) (f : κ → ν) (k : κ) :
    (ofKeys l hl f).get? k = if k ∈ l then some (f k) else none := by
  by_cases h : k ∈ l
  · rw [if_pos h, ← mem_entries]
    exact List.mem_map.mpr ⟨k, h, rfl⟩
  · rw [if_neg h, get?, Bindings.lookup_eq_none]
    simpa [ofKeys, List.map_map, Function.comp_def] using h

theorem get?_eq_of_perm {d e : Dict κ ν} (h : d.entries.Perm e.entries) (k : κ) :
    d.get? k = e.get? k := by
  ext v
  rw [← mem_entries, ← mem_entries, h.mem_iff]

/-- A binding for a key that is not bound yet. -/
def setDefault (d : Dict κ ν) (k : κ) (v : ν) : Dict κ ν :=
  if d.get? k = none then d.set k v else d

theorem get?_setDefault (d : Dict κ ν) (k k' : κ) (v : ν) :
    (d.setDefault k v).get? k' = (d.get? k').or (if k = k' then some v else none) := by
  unfold setDefault
  by_cases hnone : d.get? k = none
  · rw [if_pos hnone, get?_set]
    by_cases hk : k = k'
    · subst hk
      simp [hnone]
    · simp [hk]
  · rw [if_neg hnone]
    by_cases hk : k = k'
    · subst hk
      obtain ⟨w, hw⟩ := Option.ne_none_iff_exists'.mp hnone
      simp [hw]
    · simp [hk]

/-- Values of distinct keys, bound one after the other. -/
theorem get?_foldl_set (key : ν → κ) (l : List ν) (hl : (l.map key).Nodup) (d : Dict κ ν) (k : κ) :
    (l.foldl (fun d v => d.set (key v) v) d).get? k =
      (l.find? fun v => key v = k).or (d.get? k) := by
  induction l generalizing d with
  | nil => simp
  | cons v l ih =>
    simp only [List.map_cons, List.nodup_cons] at hl
    rw [List.foldl_cons, ih hl.2, get?_set]
    by_cases hk : key v = k
    · have hnone : (l.find? fun w => key w = k) = none := by
        rw [List.find?_eq_none]
        intro w hw
        simp only [decide_eq_true_eq]
        exact fun hwk => hl.1 (List.mem_map.mpr ⟨w, hw, hwk.trans hk.symm⟩)
      simp [hk, hnone]
    · simp [hk]

theorem get?_foldl_setDefault (key : ν → κ) (l : List ν) (d : Dict κ ν) (k : κ) :
    (l.foldl (fun d v => d.setDefault (key v) v) d).get? k =
      (d.get? k).or (l.find? fun v => key v = k) := by
  induction l generalizing d with
  | nil => simp
  | cons v l ih =>
    rw [List.foldl_cons, ih, get?_setDefault, Option.or_assoc]
    by_cases hk : key v = k
    · simp [hk]
    · simp [hk]

theorem get?_foldl_set_fun (f : κ → ν) (l : List κ) (d : Dict κ ν) (k : κ) :
    (l.foldl (fun d k => d.set k (f k)) d).get? k = if k ∈ l then some (f k) else d.get? k := by
  induction l generalizing d with
  | nil => simp
  | cons a l ih =>
    rw [List.foldl_cons, ih, get?_set]
    by_cases hk : a = k
    · subst hk
      simp
    · simp [hk, Ne.symm hk]

/-- Copying the bindings one by one gives the same dictionary. -/
theorem get?_foldl_set_entries (l : List (κ × ν)) (hl : (l.map Prod.fst).Nodup) (d : Dict κ ν)
    (k : κ) : (l.foldl (fun d b => d.set b.1 b.2) d).get? k = (Bindings.lookup l k).or (d.get? k) := by
  induction l generalizing d with
  | nil => rfl
  | cons b l ih =>
    obtain ⟨k₀, v₀⟩ := b
    simp only [List.map_cons, List.nodup_cons] at hl
    rw [List.foldl_cons, ih hl.2, get?_set, Bindings.lookup]
    by_cases hk : k₀ = k
    · subst hk
      simp [(Bindings.lookup_eq_none l k₀).mpr hl.1]
    · simp [hk]

/-- The bindings of a list, the last one of a key counting. -/
def ofBindings (l : List (κ × ν)) : Dict κ ν := l.foldl (fun d b => d.set b.1 b.2) empty

theorem entries_foldl_set {l : List (κ × ν)} {d : Dict κ ν}
    (hl : (d.keys ++ l.map Prod.fst).Nodup) :
    (l.foldl (fun d b => d.set b.1 b.2) d).entries = d.entries ++ l := by
  induction l generalizing d with
  | nil => exact (List.append_nil _).symm
  | cons b l ih =>
    have hnew : b.1 ∉ d.keys := fun hmem =>
      (List.nodup_append.mp hl).2.2 b.1 hmem b.1 (List.mem_map_of_mem List.mem_cons_self) rfl
    have hset : (d.set b.1 b.2).entries = d.entries ++ [b] := Bindings.assign_of_not_mem hnew
    have hkeys : (d.set b.1 b.2).keys = d.keys ++ [b.1] := by rw [keys_set, if_neg hnew]
    rw [List.foldl_cons, ih, hset, List.append_assoc, List.singleton_append]
    rw [hkeys, List.append_assoc]
    exact hl

theorem entries_ofBindings {l : List (κ × ν)} (hl : (l.map Prod.fst).Nodup) :
    (ofBindings l).entries = l := entries_foldl_set hl

/-- Elements with distinct keys, bound one after the other, stay in their order. -/
theorem entries_foldl_set_map {α : Type*} (key : α → κ) (value : α → ν) {l : List α}
    (hl : (l.map key).Nodup) :
    (l.foldl (fun d a => d.set (key a) (value a)) empty).entries =
      l.map fun a => (key a, value a) := by
  have hbindings : ((l.map fun a => (key a, value a)).map Prod.fst).Nodup := by
    rw [List.map_map]
    exact hl
  rw [← entries_ofBindings hbindings, ofBindings, List.foldl_map]

/-- Values collected in a list under each key, in order. -/
def collect (pairs : List (κ × ν)) : Dict κ (List ν) :=
  pairs.foldl (fun d p => d.set p.1 (d.getD p.1 [] ++ [p.2])) empty

/-- Keys are collected in the order in which they first come up. -/
theorem keys_collect (pairs : List (κ × ν)) :
    (collect pairs).keys =
      (pairs.map Prod.fst).foldl (fun keys k => if k ∈ keys then keys else keys ++ [k]) [] := by
  have hfold : ∀ d : Dict κ (List ν),
      (pairs.foldl (fun d p => d.set p.1 (d.getD p.1 [] ++ [p.2])) d).keys =
        (pairs.map Prod.fst).foldl (fun keys k => if k ∈ keys then keys else keys ++ [k]) d.keys := by
    induction pairs with
    | nil => exact fun _ => rfl
    | cons p pairs ih =>
      intro d
      rw [List.foldl_cons, ih, keys_set, List.map_cons, List.foldl_cons]
  exact hfold empty
theorem get?_collect (pairs : List (κ × ν)) (k : κ) :
    (collect pairs).get? k = if k ∈ pairs.map Prod.fst then
      some ((pairs.filter fun p => p.1 = k).map Prod.snd) else none := by
  induction pairs using List.reverseRecOn with
  | nil => rfl
  | append_singleton pairs p ih =>
    have hsnoc : collect (pairs ++ [p]) =
        (collect pairs).set p.1 ((collect pairs).getD p.1 [] ++ [p.2]) := by
      rw [collect, List.foldl_append]
      rfl
    rw [hsnoc, get?_set]
    by_cases hk : p.1 = k
    · subst hk
      have hgetD : (collect pairs).getD p.1 [] =
          (pairs.filter fun q => q.1 = p.1).map Prod.snd := by
        rw [getD, ih]
        split_ifs with hmem
        · rfl
        · have hnil : (pairs.filter fun q => q.1 = p.1) = [] := by
            rw [List.filter_eq_nil_iff]
            intro q hq
            simp only [decide_eq_true_eq]
            exact fun he => hmem (List.mem_map.mpr ⟨q, hq, he⟩)
          simp [hnil]
      simp [hgetD]
    · have hmem : k ∈ (pairs ++ [p]).map Prod.fst ↔ k ∈ pairs.map Prod.fst := by
        simp [Ne.symm hk]
      simp only [ih, hk, if_false, hmem]
      simp [hk]

theorem mem_entries_collect (pairs : List (κ × ν)) (k : κ) (vs : List ν) :
    (k, vs) ∈ (collect pairs).entries ↔
      k ∈ pairs.map Prod.fst ∧ vs = (pairs.filter fun p => p.1 = k).map Prod.snd := by
  rw [mem_entries, get?_collect]
  split_ifs with hk
  · simp [hk, eq_comm]
  · simp [hk]

/-- Elements of a list collected under a key of theirs. -/
theorem mem_entries_collect_key (key : ν → κ) (l : List ν) (k : κ) (vs : List ν) :
    (k, vs) ∈ (collect (l.map fun a => (key a, a))).entries ↔
      (∃ a ∈ l, key a = k) ∧ vs = l.filter fun a => key a = k := by
  have hkeys : k ∈ (l.map fun a => (key a, a)).map Prod.fst ↔ ∃ a ∈ l, key a = k := by
    rw [List.map_map]
    exact List.mem_map
  have hvalues : ((l.map fun a => (key a, a)).filter fun p => p.1 = k).map Prod.snd =
      l.filter fun a => key a = k := by
    rw [List.filter_map, List.map_map]
    exact List.map_id _
  rw [mem_entries_collect, hkeys, hvalues]

end Dict

end ContinuityOS.Library
