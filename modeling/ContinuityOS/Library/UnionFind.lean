import Mathlib.Data.Finset.Card
import Mathlib.Logic.Relation
import Mathlib.Logic.Function.Basic
import Mathlib.Tactic

/-! # Union-find with path compression

A parent map over a finite set is read through the root function it represents.
Finding a root compresses paths and changes no root; a union sends one class to
the root of another. After a list of unions two elements have the same root
exactly when the list connects them.
-/
namespace ContinuityOS.Library

universe u
variable {α : Type u} [DecidableEq α]

/-- The root of an element, and the parent map with the path to it compressed. -/
def find : ℕ → (α → α) → α → α × (α → α)
  | 0, parent, i => (i, parent)
  | fuel + 1, parent, i =>
    if parent i = i then (i, parent)
    else
      let r := find fuel parent (parent i)
      (r.1, Function.update r.2 i r.1)

def union (fuel : ℕ) (parent : α → α) (i j : α) : α → α :=
  let ri := find fuel parent i
  let rj := find fuel ri.2 j
  if ri.1 ≠ rj.1 then Function.update rj.2 ri.1 rj.1 else rj.2

/-- The parent map leads every element to its root along falling heights. -/
structure Represents (S : Finset α) (parent root : α → α) (height : α → ℕ) : Prop where
  closed : ∀ i ∈ S, parent i ∈ S
  step : ∀ i, root (parent i) = root i
  fixed : ∀ i, parent i = i → root i = i
  descends : ∀ i, parent i ≠ i → height (parent i) < height i

namespace Represents
variable {S : Finset α} {parent root : α → α} {height : α → ℕ}

/-- A property of fixed points that passes from a parent to its child holds of all. -/
theorem induction (h : Represents S parent root height) {P : α → Prop}
    (hfixed : ∀ i, parent i = i → P i) (hstep : ∀ i, parent i ≠ i → P (parent i) → P i) (i : α) :
    P i := by
  induction hn : height i using Nat.strong_induction_on generalizing i with
  | h n ih =>
    by_cases hi : parent i = i
    · exact hfixed i hi
    · exact hstep i hi (ih _ (hn ▸ h.descends i hi) (parent i) rfl)

theorem parent_root (h : Represents S parent root height) (i : α) :
    parent (root i) = root i := by
  refine h.induction (P := fun i => parent (root i) = root i) (fun i hi => ?_) (fun i _ ih => ?_) i
  · rw [h.fixed i hi, hi]
  · rwa [h.step] at ih

theorem root_root (h : Represents S parent root height) (i : α) : root (root i) = root i :=
  h.fixed _ (h.parent_root i)

theorem height_root_le (h : Represents S parent root height) (i : α) :
    height (root i) ≤ height i := by
  refine h.induction (P := fun i => height (root i) ≤ height i) (fun i hi => ?_)
    (fun i hi ih => ?_) i
  · rw [h.fixed i hi]
  · rw [h.step] at ih
    exact ih.trans (h.descends i hi).le

theorem root_mem (h : Represents S parent root height) {i : α} (hi : i ∈ S) : root i ∈ S := by
  refine h.induction (P := fun i => i ∈ S → root i ∈ S) (fun i hfix hmem => ?_)
    (fun i _ ih hmem => ?_) i hi
  · rwa [h.fixed i hfix]
  · have hroot := ih (h.closed i hmem)
    rwa [h.step] at hroot

/-- Pointing an element that is not a root at its root changes no root. -/
theorem compress (h : Represents S parent root height) {i : α} (hi : i ∈ S)
    (hlt : height (root i) < height i) :
    Represents S (Function.update parent i (root i)) root height where
  closed x hx := by
    by_cases hxi : x = i
    · subst hxi
      rw [Function.update_self]
      exact h.root_mem hi
    · rw [Function.update_of_ne hxi]
      exact h.closed x hx
  step x := by
    by_cases hxi : x = i
    · subst hxi
      rw [Function.update_self, h.root_root]
    · rw [Function.update_of_ne hxi, h.step]
  fixed x hx := by
    by_cases hxi : x = i
    · subst hxi
      rwa [Function.update_self] at hx
    · rw [Function.update_of_ne hxi] at hx
      exact h.fixed x hx
  descends x hx := by
    by_cases hxi : x = i
    · subst hxi
      rwa [Function.update_self]
    · rw [Function.update_of_ne hxi] at hx ⊢
      exact h.descends x hx

/-- Elements strictly below the height of a given one. -/
def below (S : Finset α) (height : α → ℕ) (i : α) : Finset α :=
  S.filter fun x => height x < height i

omit [DecidableEq α] in
theorem below_parent (h : Represents S parent root height) {i : α} (hi : i ∈ S)
    (hne : parent i ≠ i) : (below S height (parent i)).card < (below S height i).card := by
  have hlt := h.descends i hne
  apply Finset.card_lt_card
  rw [Finset.ssubset_iff_of_subset]
  · refine ⟨parent i, ?_, ?_⟩
    · simp [below, h.closed i hi, hlt]
    · simp [below]
  · intro x hx
    simp only [below, Finset.mem_filter] at hx ⊢
    exact ⟨hx.1, hx.2.trans hlt⟩

omit [DecidableEq α] in
theorem below_card_lt {i : α} (hi : i ∈ S) : (below S height i).card < S.card :=
  Finset.card_lt_card (Finset.filter_ssubset.mpr ⟨i, hi, lt_irrefl _⟩)

theorem find_of_below (h : Represents S parent root height) {fuel : ℕ} {i : α} (hi : i ∈ S)
    (hfuel : (below S height i).card < fuel) :
    (find fuel parent i).1 = root i ∧
      Represents S (find fuel parent i).2 root height := by
  induction fuel generalizing i with
  | zero => omega
  | succ fuel ih =>
    by_cases hfix : parent i = i
    · rw [find, if_pos hfix]
      exact ⟨(h.fixed i hfix).symm, h⟩
    · obtain ⟨hroot, hrep⟩ := ih (h.closed i hi)
        (by have := h.below_parent hi hfix; omega)
      rw [find, if_neg hfix]
      rw [h.step] at hroot
      simp only [hroot, true_and]
      apply hrep.compress hi
      calc
        height (root i) = height (root (parent i)) := by rw [h.step]
        _ ≤ height (parent i) := h.height_root_le (parent i)
        _ < height i := h.descends i hfix

theorem find_spec (h : Represents S parent root height) {fuel : ℕ} (hfuel : S.card ≤ fuel) {i : α}
    (hi : i ∈ S) :
    (find fuel parent i).1 = root i ∧ Represents S (find fuel parent i).2 root height :=
  h.find_of_below hi ((below_card_lt hi).trans_le hfuel)

end Represents

/-- The roots after the class of one element joins the class of another. -/
def mergeRoots (root : α → α) (i j : α) (x : α) : α := if root x = root i then root j else root x

namespace Represents
variable {S : Finset α} {parent root : α → α} {height : α → ℕ}

/-- Pointing one root at another merges their classes. -/
theorem attach (h : Represents S parent root height) {i j : α} (hj : j ∈ S)
    (hne : root i ≠ root j) :
    Represents S (Function.update parent (root i) (root j)) (mergeRoots root i j)
      (fun x => if root x = root i then height x + height (root j) + 1 else height x) where
  closed x hx := by
    by_cases hxi : x = root i
    · rw [hxi, Function.update_self]
      exact h.root_mem hj
    · rw [Function.update_of_ne hxi]
      exact h.closed x hx
  step x := by
    by_cases hxi : x = root i
    · rw [hxi, Function.update_self, mergeRoots, mergeRoots, h.root_root, h.root_root,
        if_neg (Ne.symm hne), if_pos rfl]
    · rw [Function.update_of_ne hxi, mergeRoots, mergeRoots, h.step]
  fixed x hx := by
    by_cases hxi : x = root i
    · rw [hxi, Function.update_self] at hx
      exact absurd hx.symm hne
    · rw [Function.update_of_ne hxi] at hx
      have hroot := h.fixed x hx
      rw [mergeRoots, hroot, if_neg hxi]
  descends x hx := by
    by_cases hxi : x = root i
    · rw [hxi, Function.update_self]
      simp only [h.root_root, if_neg (Ne.symm hne), if_true]
      omega
    · rw [Function.update_of_ne hxi] at hx ⊢
      have hlt := h.descends x hx
      simp only [h.step]
      split_ifs <;> omega

theorem union_spec (h : Represents S parent root height) {fuel : ℕ} (hfuel : S.card ≤ fuel)
    {i j : α} (hi : i ∈ S) (hj : j ∈ S) :
    ∃ height', Represents S (union fuel parent i j) (mergeRoots root i j) height' := by
  obtain ⟨hri, hrep⟩ := h.find_spec hfuel hi
  obtain ⟨hrj, hrep'⟩ := hrep.find_spec hfuel hj
  simp only [union, hri, hrj]
  by_cases hne : root i = root j
  · have hsame : mergeRoots root i j = root := by
      funext x
      rw [mergeRoots]
      split_ifs with hx
      · rw [hx, hne]
      · rfl
    rw [if_neg (not_not.mpr hne), hsame]
    exact ⟨height, hrep'⟩
  · rw [if_pos hne]
    exact ⟨_, hrep'.attach hj hne⟩

end Represents

/-- Two elements are joined by the pair. -/
def PairedIn (pairs : List (α × α)) (x y : α) : Prop := (x, y) ∈ pairs

omit [DecidableEq α] in
theorem eqvGen_append_left {pairs more : List (α × α)} {x y : α}
    (h : Relation.EqvGen (PairedIn pairs) x y) : Relation.EqvGen (PairedIn (pairs ++ more)) x y :=
  h.mono fun _ _ hxy => List.mem_append_left more hxy

/-- The merged roots have as kernel the relation generated with one more pair. -/
theorem mergeRoots_eq_iff {pairs : List (α × α)} {root : α → α}
    (hroot : ∀ x y, root x = root y ↔ Relation.EqvGen (PairedIn pairs) x y) (i j x y : α) :
    mergeRoots root i j x = mergeRoots root i j y ↔
      Relation.EqvGen (PairedIn (pairs ++ [(i, j)])) x y := by
  have hij : Relation.EqvGen (PairedIn (pairs ++ [(i, j)])) i j :=
    .rel _ _ (List.mem_append_right _ (List.mem_singleton.mpr rfl))
  have hold : ∀ {a b}, root a = root b → Relation.EqvGen (PairedIn (pairs ++ [(i, j)])) a b :=
    fun hab => eqvGen_append_left ((hroot _ _).mp hab)
  constructor
  · intro h
    rw [mergeRoots, mergeRoots] at h
    split_ifs at h with hx hy hy
    · exact hold (hx.trans hy.symm)
    · exact ((hold hx).trans _ _ _ hij).trans _ _ _ (hold h)
    · exact ((hold h).trans _ _ _ hij.symm).trans _ _ _ (hold hy.symm)
    · exact hold h
  · intro h
    induction h with
    | rel a b hab =>
      rcases List.mem_append.mp hab with hpair | hpair
      · have heq : root a = root b := (hroot a b).mpr (.rel a b hpair)
        rw [mergeRoots, mergeRoots, heq]
      · have heq := List.mem_singleton.mp hpair
        simp only [Prod.mk.injEq] at heq
        rw [heq.1, heq.2, mergeRoots, mergeRoots, if_pos rfl]
        split_ifs <;> rfl
    | refl a => rfl
    | symm a b _ ih => exact ih.symm
    | trans a b c _ _ ih ih' => exact ih.trans ih'

omit [DecidableEq α] in
theorem represents_id (S : Finset α) : Represents S id id (fun _ => 0) :=
  ⟨fun _ hi => hi, fun _ => rfl, fun _ _ => rfl, fun _ hi => absurd rfl hi⟩

/-- After the unions of a list, equal roots are exactly the connected elements. -/
theorem foldl_union_spec {S : Finset α} {fuel : ℕ} (hfuel : S.card ≤ fuel)
    (pairs : List (α × α)) (hpairs : ∀ p ∈ pairs, p.1 ∈ S ∧ p.2 ∈ S) :
    ∃ root height, Represents S
      (pairs.foldl (fun parent p => union fuel parent p.1 p.2) id) root height ∧
      ∀ x y, root x = root y ↔ Relation.EqvGen (PairedIn pairs) x y := by
  induction pairs using List.reverseRecOn with
  | nil =>
    refine ⟨id, fun _ => 0, represents_id S, fun x y => ⟨?_, ?_⟩⟩
    · rintro rfl
      exact .refl x
    · intro h
      induction h with
      | rel a b hab => exact absurd hab List.not_mem_nil
      | refl a => rfl
      | symm a b _ ih => exact ih.symm
      | trans a b c _ _ ih ih' => exact ih.trans ih'
  | append_singleton pairs p ih =>
    obtain ⟨root, height, hrep, hroot⟩ :=
      ih fun q hq => hpairs q (List.mem_append_left _ hq)
    obtain ⟨hi, hj⟩ := hpairs p (List.mem_append_right _ (List.mem_singleton.mpr rfl))
    obtain ⟨height', hrep'⟩ := hrep.union_spec hfuel hi hj
    rw [List.foldl_append]
    exact ⟨_, height', hrep', mergeRoots_eq_iff hroot p.1 p.2⟩

/-- The roots of a list of elements, found one after the other. -/
def findAll (fuel : ℕ) (parent : α → α) (l : List α) : Finset α × (α → α) :=
  l.foldl (fun acc i => (insert (find fuel acc.2 i).1 acc.1, (find fuel acc.2 i).2)) (∅, parent)

theorem findAll_spec {S : Finset α} {parent root : α → α} {height : α → ℕ}
    (h : Represents S parent root height) {fuel : ℕ} (hfuel : S.card ≤ fuel) (l : List α)
    (hl : ∀ i ∈ l, i ∈ S) : (findAll fuel parent l).1 = l.toFinset.image root ∧
      Represents S (findAll fuel parent l).2 root height := by
  induction l using List.reverseRecOn with
  | nil => exact ⟨by simp [findAll], h⟩
  | append_singleton l i ih =>
    obtain ⟨hset, hrep⟩ := ih fun j hj => hl j (List.mem_append_left _ hj)
    obtain ⟨hroot, hrep'⟩ := hrep.find_spec hfuel
      (hl i (List.mem_append_right _ (List.mem_singleton.mpr rfl)))
    have hsnoc : findAll fuel parent (l ++ [i]) =
        (insert (find fuel (findAll fuel parent l).2 i).1 (findAll fuel parent l).1,
          (find fuel (findAll fuel parent l).2 i).2) := by
      rw [findAll, List.foldl_append]
      rfl
    rw [hsnoc, hroot, hset]
    refine ⟨?_, hrep'⟩
    ext x
    simp only [Finset.mem_insert, Finset.mem_image, List.mem_toFinset, List.mem_append,
      List.mem_singleton]
    constructor
    · rintro (rfl | ⟨j, hj, rfl⟩)
      · exact ⟨i, Or.inr rfl, rfl⟩
      · exact ⟨j, Or.inl hj, rfl⟩
    · rintro ⟨j, hj | rfl, rfl⟩
      · exact Or.inr ⟨j, hj, rfl⟩
      · exact Or.inl rfl

end ContinuityOS.Library
