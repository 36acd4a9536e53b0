import Mathlib.Data.Rat.Floor
import Mathlib.Algebra.Order.Floor.Semiring
import Mathlib.Algebra.BigOperators.Group.Finset.Basic
import Mathlib.Tactic

/-! # Noisy-OR combination and its headroom

Two independent causes with probabilities `a` and `b` have the joint
probability `1 - (1 - a) * (1 - b)`, and a list of causes has what is left over
from the product of their complements. The headroom of a finite family counts how
many more times some member can rise by more than a fixed amount below one.
-/
namespace ContinuityOS.Library

def combine (a b : ℚ) : ℚ := 1 - (1 - a) * (1 - b)

theorem combine_sub_left (a b : ℚ) : combine a b - a = (1 - a) * b := by
  unfold combine
  ring

theorem combine_comm (a b : ℚ) : combine a b = combine b a := by
  unfold combine
  ring

@[simp] theorem combine_zero (a : ℚ) : combine a 0 = a := by simp [combine]

@[simp] theorem combine_zero_left (b : ℚ) : combine 0 b = b := by simp [combine]

@[simp] theorem combine_one_left (b : ℚ) : combine 1 b = 1 := by simp [combine]

theorem combine_le_one {a b : ℚ} (ha : a ≤ 1) (hb : b ≤ 1) : combine a b ≤ 1 := by
  have h := mul_nonneg (sub_nonneg.mpr ha) (sub_nonneg.mpr hb)
  unfold combine
  linarith

theorem left_le_combine {a b : ℚ} (ha : a ≤ 1) (hb : 0 ≤ b) : a ≤ combine a b := by
  have h := mul_nonneg (sub_nonneg.mpr ha) hb
  linarith [combine_sub_left a b]

theorem right_le_combine {a b : ℚ} (ha : 0 ≤ a) (hb : b ≤ 1) : b ≤ combine a b := by
  rw [combine_comm]
  exact left_le_combine hb ha

/-- Joint probability of independent causes. -/
def noisyOr (l : List ℚ) : ℚ := 1 - (l.map fun c => 1 - c).prod

/-- All causes are probabilities. -/
def UnitValues (l : List ℚ) : Prop := ∀ c ∈ l, 0 ≤ c ∧ c ≤ 1

theorem UnitValues.of_append_left {l m : List ℚ} (h : UnitValues (l ++ m)) : UnitValues l :=
  fun c hc => h c (List.mem_append_left m hc)

section NoisyOr

@[simp] theorem noisyOr_nil : noisyOr [] = 0 := by simp [noisyOr]

@[simp] theorem noisyOr_singleton (c : ℚ) : noisyOr [c] = c := by simp [noisyOr]

theorem noisyOr_cons (c : ℚ) (l : List ℚ) : noisyOr (c :: l) = combine c (noisyOr l) := by
  simp only [noisyOr, combine, List.map_cons, List.prod_cons]
  ring

theorem noisyOr_append (l m : List ℚ) : noisyOr (l ++ m) = combine (noisyOr l) (noisyOr m) := by
  simp only [noisyOr, combine, List.map_append, List.prod_append]
  ring

theorem noisyOr_snoc (l : List ℚ) (c : ℚ) : noisyOr (l ++ [c]) = combine (noisyOr l) c := by
  rw [noisyOr_append, noisyOr_singleton]

theorem noisyOr_perm {l m : List ℚ} (h : l.Perm m) : noisyOr l = noisyOr m := by
  rw [noisyOr, noisyOr, (h.map fun c => 1 - c).prod_eq]

theorem noisyOr_mem_unit {l : List ℚ} (h : UnitValues l) : 0 ≤ noisyOr l ∧ noisyOr l ≤ 1 := by
  induction l with
  | nil => simp
  | cons c l ih =>
    have hc := h c List.mem_cons_self
    obtain ⟨h0, h1⟩ := ih fun d hd => h d (List.mem_cons_of_mem c hd)
    rw [noisyOr_cons]
    exact ⟨hc.1.trans (left_le_combine hc.2 h0), combine_le_one hc.2 h1⟩

theorem noisyOr_eq_zero {l : List ℚ} (h : ∀ c ∈ l, c = 0) : noisyOr l = 0 := by
  induction l with
  | nil => simp
  | cons c l ih =>
    rw [noisyOr_cons, h c List.mem_cons_self, ih fun d hd => h d (List.mem_cons_of_mem c hd)]
    simp

/-- Impossible causes can be left out. -/
theorem noisyOr_map_filter {ι : Type*} {f : ι → ℚ} {P : ι → Prop} [DecidablePred P] (l : List ι)
    (h : ∀ i ∈ l, ¬ P i → f i = 0) :
    noisyOr (l.map f) = noisyOr ((l.filter fun i => P i).map f) := by
  induction l with
  | nil => rfl
  | cons i l ih =>
    have hrest := ih fun j hj => h j (List.mem_cons_of_mem i hj)
    by_cases hi : P i
    · rw [List.filter_cons_of_pos (by simpa using hi), List.map_cons, List.map_cons, noisyOr_cons,
        noisyOr_cons, hrest]
    · rw [List.filter_cons_of_neg (by simpa using hi), List.map_cons, noisyOr_cons,
        h i List.mem_cons_self hi, combine_zero_left, hrest]

theorem combine_mono {a a' b b' : ℚ} (ha : a ≤ a') (hb : b ≤ b') (ha' : a' ≤ 1) (hb1 : b ≤ 1) :
    combine a b ≤ combine a' b' := by
  have h := mul_nonneg (sub_nonneg.mpr ha) (sub_nonneg.mpr hb1)
  have h' := mul_nonneg (sub_nonneg.mpr ha') (sub_nonneg.mpr hb)
  unfold combine
  linarith

theorem noisyOr_le_of_subperm {l m : List ℚ} (h : l.Subperm m) (hm : UnitValues m) :
    noisyOr l ≤ noisyOr m := by
  obtain ⟨l', hl', hsub⟩ := h
  obtain ⟨rest, hrest⟩ := hsub.exists_perm_append
  have hperm : m.Perm (l ++ rest) := hrest.trans (hl'.append_right rest)
  have hunit : UnitValues (l ++ rest) := fun c hc => hm c (hperm.mem_iff.mpr hc)
  have hl := noisyOr_mem_unit hunit.of_append_left
  have hunitRest := noisyOr_mem_unit (l := rest) fun c hc => hunit c (List.mem_append_right l hc)
  rw [noisyOr_perm hperm, noisyOr_append]
  exact left_le_combine hl.2 hunitRest.1

theorem combine_assoc (a b c : ℚ) : combine (combine a b) c = combine a (combine b c) := by
  unfold combine
  ring

/-- Larger causes have the larger joint probability. -/
theorem noisyOr_map_mono {ι : Type*} {f h : ι → ℚ} {l : List ι}
    (hle : ∀ i ∈ l, 0 ≤ f i ∧ f i ≤ h i ∧ h i ≤ 1) :
    noisyOr (l.map f) ≤ noisyOr (l.map h) := by
  induction l with
  | nil => exact le_rfl
  | cons i l ih =>
    rw [List.forall_mem_cons] at hle
    have hunit : UnitValues (l.map f) := by
      intro c hc
      obtain ⟨j, hj, rfl⟩ := List.mem_map.mp hc
      exact ⟨(hle.2 j hj).1, (hle.2 j hj).2.1.trans (hle.2 j hj).2.2⟩
    rw [List.map_cons, List.map_cons, noisyOr_cons, noisyOr_cons]
    exact combine_mono hle.1.2.1 (ih hle.2) hle.1.2.2 (noisyOr_mem_unit hunit).2

/-- Causes that are combined one by one are combined as a whole. -/
theorem noisyOr_map_combine {ι : Type*} (f h : ι → ℚ) (l : List ι) :
    noisyOr (l.map fun i => combine (f i) (h i)) =
      combine (noisyOr (l.map f)) (noisyOr (l.map h)) := by
  induction l with
  | nil => simp
  | cons i l ih =>
    simp only [List.map_cons, noisyOr_cons, ih]
    unfold combine
    ring

theorem noisyOr_le_sum {l : List ℚ} (h : UnitValues l) : noisyOr l ≤ l.sum := by
  induction l with
  | nil => simp
  | cons c l ih =>
    have hc := h c List.mem_cons_self
    have hrest : UnitValues l := fun d hd => h d (List.mem_cons_of_mem c hd)
    have hunit := noisyOr_mem_unit hrest
    have hprod := mul_nonneg hc.1 hunit.1
    have hgain := combine_sub_left c (noisyOr l)
    rw [noisyOr_cons, List.sum_cons]
    linarith [ih hrest]

/-- The joint probability rises by no more than its causes do. -/
theorem noisyOr_map_le_add {ι : Type*} {f h : ι → ℚ} {l : List ι}
    (hle : ∀ i ∈ l, 0 ≤ f i ∧ f i ≤ h i ∧ h i ≤ 1) :
    noisyOr (l.map h) ≤ noisyOr (l.map f) + (l.map fun i => h i - f i).sum := by
  induction l with
  | nil => simp
  | cons i l ih =>
    have hmono := noisyOr_map_mono (List.forall_mem_cons.mp hle).2
    rw [List.forall_mem_cons] at hle
    have hrest := ih hle.2
    have hunit : UnitValues (l.map f) := by
      intro c hc
      obtain ⟨j, hj, rfl⟩ := List.mem_map.mp hc
      exact ⟨(hle.2 j hj).1, (hle.2 j hj).2.1.trans (hle.2 j hj).2.2⟩
    have hf := noisyOr_mem_unit hunit
    have hrise : combine (h i) (noisyOr (l.map h)) - combine (f i) (noisyOr (l.map f)) =
        (h i - f i) * (1 - noisyOr (l.map f)) +
          (noisyOr (l.map h) - noisyOr (l.map f)) * (1 - h i) := by
      unfold combine
      ring
    have hfirst : (h i - f i) * (1 - noisyOr (l.map f)) ≤ h i - f i :=
      mul_le_of_le_one_right (by linarith [hle.1.2.1]) (by linarith)
    have hsecond : (noisyOr (l.map h) - noisyOr (l.map f)) * (1 - h i) ≤
        noisyOr (l.map h) - noisyOr (l.map f) :=
      mul_le_of_le_one_right (by linarith) (by linarith [hle.1.1, hle.1.2.1])
    simp only [List.map_cons, noisyOr_cons, List.sum_cons]
    linarith

/-- Causes that each add at most a gap to a total add at most a gap for each of them. -/
theorem noisyOr_map_le_add_gaps {ι : Type*} {f : ι → ℚ} {P : ι → Prop} [DecidablePred P]
    {total gap : ℚ} {l : List ι} (hunit : UnitValues (l.map f)) (htotal : total ≤ 1)
    (hrest : noisyOr (l.map fun i => if P i then 0 else f i) ≤ total)
    (hgap : ∀ i ∈ l, P i → (1 - total) * f i ≤ gap) :
    noisyOr (l.map f) ≤ total + l.countP (fun i => P i) * gap := by
  have hsplit : l.map f = l.map fun i =>
      combine (if P i then 0 else f i) (if P i then f i else 0) := by
    apply List.map_congr_left
    intro i _
    by_cases hi : P i <;> simp [hi]
  have hadded : UnitValues (l.map fun i => if P i then f i else 0) := by
    intro c hc
    obtain ⟨i, hi, rfl⟩ := List.mem_map.mp hc
    split_ifs
    · exact hunit _ (List.mem_map_of_mem hi)
    · norm_num
  have hsum : (1 - total) * (l.map fun i => if P i then f i else 0).sum ≤
      l.countP (fun i => P i) * gap := by
    clear hsplit hadded hunit hrest
    induction l with
    | nil => simp
    | cons i l ih =>
      rw [List.forall_mem_cons] at hgap
      rw [List.map_cons, List.sum_cons, List.countP_cons, mul_add]
      push_cast
      by_cases hi : P i
      · have hone := hgap.1 hi
        simp only [hi, if_true, decide_true]
        linarith [ih hgap.2]
      · simp only [hi, if_false, decide_false, mul_zero, zero_add, Bool.false_eq_true, add_zero]
        exact ih hgap.2
  calc
    noisyOr (l.map f) = combine (noisyOr (l.map fun i => if P i then 0 else f i))
        (noisyOr (l.map fun i => if P i then f i else 0)) := by rw [hsplit, noisyOr_map_combine]
    _ ≤ combine total (noisyOr (l.map fun i => if P i then f i else 0)) :=
      combine_mono hrest le_rfl htotal (noisyOr_mem_unit hadded).2
    _ = total + (1 - total) * noisyOr (l.map fun i => if P i then f i else 0) := by
      linarith [combine_sub_left total (noisyOr (l.map fun i => if P i then f i else 0))]
    _ ≤ total + (1 - total) * (l.map fun i => if P i then f i else 0).sum := by
      have hle := mul_le_mul_of_nonneg_left (noisyOr_le_sum hadded) (sub_nonneg.mpr htotal)
      linarith
    _ ≤ total + l.countP (fun i => P i) * gap := by linarith

end NoisyOr

section Headroom
variable {ι : Type*} [DecidableEq ι] (gap : ℚ)

def headroom (s : Finset ι) (p : ι → ℚ) : ℕ := ∑ v ∈ s, ⌊(1 - p v) / gap⌋₊

/-- A rise by more than the gap spends a unit of headroom. -/
theorem headroom_update {s : Finset ι} {p : ι → ℚ} {v : ι} {x : ℚ} (hgap : 0 < gap)
    (hv : v ∈ s) (hx : x ≤ 1) (hrise : p v + gap < x) :
    headroom gap s (Function.update p v x) + 1 ≤ headroom gap s p := by
  have hterm : ⌊(1 - x) / gap⌋₊ + 1 ≤ ⌊(1 - p v) / gap⌋₊ := by
    have h0 : 0 ≤ (1 - x) / gap := div_nonneg (by linarith) hgap.le
    rw [← Nat.floor_add_one h0]
    apply Nat.floor_mono
    rw [div_add_one hgap.ne', div_le_div_iff_of_pos_right hgap]
    linarith
  unfold headroom
  rw [← Finset.add_sum_erase s _ hv, ← Finset.add_sum_erase s (fun v => ⌊(1 - p v) / gap⌋₊) hv]
  have hrest : ∑ w ∈ s.erase v, ⌊(1 - Function.update p v x w) / gap⌋₊ =
      ∑ w ∈ s.erase v, ⌊(1 - p w) / gap⌋₊ :=
    Finset.sum_congr rfl (fun w hw => by rw [Function.update_of_ne (Finset.ne_of_mem_erase hw)])
  rw [hrest, Function.update_self]
  omega

omit [DecidableEq ι] in
theorem headroom_le {s : Finset ι} {p : ι → ℚ} {n : ℕ} (hgap : 0 < gap)
    (hn : 1 ≤ n * gap) (hp : ∀ v, 0 ≤ p v) : headroom gap s p ≤ s.card * n := by
  unfold headroom
  rw [← smul_eq_mul]
  apply Finset.sum_le_card_nsmul
  intro v _
  apply Nat.floor_le_of_le
  rw [div_le_iff₀ hgap]
  linarith [hp v]

end Headroom

end ContinuityOS.Library
