import Mathlib.Algebra.BigOperators.Group.List.Basic
import Mathlib.Algebra.Order.BigOperators.Group.List
import Mathlib.Algebra.Order.Field.Basic
import Mathlib.Tactic

/-! # Weighted means of a list

Items are pairs of a value and a weight. The mean is a given value when the
weights add up to zero.
-/
namespace ContinuityOS.Library

universe u
variable {K : Type u} [Field K] [LinearOrder K] [IsStrictOrderedRing K]

def totalWeight (items : List (K × K)) : K := (items.map Prod.snd).sum

def weightedTotal (items : List (K × K)) : K := (items.map fun i => i.1 * i.2).sum

def weightedMean (fallback : K) (items : List (K × K)) : K :=
  if totalWeight items = 0 then fallback else weightedTotal items / totalWeight items

section Bounds
variable {items : List (K × K)} (hweight : ∀ i ∈ items, 0 ≤ i.2)
include hweight

theorem totalWeight_nonneg : 0 ≤ totalWeight items :=
  List.sum_nonneg (List.forall_mem_map.mpr hweight)

theorem le_weightedTotal {lo : K} (h : ∀ i ∈ items, lo ≤ i.1) :
    lo * totalWeight items ≤ weightedTotal items := by
  rw [totalWeight, weightedTotal, ← List.sum_map_mul_left]
  exact List.sum_le_sum fun i hi => mul_le_mul_of_nonneg_right (h i hi) (hweight i hi)

theorem weightedTotal_le {hi : K} (h : ∀ i ∈ items, i.1 ≤ hi) :
    weightedTotal items ≤ hi * totalWeight items := by
  rw [totalWeight, weightedTotal, ← List.sum_map_mul_left]
  exact List.sum_le_sum fun i hmem => mul_le_mul_of_nonneg_right (h i hmem) (hweight i hmem)

theorem le_weightedMean {fallback lo : K} (hfallback : lo ≤ fallback)
    (h : ∀ i ∈ items, lo ≤ i.1) : lo ≤ weightedMean fallback items := by
  unfold weightedMean
  split_ifs with hzero
  · exact hfallback
  · have hpos := lt_of_le_of_ne (totalWeight_nonneg hweight) (Ne.symm hzero)
    rw [le_div_iff₀ hpos]
    exact le_weightedTotal hweight h

theorem weightedMean_le {fallback hi : K} (hfallback : fallback ≤ hi)
    (h : ∀ i ∈ items, i.1 ≤ hi) : weightedMean fallback items ≤ hi := by
  unfold weightedMean
  split_ifs with hzero
  · exact hfallback
  · have hpos := lt_of_le_of_ne (totalWeight_nonneg hweight) (Ne.symm hzero)
    rw [div_le_iff₀ hpos]
    exact weightedTotal_le hweight h

end Bounds

omit [IsStrictOrderedRing K] in
theorem weightedMean_perm (fallback : K) {items items' : List (K × K)} (h : items.Perm items') :
    weightedMean fallback items = weightedMean fallback items' := by
  have htotal : totalWeight items = totalWeight items' := (h.map Prod.snd).sum_eq
  have hsum : weightedTotal items = weightedTotal items' := (h.map _).sum_eq
  rw [weightedMean, weightedMean, htotal, hsum]

/-- Item by item no smaller in value, and of the same weight. -/
def Dominated (items items' : List (K × K)) : Prop :=
  List.Forall₂ (fun i j => i.1 ≤ j.1 ∧ i.2 = j.2) items items'

theorem Dominated.totalWeight_eq {items items' : List (K × K)} (h : Dominated items items') :
    totalWeight items = totalWeight items' := by
  induction h with
  | nil => rfl
  | cons hij _ ih => simpa [totalWeight, hij.2] using ih

theorem Dominated.weightedTotal_le {items items' : List (K × K)} (h : Dominated items items')
    (hweight : ∀ i ∈ items, 0 ≤ i.2) : weightedTotal items ≤ weightedTotal items' := by
  induction h with
  | nil => rfl
  | cons hij _ ih =>
    simp only [weightedTotal, List.map_cons, List.sum_cons]
    rw [← hij.2]
    exact add_le_add (mul_le_mul_of_nonneg_right hij.1 (hweight _ List.mem_cons_self))
      (ih fun i hi => hweight i (List.mem_cons_of_mem _ hi))

/-- Larger values under the same weights have a larger mean. -/
theorem Dominated.weightedMean_le (fallback : K) {items items' : List (K × K)}
    (h : Dominated items items') (hweight : ∀ i ∈ items, 0 ≤ i.2) :
    weightedMean fallback items ≤ weightedMean fallback items' := by
  unfold weightedMean
  rw [← h.totalWeight_eq]
  split_ifs with hzero
  · exact le_rfl
  · exact div_le_div_of_nonneg_right (h.weightedTotal_le hweight) (totalWeight_nonneg hweight)

end ContinuityOS.Library
