import Mathlib.Data.List.Basic
import Mathlib.Data.List.TakeDrop
import Mathlib.Tactic

/-! # Pages of a list

The page of a number is what a query with a limit returns at the offset of that many limits.
Consecutive pages from the first on are a front of the list.
-/
namespace ContinuityOS.Library

variable {α : Type*}

theorem flatMap_pages (l : List α) (limit n : ℕ) :
    (List.range n).flatMap (fun k => (l.drop (k * limit)).take limit) = l.take (n * limit) := by
  induction n with
  | zero => simp
  | succ n ih =>
    rw [List.range_succ, List.flatMap_append, ih, Nat.succ_mul, List.take_add]
    simp

theorem flatten_pages {l : List α} {limit : ℕ} {pages : List (List α)}
    (h : ∀ k (hk : k < pages.length), pages[k] = (l.drop (k * limit)).take limit) :
    pages.flatten = l.take (pages.length * limit) := by
  have hpages : pages =
      (List.range pages.length).map fun k => (l.drop (k * limit)).take limit := by
    refine List.ext_getElem (by simp) fun k hk hk' => ?_
    rw [h k hk, List.getElem_map, List.getElem_range]
  have hflatten := congrArg List.flatten hpages
  rw [← List.flatMap_def, flatMap_pages] at hflatten
  exact hflatten

/-- Every offset up to a largest one is served. -/
theorem mul_le_of_lt_pages {limit largest k : ℕ} (hk : k < largest / limit + 1) :
    k * limit ≤ largest :=
  (Nat.mul_le_mul_right limit (Nat.lt_succ_iff.mp hk)).trans (Nat.div_mul_le_self largest limit)

end ContinuityOS.Library
