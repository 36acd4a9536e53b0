import Mathlib.Data.List.Basic
import Mathlib.Tactic

/-! # Decision lists

A decision list answers with its first rule that fires. When every rule that
fires on one input is matched by an equal or earlier rule on another, the second
answer is no later than the first.
-/
namespace ContinuityOS.Library

/-- Position of the first rule that fires, the length when none does. -/
def firstTrue : List Bool → ℕ
  | [] => 0
  | true :: _ => 0
  | false :: l => firstTrue l + 1

theorem getD_firstTrue_cons {α : Type*} (b : Bool) (l : List Bool) (x : α) (xs : List α) (d : α) :
    (x :: xs).getD (firstTrue (b :: l)) d = if b = true then x else xs.getD (firstTrue l) d := by
  cases b <;> simp [firstTrue]

theorem firstTrue_le_length (l : List Bool) : firstTrue l ≤ l.length := by
  induction l with
  | nil => exact le_rfl
  | cons b l ih => cases b <;> simp [firstTrue, ih]

theorem firstTrue_le_of_getElem? {l : List Bool} {i : ℕ} (h : l[i]? = some true) :
    firstTrue l ≤ i := by
  induction l generalizing i with
  | nil => simp at h
  | cons b l ih =>
    cases b with
    | true => exact Nat.zero_le i
    | false =>
      cases i with
      | zero => simp at h
      | succ i => exact Nat.succ_le_succ (ih (by simpa using h))

theorem getElem?_firstTrue {l : List Bool} (h : firstTrue l < l.length) :
    l[firstTrue l]? = some true := by
  induction l with
  | nil => simp [firstTrue] at h
  | cons b l ih =>
    cases b with
    | true => simp [firstTrue]
    | false => simpa [firstTrue] using ih (by simpa [firstTrue] using h)

theorem firstTrue_eq_length_iff (l : List Bool) :
    firstTrue l = l.length ↔ ∀ b ∈ l, b = false := by
  induction l with
  | nil => simp [firstTrue]
  | cons b l ih => cases b <;> simp [firstTrue, ih]

/-- Rules that fire no later give an answer no later. -/
theorem firstTrue_le {l l' : List Bool} (hlen : l'.length = l.length)
    (h : ∀ i : ℕ, l[i]? = some true → ∃ j ≤ i, l'[j]? = some true) :
    firstTrue l' ≤ firstTrue l := by
  rcases (firstTrue_le_length l).lt_or_eq with hlt | heq
  · obtain ⟨j, hj, hfire⟩ := h _ (getElem?_firstTrue hlt)
    exact (firstTrue_le_of_getElem? hfire).trans hj
  · rw [heq, ← hlen]
    exact firstTrue_le_length l'

end ContinuityOS.Library
