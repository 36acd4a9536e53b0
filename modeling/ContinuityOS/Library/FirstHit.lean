import Mathlib.Tactic

/-! # First hits and last writes

A loop that records an index once and then keeps it ends with the first index hit. More
hits are recorded no later. A field that some steps overwrite ends with the last value written.
-/
namespace ContinuityOS.Library

def firstHit (hit : ℕ → Bool) (n : ℕ) : Option ℕ := (List.range n).find? hit

/-- Record an index unless one is recorded. -/
def recordFirst (recorded : Option ℕ) (hit : Bool) (i : ℕ) : Option ℕ :=
  if recorded = none ∧ hit = true then some i else recorded

section FirstHit
variable {hit hit' : ℕ → Bool} {n : ℕ}

@[simp] theorem firstHit_zero : firstHit hit 0 = none := rfl

theorem firstHit_succ : firstHit hit (n + 1) = recordFirst (firstHit hit n) (hit n) n := by
  unfold firstHit recordFirst
  rw [List.range_succ, List.find?_append]
  cases (List.range n).find? hit <;> cases hhit : hit n <;> simp [hhit]

theorem firstHit_eq_some_iff {i : ℕ} :
    firstHit hit n = some i ↔ i < n ∧ hit i = true ∧ ∀ j < i, hit j = false := by
  rw [firstHit, List.find?_range_eq_some, List.mem_range]
  simp [and_left_comm]

theorem firstHit_eq_none_iff : firstHit hit n = none ↔ ∀ i < n, hit i = false := by
  rw [firstHit, List.find?_range_eq_none]
  simp

/-- Where everything that hits also hits in the other way, it is recorded no later there. -/
theorem firstHit_le (h : ∀ i < n, hit' i = true → hit i = true) {i : ℕ}
    (hi : firstHit hit' n = some i) : ∃ j ≤ i, firstHit hit n = some j := by
  obtain ⟨hlt, htrue, -⟩ := firstHit_eq_some_iff.mp hi
  cases hj : firstHit hit n with
  | none =>
    have hfalse := firstHit_eq_none_iff.mp hj i hlt
    rw [h i hlt htrue] at hfalse
    cases hfalse
  | some j =>
    refine ⟨j, ?_, rfl⟩
    by_contra hji
    have hfalse := (firstHit_eq_some_iff.mp hj).2.2 i (not_le.mp hji)
    rw [h i hlt htrue] at hfalse
    cases hfalse

/-- From some index on everything hits. -/
theorem firstHit_from (start : ℕ) :
    firstHit (fun i => start ≤ i) n = if start < n then some start else none := by
  split_ifs with hlt
  · exact firstHit_eq_some_iff.mpr ⟨hlt, by simp, fun j hj => by simpa using hj⟩
  · exact firstHit_eq_none_iff.mpr fun i hi => by simpa using by omega

theorem firstHit_never : firstHit (fun _ => false) n = none :=
  firstHit_eq_none_iff.mpr fun _ _ => rfl

end FirstHit

section LastWrite
variable {α σ β : Type*}

/-- A field that some elements write and the others keep holds what the last of them wrote. -/
theorem foldl_lastWrite {step : σ → α → σ} {field : σ → β} {writes : α → Bool} {value : α → β}
    (hstep : ∀ s a, field (step s a) = if writes a then value a else field s) (l : List α) (s : σ) :
    field (l.foldl step s) = ((l.filter writes).getLast?.map value).getD (field s) := by
  induction l generalizing s with
  | nil => rfl
  | cons a l ih =>
    rw [List.foldl_cons, ih, hstep, List.filter_cons]
    split_ifs with ha
    · cases hlast : (l.filter writes).getLast? with
      | none =>
        have hnil : l.filter writes = [] := List.getLast?_eq_none_iff.mp hlast
        rw [hnil]
        rfl
      | some b =>
        rw [List.getLast?_cons, hlast]
        rfl
    · rfl

end LastWrite

end ContinuityOS.Library
