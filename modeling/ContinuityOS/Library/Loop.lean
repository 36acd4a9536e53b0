import Mathlib.Logic.Function.Iterate
import Mathlib.Tactic

/-! # While loops with fuel

The loop tests its condition before each pass. A natural-number variant bounds
the passes; with that much fuel the result no longer depends on the fuel.
-/
namespace ContinuityOS.Library

universe u
variable {σ : Type u}

def whileLoop (cond : σ → Bool) (body : σ → σ) : ℕ → σ → σ
  | 0, s => s
  | fuel + 1, s => if cond s then whileLoop cond body fuel (body s) else s

/-- After `n` passes, each entered with a true condition, the condition is false. -/
def ExitsAfter (cond : σ → Bool) (body : σ → σ) (s : σ) (n : ℕ) : Prop :=
  (∀ k < n, cond (body^[k] s) = true) ∧ cond (body^[n] s) = false

variable {cond : σ → Bool} {body : σ → σ}

theorem ExitsAfter.succ {s : σ} {n : ℕ} (hc : cond s = true)
    (h : ExitsAfter cond body (body s) n) : ExitsAfter cond body s (n + 1) := by
  refine ⟨fun k hk => ?_, by simpa only [Function.iterate_succ_apply] using h.2⟩
  cases k with
  | zero => exact hc
  | succ k =>
    simpa only [Function.iterate_succ_apply] using h.1 k (Nat.lt_of_succ_lt_succ hk)

theorem ExitsAfter.tail {s : σ} {n : ℕ} (h : ExitsAfter cond body s (n + 1)) :
    cond s = true ∧ ExitsAfter cond body (body s) n :=
  ⟨h.1 0 (Nat.succ_pos n), fun k hk => by
    simpa only [Function.iterate_succ_apply] using h.1 (k + 1) (Nat.succ_lt_succ hk),
    by simpa only [Function.iterate_succ_apply] using h.2⟩

/-- A variant that every pass lowers bounds the number of passes. -/
theorem exists_exitsAfter (inv : σ → Prop) (variant : σ → ℕ)
    (hinv : ∀ s, inv s → cond s = true → inv (body s))
    (hdec : ∀ s, inv s → cond s = true → variant (body s) < variant s)
    (s : σ) (hs : inv s) : ∃ n ≤ variant s, ExitsAfter cond body s n := by
  induction hv : variant s using Nat.strong_induction_on generalizing s with
  | _ v ih =>
    subst hv
    cases hc : cond s with
    | false => exact ⟨0, Nat.zero_le _, fun k hk => absurd hk (Nat.not_lt_zero k), hc⟩
    | true =>
      obtain ⟨n, hn, he⟩ := ih _ (hdec s hs hc) (body s) (hinv s hs hc) rfl
      exact ⟨n + 1, (Nat.succ_le_succ hn).trans (hdec s hs hc), he.succ hc⟩

theorem whileLoop_of_exitsAfter {s : σ} {n fuel : ℕ} (h : ExitsAfter cond body s n)
    (hf : n ≤ fuel) : whileLoop cond body fuel s = body^[n] s := by
  induction fuel generalizing s n with
  | zero =>
    obtain rfl : n = 0 := Nat.le_zero.mp hf
    rfl
  | succ fuel ih =>
    cases n with
    | zero =>
      have hc : cond s = false := h.2
      simp [whileLoop, hc]
    | succ n =>
      obtain ⟨hc, ht⟩ := h.tail
      rw [whileLoop, if_pos hc, ih ht (Nat.le_of_succ_le_succ hf)]
      rfl

/-- What every pass preserves holds of the result, whatever the fuel. -/
theorem whileLoop_inv (inv : σ → Prop)
    (hinv : ∀ s, inv s → cond s = true → inv (body s)) (fuel : ℕ) (s : σ) (hs : inv s) :
    inv (whileLoop cond body fuel s) := by
  induction fuel generalizing s with
  | zero => exact hs
  | succ fuel ih =>
    rw [whileLoop]
    split_ifs with hc
    · exact ih _ (hinv s hs hc)
    · exact hs

/-- Two bodies that agree wherever the invariant holds run the same loop. -/
theorem whileLoop_congr (inv : σ → Prop) {body' : σ → σ}
    (hinv : ∀ s, inv s → cond s = true → inv (body s))
    (hbody : ∀ s, inv s → cond s = true → body s = body' s) (fuel : ℕ) (s : σ) (hs : inv s) :
    whileLoop cond body fuel s = whileLoop cond body' fuel s := by
  induction fuel generalizing s with
  | zero => rfl
  | succ fuel ih =>
    rw [whileLoop, whileLoop]
    split_ifs with hc
    · rw [ih _ (hinv s hs hc), hbody s hs hc]
    · rfl

/-- Loops over related states, whose conditions agree and whose passes keep the relation, end in
related states. -/
theorem whileLoop_rel {τ : Type u} {cond' : τ → Bool} {body' : τ → τ} (related : σ → τ → Prop)
    (hcond : ∀ s t, related s t → cond s = cond' t)
    (hbody : ∀ s t, related s t → cond s = true → related (body s) (body' t)) (fuel : ℕ) (s : σ)
    (t : τ) (h : related s t) : related (whileLoop cond body fuel s) (whileLoop cond' body' fuel t) := by
  induction fuel generalizing s t with
  | zero => exact h
  | succ fuel ih =>
    rw [whileLoop, whileLoop, ← hcond s t h]
    split_ifs with hc
    · exact ih _ _ (hbody s t h hc)
    · exact h

end ContinuityOS.Library
