import Mathlib.Data.List.Pairwise
import Mathlib.Order.Basic
import Mathlib.Tactic

/-! # High-water marks

A system that accepts a value only above its mark, and then raises the mark to it, accepts
strictly increasing values, whatever else it does in between as long as the mark never falls.
-/
namespace ContinuityOS.Library.HighWater

universe u v w
variable {σ : Type u} {ε : Type v} {α : Type w} [LinearOrder α]
variable (step : σ → ε → σ) (accepted : σ → ε → Option α)

/-- The values accepted along a run, in order. -/
def acceptedValues : σ → List ε → List α
  | _, [] => []
  | s, e :: es => (accepted s e).toList ++ acceptedValues (step s e) es

variable {step accepted} {mark : σ → Option α} {admissible : ε → Prop}

/-- What a step does to the mark: an accepted value exceeds it and replaces it, any other
step leaves it no lower. -/
structure Guarded (step : σ → ε → σ) (accepted : σ → ε → Option α) (mark : σ → Option α)
    (admissible : ε → Prop) : Prop where
  above : ∀ s e a, admissible e → accepted s e = some a → ∀ m ∈ mark s, m < a
  raised : ∀ s e a, admissible e → accepted s e = some a → mark (step s e) = some a
  kept : ∀ s e, admissible e → accepted s e = none →
    ∀ m ∈ mark s, ∃ m' ∈ mark (step s e), m ≤ m'

theorem acceptedValues_above (h : Guarded step accepted mark admissible) {es : List ε}
    (hes : ∀ e ∈ es, admissible e) (s : σ) :
    ∀ m ∈ mark s, ∀ a ∈ acceptedValues step accepted s es, m < a := by
  induction es generalizing s with
  | nil =>
    intro m _ a ha
    cases ha
  | cons e es ih =>
    rw [List.forall_mem_cons] at hes
    intro m hm a ha
    rw [acceptedValues, List.mem_append] at ha
    cases hacc : accepted s e with
    | none =>
      obtain ⟨m', hm', hle⟩ := h.kept s e hes.1 hacc m hm
      rcases ha with ha | ha
      · simp [hacc] at ha
      · exact hle.trans_lt (ih hes.2 _ m' hm' a ha)
    | some b =>
      have hmb : m < b := h.above s e b hes.1 hacc m hm
      rcases ha with ha | ha
      · rw [hacc, Option.toList_some, List.mem_singleton] at ha
        exact ha ▸ hmb
      · exact hmb.trans (ih hes.2 _ b (h.raised s e b hes.1 hacc) a ha)

/-- The accepted values increase strictly. -/
theorem acceptedValues_pairwise (h : Guarded step accepted mark admissible) {es : List ε}
    (hes : ∀ e ∈ es, admissible e) (s : σ) :
    (acceptedValues step accepted s es).Pairwise (· < ·) := by
  induction es generalizing s with
  | nil => exact List.Pairwise.nil
  | cons e es ih =>
    rw [List.forall_mem_cons] at hes
    rw [acceptedValues]
    cases hacc : accepted s e with
    | none => exact ih hes.2 _
    | some b =>
      apply List.Pairwise.cons
      · exact acceptedValues_above h hes.2 _ b (h.raised s e b hes.1 hacc)
      · exact ih hes.2 _

end ContinuityOS.Library.HighWater
