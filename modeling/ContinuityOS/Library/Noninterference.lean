import Mathlib.Tactic.Basic

/-! # Noninterference

A step system in which foreign inputs are invisible to an agreement of states, and own inputs
keep it. Deleting foreign inputs from a run then ends in agreeing states.
-/
namespace ContinuityOS.Library.Noninterference

universe u v
variable {σ : Type u} {ι : Type v}

/-- The second list is the first without some of its foreign inputs. -/
inductive Deleted (own : ι → Prop) : List ι → List ι → Prop where
  | nil : Deleted own [] []
  | keep (i : ι) {l m : List ι} (h : Deleted own l m) : Deleted own (i :: l) (i :: m)
  | delete {i : ι} {l m : List ι} (hi : ¬ own i) (h : Deleted own l m) : Deleted own (i :: l) m

/-- What single steps do to the agreement, for admissible inputs. -/
structure Unwinds (step : σ → ι → σ) (own admissible : ι → Prop) (agree : σ → σ → Prop) : Prop where
  symm : ∀ s t, agree s t → agree t s
  ownStep : ∀ s t i, admissible i → own i → agree s t → agree (step s i) (step t i)
  foreignStep : ∀ s t i, admissible i → ¬ own i → agree s t → agree (step s i) t

variable {step : σ → ι → σ} {own admissible : ι → Prop} {agree : σ → σ → Prop} {l m : List ι}

theorem Unwinds.step_both (h : Unwinds step own admissible agree) {i : ι} (hi : admissible i)
    {s t : σ} (hst : agree s t) : agree (step s i) (step t i) := by
  by_cases hown : own i
  · exact h.ownStep s t i hi hown hst
  · have hleft : agree (step s i) t := h.foreignStep s t i hi hown hst
    exact h.symm _ _ (h.foreignStep t _ i hi hown (h.symm _ _ hleft))

/-- Runs that differ in deleted foreign inputs end in agreeing states. -/
theorem Unwinds.run (h : Unwinds step own admissible agree) (hdeleted : Deleted own l m)
    (hl : ∀ i ∈ l, admissible i) {s t : σ} (hst : agree s t) :
    agree (l.foldl step s) (m.foldl step t) := by
  induction hdeleted generalizing s t with
  | nil => exact hst
  | keep i _ ih =>
    rw [List.forall_mem_cons] at hl
    exact ih hl.2 (h.step_both hl.1 hst)
  | delete hi _ ih =>
    rw [List.forall_mem_cons] at hl
    exact ih hl.2 (h.foreignStep s t _ hl.1 hi hst)

end ContinuityOS.Library.Noninterference
