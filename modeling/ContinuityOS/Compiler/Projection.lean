import ContinuityOS.Compiler.Model

/-! # The projected risk depends on the chosen actions only

Reductions multiply, so the projection is the same for every order in which the
actions of a set are applied.
-/
namespace ContinuityOS.Compiler
open Library

/-- What an action leaves of the risk of one factor. -/
def factorRemaining (f : CorridorFactor) (action : MitigationAction) : ℚ :=
  (action.riskReductions.entries.map fun r => if r.1 = f then remaining r.2 else 1).prod

def gainRemaining (action : MitigationAction) : ℚ :=
  if action.riskReductions.entries = [] then remaining action.continuityGain else 1

theorem reduceFactor_keys (d : Dict CorridorFactor ℚ) (r : CorridorFactor × Score) :
    (reduceFactor d r).keys = d.keys := by
  unfold reduceFactor
  cases hget : d.get? r.1 with
  | none => rfl
  | some risk =>
    have hmem : r.1 ∈ d.keys := by simp [Dict.mem_keys, hget]
    simp [Dict.keys_set, hmem]

theorem reduceFactor_getD (d : Dict CorridorFactor ℚ) (r : CorridorFactor × Score)
    (f : CorridorFactor) :
    (reduceFactor d r).getD f 0 = d.getD f 0 * if r.1 = f then remaining r.2 else 1 := by
  unfold reduceFactor
  cases hget : d.get? r.1 with
  | none =>
    by_cases hf : r.1 = f
    · subst hf
      simp [Dict.getD, hget]
    · simp [hf]
  | some risk =>
    simp only [Dict.getD_set]
    by_cases hf : r.1 = f
    · subst hf
      simp [Dict.getD_of_get? d hget]
    · simp [hf]

theorem foldl_reduceFactor (l : List (CorridorFactor × Score)) (d : Dict CorridorFactor ℚ) :
    (l.foldl reduceFactor d).keys = d.keys ∧
      ∀ f, (l.foldl reduceFactor d).getD f 0 =
        d.getD f 0 * (l.map fun r => if r.1 = f then remaining r.2 else 1).prod := by
  induction l generalizing d with
  | nil => simp
  | cons r l ih =>
    obtain ⟨hkeys, hget⟩ := ih (reduceFactor d r)
    refine ⟨by rw [List.foldl_cons, hkeys, reduceFactor_keys], fun f => ?_⟩
    rw [List.foldl_cons, hget, reduceFactor_getD, List.map_cons, List.prod_cons, mul_assoc]

theorem foldl_applyReductions (subset : List MitigationAction) (d : Dict CorridorFactor ℚ) :
    (subset.foldl applyReductions d).keys = d.keys ∧
      ∀ f, (subset.foldl applyReductions d).getD f 0 =
        d.getD f 0 * (subset.map (factorRemaining f)).prod := by
  induction subset generalizing d with
  | nil => simp
  | cons action subset ih =>
    obtain ⟨hkeys, hget⟩ := ih (applyReductions d action)
    obtain ⟨hkeys', hget'⟩ := foldl_reduceFactor action.riskReductions.entries d
    refine ⟨hkeys.trans hkeys', fun f => ?_⟩
    calc
      _ = (applyReductions d action).getD f 0 * (subset.map (factorRemaining f)).prod := hget f
      _ = d.getD f 0 * factorRemaining f action * (subset.map (factorRemaining f)).prod := by
        rw [applyReductions, hget', factorRemaining]
      _ = _ := by rw [List.map_cons, List.prod_cons, mul_assoc]

theorem foldl_applyGain (subset : List MitigationAction) (risk : ℚ) :
    subset.foldl applyGain risk = risk * (subset.map gainRemaining).prod := by
  induction subset generalizing risk with
  | nil => simp
  | cons action subset ih =>
    rw [List.foldl_cons, ih, List.map_cons, List.prod_cons, ← mul_assoc]
    unfold applyGain gainRemaining
    split_ifs <;> simp

section Permutations
variable {s t : List MitigationAction}

theorem weightedSum_perm (h : s.Perm t) (d : Dict CorridorFactor ℚ) :
    weightedSum (s.foldl applyReductions d) = weightedSum (t.foldl applyReductions d) := by
  obtain ⟨hkeys, hget⟩ := foldl_applyReductions s d
  obtain ⟨hkeys', hget'⟩ := foldl_applyReductions t d
  unfold weightedSum
  rw [hkeys, hkeys']
  congr 2
  funext f
  rw [hget, hget', (h.map (factorRemaining f)).prod_eq]

theorem projectRisk_perm (h : s.Perm t) (assessment : CorridorAssessment) :
    projectRisk assessment s = projectRisk assessment t := by
  have hfactors : projectFactors assessment s = projectFactors assessment t := by
    simp only [projectFactors, weightedSum_perm h]
  unfold projectRisk
  rw [foldl_applyGain, foldl_applyGain, hfactors, (h.map gainRemaining).prod_eq]

theorem totalCost_perm (h : s.Perm t) : totalCost s = totalCost t :=
  (h.map MitigationAction.cost).sum_eq

theorem idSet_perm (h : s.Perm t) : idSet s = idSet t := by
  ext id
  simp [idSet, h.mem_iff]

end Permutations

end ContinuityOS.Compiler
