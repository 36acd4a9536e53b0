import ContinuityOS.Compiler.Optimality

/-! # Mitigations never increase the projected risk

Every reduction leaves a share of the risk that lies in the unit interval. The
share passes through the weighted mean, the cap at one and the global gains.
-/
namespace ContinuityOS.Compiler
open Library

/-- What is left of a risk: a share of it. -/
def IsShare (q : ℚ) : Prop := 0 ≤ q ∧ q ≤ 1

theorem isShare_one : IsShare 1 := ⟨zero_le_one, le_rfl⟩

theorem IsShare.mul {p q : ℚ} (hp : IsShare p) (hq : IsShare q) : IsShare (p * q) :=
  ⟨mul_nonneg hp.1 hq.1, mul_le_one₀ hp.2 hq.1 hq.2⟩

theorem isShare_prod {l : List ℚ} (h : ∀ q ∈ l, IsShare q) : IsShare l.prod :=
  List.prod_induction IsShare (fun _ _ hp hq => hp.mul hq) isShare_one h

theorem isShare_remaining (reduction : Score) : IsShare (remaining reduction) := by
  have hle : min (95 / 100) reduction.val ≤ 1 := (min_le_right _ _).trans reduction.le_one
  have hnonneg : 0 ≤ min (95 / 100) reduction.val := le_min (by norm_num) reduction.nonneg
  exact ⟨sub_nonneg.mpr hle, sub_le_self _ hnonneg⟩

theorem isShare_factorRemaining (f : CorridorFactor) (action : MitigationAction) :
    IsShare (factorRemaining f action) := by
  refine isShare_prod ?_
  intro q hq
  obtain ⟨r, -, rfl⟩ := List.mem_map.mp hq
  split_ifs
  · exact isShare_remaining r.2
  · exact isShare_one

theorem isShare_gainRemaining (action : MitigationAction) : IsShare (gainRemaining action) := by
  unfold gainRemaining
  split_ifs
  · exact isShare_remaining action.continuityGain
  · exact isShare_one

theorem isShare_prod_map {share : MitigationAction → ℚ} (h : ∀ action, IsShare (share action))
    (S : List MitigationAction) : IsShare (S.map share).prod :=
  isShare_prod (List.forall_mem_map.mpr fun action _ => h action)

section Factors

theorem factorRisks_getD_nonneg (factors : List FactorAssessment) (f : CorridorFactor) :
    0 ≤ (factorRisks factors).getD f 0 := by
  unfold factorRisks
  refine List.foldlRecOn (motive := fun d : Dict CorridorFactor ℚ => 0 ≤ d.getD f 0) factors _
    (by simp [Dict.getD]) ?_
  intro d hd a _
  rw [Dict.getD_set]
  split_ifs
  · exact a.risk.nonneg
  · exact hd

theorem weightUsed_nonneg (d : Dict CorridorFactor ℚ) : 0 ≤ weightUsed d :=
  List.sum_nonneg (List.forall_mem_map.mpr fun f _ => (factorWeight_pos f).le)

variable (d : Dict CorridorFactor ℚ) (hd : ∀ f, 0 ≤ d.getD f 0)
include hd

theorem foldl_applyReductions_nonneg (S : List MitigationAction) (f : CorridorFactor) :
    0 ≤ (S.foldl applyReductions d).getD f 0 := by
  rw [(foldl_applyReductions S d).2]
  exact mul_nonneg (hd f) (isShare_prod_map (isShare_factorRemaining f) S).1

theorem weightedSum_nonneg : 0 ≤ weightedSum d :=
  List.sum_nonneg (List.forall_mem_map.mpr fun f _ => mul_nonneg (hd f) (factorWeight_pos f).le)

/-- The reductions of one more action lower every factor, hence their sum. -/
theorem weightedSum_append_le (S : List MitigationAction) (action : MitigationAction) :
    weightedSum ((S ++ [action]).foldl applyReductions d) ≤
      weightedSum (S.foldl applyReductions d) := by
  have hnonneg := foldl_applyReductions_nonneg d hd S
  obtain ⟨hkeys, hget⟩ := foldl_applyReductions [action] (S.foldl applyReductions d)
  unfold weightedSum
  rw [List.foldl_append, hkeys]
  refine List.sum_le_sum fun f _ => mul_le_mul_of_nonneg_right ?_ (factorWeight_pos f).le
  rw [hget, List.map_singleton, List.prod_singleton]
  exact mul_le_of_le_one_right (hnonneg f) (isShare_factorRemaining f action).2

end Factors

section Projection
variable (assessment : CorridorAssessment)

theorem projectFactors_nonneg (S : List MitigationAction) : 0 ≤ projectFactors assessment S := by
  simp only [projectFactors]
  split_ifs
  · exact assessment.overallRisk.nonneg
  · refine le_min zero_le_one (add_nonneg (div_nonneg ?_ (weightUsed_nonneg _)) (le_max_left _ _))
    exact weightedSum_nonneg _
      (foldl_applyReductions_nonneg _ (factorRisks_getD_nonneg assessment.factors) S)

theorem projectFactors_append_le (S : List MitigationAction) (action : MitigationAction) :
    projectFactors assessment (S ++ [action]) ≤ projectFactors assessment S := by
  simp only [projectFactors]
  split_ifs
  · exact le_rfl
  · -- the penalty is that of the unmitigated factors, so only the weighted mean moves
    refine min_le_min_left _ (add_le_add_left (div_le_div_of_nonneg_right ?_ (weightUsed_nonneg _)) _)
    exact weightedSum_append_le _ (factorRisks_getD_nonneg assessment.factors) S action

theorem clamp_mono {p q : ℚ} (h : p ≤ q) : (Score.clamp p).val ≤ (Score.clamp q).val :=
  max_le_max_left _ (min_le_min_left _ h)

/-- One more action, appended last. -/
theorem projectRisk_append_le (S : List MitigationAction) (action : MitigationAction) :
    (projectRisk assessment (S ++ [action])).val ≤ (projectRisk assessment S).val := by
  have hgain := isShare_gainRemaining action
  have hgains := isShare_prod_map isShare_gainRemaining S
  refine clamp_mono ?_
  rw [foldl_applyGain, foldl_applyGain, List.map_append, List.prod_append, List.map_singleton,
    List.prod_singleton]
  calc
    projectFactors assessment (S ++ [action]) * ((S.map gainRemaining).prod * gainRemaining action)
        ≤ projectFactors assessment S * ((S.map gainRemaining).prod * gainRemaining action) :=
      mul_le_mul_of_nonneg_right (projectFactors_append_le assessment S action)
        (mul_nonneg hgains.1 hgain.1)
    _ ≤ projectFactors assessment S * (S.map gainRemaining).prod :=
      mul_le_mul_of_nonneg_left (mul_le_of_le_one_right hgains.1 hgain.2)
        (projectFactors_nonneg assessment S)

/-- Any set of actions, from the last one down to none. -/
theorem projectRisk_le_nil (S : List MitigationAction) :
    (projectRisk assessment S).val ≤ (projectRisk assessment []).val := by
  induction S using List.reverseRecOn with
  | nil => exact le_rfl
  | append_singleton S action ih => exact (projectRisk_append_le assessment S action).trans ih

end Projection

/-- A compiled plan reports the projected risk of the actions it selects. -/
theorem compile_projectedRisk {maxActions : ℕ} {request : CompileRequest} {plan : CompiledPlan}
    (h : compile maxActions request = .ok plan) :
    plan.projectedRisk = (projectRisk request.assessment plan.selectedActions).rounded 6 := by
  obtain ⟨S, -, -, hbest, -⟩ := selectBest_spec request
  rw [compile, hbest] at h
  split_ifs at h
  obtain rfl := Except.ok.inj h
  rfl

/-- The projection is a score, it does not depend on the order of the actions, a
further action never raises it, and no plan projects more than taking no action. -/
theorem mitigations_never_increase_risk (request : CompileRequest) :
    (∀ S, 0 ≤ (projectRisk request.assessment S).val ∧
        (projectRisk request.assessment S).val ≤ 1) ∧
      (∀ S T : List MitigationAction, S.Perm T →
        projectRisk request.assessment S = projectRisk request.assessment T) ∧
      (∀ S action, (projectRisk request.assessment (S ++ [action])).val ≤
        (projectRisk request.assessment S).val) ∧
      ∀ maxActions plan, compile maxActions request = .ok plan →
        (projectRisk request.assessment plan.selectedActions).val ≤
          (projectRisk request.assessment []).val ∧
        plan.projectedRisk.val ≤ ((projectRisk request.assessment []).rounded 6).val := by
  refine ⟨fun S => (projectRisk request.assessment S).property,
    fun S T h => projectRisk_perm h request.assessment,
    projectRisk_append_le request.assessment, ?_⟩
  intro maxActions plan hplan
  have hle := projectRisk_le_nil request.assessment plan.selectedActions
  refine ⟨hle, ?_⟩
  rw [compile_projectedRisk hplan]
  exact roundDigits_mono 6 hle

end ContinuityOS.Compiler
