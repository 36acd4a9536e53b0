import ContinuityOS.Assurance.Evaluation

/-! # Completeness of the assurance scorecard

Every dimension passes exactly when its requirement is met. Two requirements have no
dimension, so the scorecard is complete exactly when they make no difference.
-/
namespace ContinuityOS.Assurance
open Library

section Specification
variable (policy : AssurancePolicySpec) (state : AssuranceObservedState)

/-- No observed amount is negative. -/
structure AssuranceObservedState.Nonneg : Prop where
  continuity : 0 ≤ state.continuityScore
  corridors : 0 ≤ state.availableCorridors
  ports : 0 ≤ state.availablePorts
  comm : 0 ≤ state.independentCommProviders
  nav : 0 ≤ state.independentNavSources
  obs : 0 ≤ state.independentObsSources
  operational : 0 ≤ state.independentOperationalSources
  environmental : 0 ≤ state.independentEnvironmentalSources
  carriers : 0 ≤ state.carrierOptions
  reserve : 0 ≤ state.reserveDays
  cycles : 0 ≤ state.assuredReplenishmentCycles

/-- The requirements that have a dimension. -/
structure EvaluatedRequirementsMet : Prop where
  continuity : policy.continuityObjective.minimum.val ≤ state.continuityScore
  corridors : policy.tolerate.corridorLoss.val + 1 ≤ state.availableCorridors
  ports : policy.tolerate.portLoss.val + 1 ≤ state.availablePorts
  comm : policy.tolerate.communicationProviderLoss.val + 1 ≤ state.independentCommProviders
  nav : policy.tolerate.navigationSourceLoss.val + 1 ≤ state.independentNavSources
  operational : policy.evidence.minimumIndependentOperationalSources.val ≤
    state.independentOperationalSources
  environmental : policy.evidence.minimumIndependentEnvironmentalSources.val ≤
    state.independentEnvironmentalSources
  carriers : policy.commercial.minimumCarrierOptions.val ≤ state.carrierOptions
  insurance : policy.commercial.insuranceRequired = true → state.insuranceVerified = true
  reserve : (policy.inventory.minimumReserveDays.val : ℚ) ≤ state.reserveDays
  cycles : policy.inventory.minimumAssuredReplenishmentCycles.val ≤
    state.assuredReplenishmentCycles
  carrierReturn : policy.recovery.verifyCarrierReturn = true → state.carrierReturnVerified = true
  backlog : policy.recovery.verifyBacklogClearance = true → state.backlogClearanceVerified = true
  restoration : policy.recovery.verifyReserveRestoration = true →
    state.reserveRestorationVerified = true

/-- The requirements that no dimension reads. -/
structure UnreadRequirementsMet : Prop where
  obs : policy.tolerate.observationSourceLoss.val + 1 ≤ state.independentObsSources
  navigation : policy.evidence.minimumIndependentNavigationSources.val ≤
    state.independentNavSources

def RequirementsMet : Prop :=
  EvaluatedRequirementsMet policy state ∧ UnreadRequirementsMet policy state

end Specification

section Judges

/-- The dimensions are all valid, and all pass exactly when the requirement is met. -/
def Judges (l : List (Option AssuranceDimensionResult)) (requirement : Prop) : Prop :=
  ∃ results, l.mapM id = some results ∧
    ((∀ result ∈ results, result.passed = true) ↔ requirement)

theorem judges_nil : Judges [] True := ⟨[], rfl, by simp⟩

theorem judges_append {l l' : List (Option AssuranceDimensionResult)} {P Q : Prop}
    (h : Judges l P) (h' : Judges l' Q) : Judges (l ++ l') (P ∧ Q) := by
  obtain ⟨results, hl, hP⟩ := h
  obtain ⟨results', hl', hQ⟩ := h'
  refine ⟨results ++ results', ?_, ?_⟩
  · simp [hl, hl']
  · simp only [List.mem_append, or_imp, forall_and, hP, hQ]

theorem judges_cons {o : Option AssuranceDimensionResult}
    {l : List (Option AssuranceDimensionResult)} {P Q : Prop} (h : Judges [o] P)
    (h' : Judges l Q) : Judges (o :: l) (P ∧ Q) := judges_append h h'

theorem judges_ite {l : List (Option AssuranceDimensionResult)} {P : Prop} {c : Bool}
    (h : Judges l P) : Judges (if c then l else []) (c = true → P) := by
  cases c with
  | false => simpa using judges_nil
  | true => simpa using h

variable {dimension category : String}

theorem validScore_ratio (required : ℚ) {observed : ℚ} (h : 0 ≤ observed) :
    ∃ score, validScore (if 0 < required then min 1 (observed / required) else 1) = some score := by
  have hrange : 0 ≤ (if 0 < required then min 1 (observed / required) else 1) ∧
      (if 0 < required then min 1 (observed / required) else 1) ≤ 1 := by
    split_ifs with hpos
    · exact ⟨le_min zero_le_one (div_nonneg h hpos.le), min_le_left _ _⟩
    · exact ⟨zero_le_one, le_rfl⟩
  exact ⟨⟨_, hrange⟩, dif_pos hrange⟩

/-- An amount that is not negative is judged by its bound. -/
theorem judges_amount {required observed : ℚ} {requiredText observedText metText shortText : String}
    (h : 0 ≤ observed) :
    Judges [amountDimension dimension category required observed requiredText observedText
      metText shortText] (required ≤ observed) := by
  obtain ⟨score, hscore⟩ := validScore_ratio required h
  simp [Judges, amountDimension, hscore]

theorem judges_count {noun metText shortText : String} {required observed : ℤ}
    (h : 0 ≤ observed) :
    Judges [countDimension dimension category noun required observed metText shortText]
      (required ≤ observed) := by
  have hq : (0 : ℚ) ≤ observed := by exact_mod_cast h
  have hamount : Judges [amountDimension dimension category required observed
      (s!">= {required} " ++ noun) (toString observed) metText shortText]
      ((required : ℚ) ≤ observed) := judges_amount hq
  rwa [Int.cast_le] at hamount

theorem judges_verified {passed : Bool} {requiredText yesText noText metText shortText : String} :
    Judges [verifiedDimension dimension category passed requiredText yesText noText metText
      shortText] (passed = true) := by
  simp [Judges, verifiedDimension]

end Judges

section Results
variable (policy : AssurancePolicySpec) {state : AssuranceObservedState}

theorem judges_tolerance (h : state.Nonneg) :
    Judges [corridorRedundancy policy state, portRedundancy policy state,
        communicationTolerance policy state, navigationTolerance policy state]
      (policy.tolerate.corridorLoss.val + 1 ≤ state.availableCorridors ∧
        policy.tolerate.portLoss.val + 1 ≤ state.availablePorts ∧
        policy.tolerate.communicationProviderLoss.val + 1 ≤ state.independentCommProviders ∧
        policy.tolerate.navigationSourceLoss.val + 1 ≤ state.independentNavSources) := by
  apply judges_cons (judges_count h.corridors)
  apply judges_cons (judges_count h.ports)
  apply judges_cons (judges_count h.comm)
  exact judges_count h.nav

theorem judges_evidence (h : state.Nonneg) :
    Judges [operationalEvidenceSources policy state, environmentalEvidenceSources policy state,
        carrierOptions policy state]
      (policy.evidence.minimumIndependentOperationalSources.val ≤
          state.independentOperationalSources ∧
        policy.evidence.minimumIndependentEnvironmentalSources.val ≤
          state.independentEnvironmentalSources ∧
        policy.commercial.minimumCarrierOptions.val ≤ state.carrierOptions) := by
  apply judges_cons (judges_count h.operational)
  apply judges_cons (judges_count h.environmental)
  exact judges_count h.carriers

theorem judges_inventory (h : state.Nonneg) :
    Judges [inventoryReserveDays policy state, assuredReplenishmentCycles policy state]
      ((policy.inventory.minimumReserveDays.val : ℚ) ≤ state.reserveDays ∧
        policy.inventory.minimumAssuredReplenishmentCycles.val ≤
          state.assuredReplenishmentCycles) := by
  apply judges_cons (judges_amount h.reserve)
  exact judges_count h.cycles

theorem dimensions_judge (h : state.Nonneg) :
    Judges (dimensions policy state) (EvaluatedRequirementsMet policy state) := by
  have hobjective : Judges [continuityObjective policy state]
      (policy.continuityObjective.minimum.val ≤ state.continuityScore) :=
    judges_amount h.continuity
  have hinsurance : Judges [insuranceUnderwriting state] (state.insuranceVerified = true) :=
    judges_verified
  have hreturn : Judges [recoveryCarrierReturn state] (state.carrierReturnVerified = true) :=
    judges_verified
  have hbacklog : Judges [recoveryBacklogClearance state]
      (state.backlogClearanceVerified = true) := judges_verified
  have hrestoration : Judges [recoveryReserveRestoration state]
      (state.reserveRestorationVerified = true) := judges_verified
  have hamounts := judges_append hobjective <|
    judges_append (judges_tolerance policy h) (judges_evidence policy h)
  have hall := judges_append (judges_append (judges_append (judges_append (judges_append hamounts
    (judges_ite (c := policy.commercial.insuranceRequired) hinsurance))
    (judges_inventory policy h))
    (judges_ite (c := policy.recovery.verifyCarrierReturn) hreturn))
    (judges_ite (c := policy.recovery.verifyBacklogClearance) hbacklog))
    (judges_ite (c := policy.recovery.verifyReserveRestoration) hrestoration)
  obtain ⟨results, hresults, hpassed⟩ := hall
  refine ⟨results, hresults, hpassed.trans ⟨?_, ?_⟩⟩
  · rintro ⟨⟨⟨⟨⟨⟨h1, ⟨h2, h3, h4, h5⟩, h6, h7, h8⟩, h9⟩, h10, h11⟩, h12⟩, h13⟩, h14⟩
    exact ⟨h1, h2, h3, h4, h5, h6, h7, h8, h9, h10, h11, h12, h13, h14⟩
  · rintro ⟨h1, h2, h3, h4, h5, h6, h7, h8, h9, h10, h11, h12, h13, h14⟩
    exact ⟨⟨⟨⟨⟨⟨h1, ⟨h2, h3, h4, h5⟩, h6, h7, h8⟩, h9⟩, h10, h11⟩, h12⟩, h13⟩, h14⟩

/-- The mean of scores is a score. -/
theorem totalScore_mem (results : List AssuranceDimensionResult) :
    0 ≤ totalScore results ∧ totalScore results ≤ 1 := by
  have hsum : 0 ≤ (results.map fun result => result.score.val).sum ∧
      (results.map fun result => result.score.val).sum ≤ results.length := by
    induction results with
    | nil => simp
    | cons result results ih =>
      have h0 := result.score.nonneg
      have h1 := result.score.le_one
      simp only [List.map_cons, List.sum_cons, List.length_cons, Nat.cast_succ]
      constructor <;> linarith
  unfold totalScore
  split_ifs with hnil
  · exact ⟨le_rfl, zero_le_one⟩
  · exact ⟨div_nonneg hsum.1 (Nat.cast_nonneg _), div_le_one_of_le₀ hsum.2 (Nat.cast_nonneg _)⟩

theorem failedDimensions_eq_nil_iff (results : List AssuranceDimensionResult) :
    (failedDimensions results).length = 0 ↔ ∀ result ∈ results, result.passed = true := by
  simp [failedDimensions]

theorem evaluateAssurance_compliant_iff (h : state.Nonneg) (policyName : String) :
    ∃ card, evaluateAssurance policy state policyName = some card ∧
      (card.overallCompliant = true ↔ EvaluatedRequirementsMet policy state) := by
  obtain ⟨results, hresults, hpassed⟩ := dimensions_judge policy h
  have hrange : 0 ≤ roundDigits 4 (totalScore results) ∧ roundDigits 4 (totalScore results) ≤ 1 :=
    ⟨roundDigits_nonneg 4 (totalScore_mem results).1, roundDigits_le_one 4 (totalScore_mem results).2⟩
  have hscore : validScore (roundDigits 4 (totalScore results)) = some ⟨_, hrange⟩ := dif_pos hrange
  simp only [evaluateAssurance, hresults, hscore, Option.bind_eq_bind, Option.bind_some]
  refine ⟨_, rfl, ?_⟩
  rw [decide_eq_true_iff, failedDimensions_eq_nil_iff, hpassed]

/-- The scorecard is complete exactly when a requirement that has a dimension is unmet, or
the requirements without a dimension are met. -/
theorem evaluateAssurance_complete_iff (h : state.Nonneg) (policyName : String) :
    (∃ card, evaluateAssurance policy state policyName = some card ∧
      (card.overallCompliant = true ↔ RequirementsMet policy state)) ↔
    ¬ EvaluatedRequirementsMet policy state ∨ UnreadRequirementsMet policy state := by
  obtain ⟨card, hcard, hcompliant⟩ := evaluateAssurance_compliant_iff policy h policyName
  simp only [hcard, Option.some.injEq, exists_eq_left', hcompliant]
  constructor
  · intro hiff
    by_cases hmet : EvaluatedRequirementsMet policy state
    · exact Or.inr (hiff.mp hmet).2
    · exact Or.inl hmet
  · rintro hcondition
    constructor
    · intro hmet
      exact ⟨hmet, hcondition.resolve_left (not_not_intro hmet)⟩
    · exact And.left

end Results

/-- A state in which the last observation source is gone. -/
def unobservedState : AssuranceObservedState where
  independentObsSources := 0

theorem unobservedState_nonneg : unobservedState.Nonneg := by
  constructor <;> norm_num [unobservedState]

theorem unobservedState_met : EvaluatedRequirementsMet {} unobservedState := by
  constructor <;> norm_num [unobservedState]

theorem unobservedState_unread : ¬ UnreadRequirementsMet {} unobservedState := by
  intro h
  have hobs := h.obs
  norm_num [unobservedState] at hobs

/-- Without the source the scorecard is made, and it is not complete. -/
theorem evaluateAssurance_complete_iff_witness :
    ¬ ∃ card, evaluateAssurance {} unobservedState "assurance-policy" = some card ∧
      (card.overallCompliant = true ↔ RequirementsMet {} unobservedState) := by
  rw [evaluateAssurance_complete_iff {} unobservedState_nonneg "assurance-policy"]
  rintro (hmet | hunread)
  · exact hmet unobservedState_met
  · exact unobservedState_unread hunread

theorem evaluateAssurance_incomplete :
    ¬ ∀ (policy : AssurancePolicySpec) (state : AssuranceObservedState), state.Nonneg →
      ∀ policyName : String, ∃ card, evaluateAssurance policy state policyName = some card ∧
        (card.overallCompliant = true ↔ RequirementsMet policy state) := by
  intro h
  obtain ⟨card, hcard, hcompliant⟩ :=
    evaluateAssurance_compliant_iff {} unobservedState_nonneg "assurance-policy"
  obtain ⟨card', hcard', hrequired⟩ :=
    h {} unobservedState unobservedState_nonneg "assurance-policy"
  obtain rfl : card = card' := Option.some.inj (hcard.symm.trans hcard')
  exact unobservedState_unread (hrequired.mp (hcompliant.mpr unobservedState_met)).2

end ContinuityOS.Assurance
