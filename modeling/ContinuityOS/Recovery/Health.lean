import ContinuityOS.Recovery.Model

/-! # Reopened is not recovered

The milestones follow each other, and the network is healthy once the last is reached.
Ten of the eleven reported factors delay a milestone; the restoration of communications
delays none.
-/
namespace ContinuityOS.Recovery
open Library

/-- The last milestone whose day is reached, with the phase it sets. -/
def IsLastReached (milestones : List RecoveryMilestone) (days : ℤ) (phase : RecoveryPhase) : Prop :=
  ∃ before m after, milestones = before ++ m :: after ∧ m.phase = phase ∧
    (m.estimatedDays : ℤ) ≤ days ∧ ∀ m' ∈ after, days < m'.estimatedDays

/-- What a timeline promises about health on a day. -/
structure SoundTimeline (t : RecoveryTimeline) (days : ℤ) : Prop where
  phases : t.milestones.map RecoveryMilestone.phase = RecoveryPhase.all
  ordered : t.milestones.Pairwise fun a b => a.estimatedDays ≤ b.estimatedDays
  current : IsLastReached t.milestones days t.currentPhase
  exclusive : ¬ (t.isHealthy = true ∧ t.reopenedButNotHealthy = true)
  settled : t.isHealthy = true → ∀ factor ∈ t.independentFactors.entries, (factor.2 : ℤ) ≤ days

section Phases
variable {days : ℤ}

theorem currentPhaseOf_concat (milestones : List RecoveryMilestone) (m : RecoveryMilestone) :
    currentPhaseOf days (milestones ++ [m]) =
      if (m.estimatedDays : ℤ) ≤ days then m.phase else currentPhaseOf days milestones := by
  rw [currentPhaseOf, List.foldl_append]
  rfl

/-- The loop ends with the last milestone reached, when one is reached. -/
theorem currentPhaseOf_spec {milestones : List RecoveryMilestone}
    (h : ∃ m ∈ milestones, (m.estimatedDays : ℤ) ≤ days) :
    IsLastReached milestones days (currentPhaseOf days milestones) := by
  induction milestones using List.reverseRecOn with
  | nil => simp at h
  | append_singleton milestones m ih =>
    rw [currentPhaseOf_concat]
    split_ifs with hreached
    · exact ⟨milestones, m, [], rfl, rfl, hreached, List.forall_mem_nil _⟩
    · obtain ⟨m', hmem, hm'⟩ := h
      have hbefore : m' ∈ milestones := by
        rcases List.mem_append.mp hmem with hmem | hmem
        · exact hmem
        · rw [List.mem_singleton.mp hmem] at hm'
          exact absurd hm' hreached
      obtain ⟨before, m₀, after, rfl, hphase, hm₀, hafter⟩ := ih ⟨m', hbefore, hm'⟩
      refine ⟨before, m₀, after ++ [m], by simp, hphase, hm₀, ?_⟩
      rw [List.forall_mem_append, List.forall_mem_singleton]
      exact ⟨hafter, not_le.mp hreached⟩

end Phases

section Profile
variable (profile : RecoveryProfile)

theorem days_ordered : t1Days profile ≤ t2Days profile ∧ t2Days profile ≤ t3Days profile ∧
    t3Days profile ≤ t4Days profile ∧ t4Days profile ≤ t5Days profile :=
  ⟨Nat.le_add_right _ _, Nat.le_add_right _ _, Nat.le_add_right _ _, Nat.le_add_right _ _⟩

theorem milestonesOf_ordered :
    (milestonesOf profile).Pairwise fun a b => a.estimatedDays ≤ b.estimatedDays := by
  obtain ⟨h12, h23, h34, h45⟩ := days_ordered profile
  simp [milestonesOf]
  omega

theorem factorList_keys : ((factorList profile).map Prod.fst).Nodup := by
  change List.Nodup ["physical_reopening_days", "communications_restoration_days",
    "insurance_normalization_days", "carrier_return_days", "port_backlog_days",
    "vessel_repositioning_days", "crew_availability_days", "supplier_restart_days",
    "warehouse_recovery_days", "inventory_replenishment_days", "production_restart_days"]
  decide

/-- Every factor but the restoration of communications is part of the chain. -/
theorem factor_le_t5Days {factor : String × ℕ} (h : factor ∈ factorList profile) :
    factor.2 ≤ t5Days profile ∨ factor.2 = profile.communicationsRestorationDays.val := by
  obtain ⟨h12, h23, h34, h45⟩ := days_ordered profile
  have hreopening : profile.physicalReopeningDays.val ≤ t1Days profile := le_rfl
  have hcommercial : max profile.insuranceNormalizationDays.val profile.carrierReturnDays.val ≤
      t2Days profile := Nat.le_add_left _ _
  have hlogistics : max (max (max profile.vesselRepositioningDays.val profile.portBacklogDays.val)
      profile.crewAvailabilityDays.val) profile.equipmentAvailabilityDays.val ≤ t3Days profile :=
    Nat.le_add_left _ _
  have hinventory : max (max (max profile.inventoryReplenishmentDays.val
      profile.warehouseRecoveryDays.val) profile.supplierRestartDays.val)
      profile.productionRestartDays.val ≤ t4Days profile := Nat.le_add_left _ _
  rw [max_le_iff] at hcommercial
  rw [max_le_iff, max_le_iff, max_le_iff] at hlogistics hinventory
  simp only [factorList, List.mem_cons, List.not_mem_nil, or_false] at h
  rcases h with rfl | rfl | rfl | rfl | rfl | rfl | rfl | rfl | rfl | rfl | rfl
  case inr.inl => exact Or.inr rfl
  all_goals
    left
    omega

variable {profile} {days : ℤ}

/-- The last phase is reached exactly on the last day. -/
theorem isHealthyOf_iff : isHealthyOf profile days = true ↔ (t5Days profile : ℤ) ≤ days := by
  rw [isHealthyOf, decide_eq_true_eq]
  refine ⟨fun h => ?_, Or.inr⟩
  rcases h with hphase | hdays
  · have hspec : (t5Days profile : ℤ) ≤ days ∨
        currentPhaseOf days ((milestonesOf profile).dropLast) = .fullRestoration := by
      rw [← List.dropLast_append_getLast (l := milestonesOf profile) (by simp [milestonesOf]),
        currentPhaseOf_concat] at hphase
      split_ifs at hphase with hreached
      · exact Or.inl hreached
      · exact Or.inr hphase
    refine hspec.resolve_right ?_
    simp only [milestonesOf, List.dropLast, currentPhaseOf, List.foldl]
    split_ifs <;> decide
  · exact hdays

theorem progressOf_mem (h : 0 ≤ days) (totalDays : ℕ) :
    0 ≤ roundDigits 6 (progressOf totalDays days) ∧
      roundDigits 6 (progressOf totalDays days) ≤ 1 := by
  have hdays : (0 : ℚ) ≤ days := by exact_mod_cast h
  unfold progressOf
  split_ifs
  · exact ⟨roundDigits_nonneg 6 (le_min zero_le_one (by positivity)),
      roundDigits_le_one 6 (min_le_left _ _)⟩
  · exact ⟨roundDigits_nonneg 6 le_rfl, roundDigits_le_one 6 zero_le_one⟩

/-- All that can go wrong is a healthy network without communications. -/
theorem soundTimeline_iff (timelineId : String) (progress : Score) (h : 0 ≤ days) :
    SoundTimeline (timelineOf timelineId profile days progress) days ↔
      (isHealthyOf profile days = true → (profile.communicationsRestorationDays.val : ℤ) ≤ days) := by
  have hfactors : (timelineOf timelineId profile days progress).independentFactors.entries =
      factorList profile :=
    Dict.entries_ofBindings (factorList_keys profile)
  constructor
  · intro hsound hhealthy
    refine hsound.settled hhealthy ("communications_restoration_days", _) ?_
    rw [hfactors]
    exact List.mem_cons_of_mem _ List.mem_cons_self
  · intro hcommunications
    refine ⟨rfl, milestonesOf_ordered profile, ?_, ?_, ?_⟩
    · -- the incident itself is always reached
      exact currentPhaseOf_spec ⟨_, List.mem_cons_self, by exact_mod_cast h⟩
    · simp +contextual [timelineOf]
    · intro hhealthy factor hfactor
      have hlast := isHealthyOf_iff.mp hhealthy
      rw [hfactors] at hfactor
      rcases factor_le_t5Days profile hfactor with hle | heq
      · exact le_trans (by exact_mod_cast hle) hlast
      · rw [heq]
        exact hcommunications hhealthy

end Profile

/-- A timeline is sound exactly when the chain of the other lags has not passed yet or
the restoration of communications has. -/
theorem modelRecovery_sound_iff (timelineId : String) (profile : RecoveryProfile) (days : ℤ)
    (h : 0 ≤ days) :
    ∃ t, modelRecovery timelineId profile days = .ok t ∧
      (SoundTimeline t days ↔
        days < profile.physicalReopeningDays.val +
            max profile.insuranceNormalizationDays.val profile.carrierReturnDays.val +
            max (max (max profile.vesselRepositioningDays.val profile.portBacklogDays.val)
              profile.crewAvailabilityDays.val) profile.equipmentAvailabilityDays.val +
            max (max (max profile.inventoryReplenishmentDays.val
              profile.warehouseRecoveryDays.val) profile.supplierRestartDays.val)
              profile.productionRestartDays.val + 7 ∨
          profile.communicationsRestorationDays.val ≤ days) := by
  refine ⟨_, by rw [modelRecovery, dif_pos (progressOf_mem h (t5Days profile))], ?_⟩
  rw [soundTimeline_iff timelineId _ h, isHealthyOf_iff, imp_iff_not_or, not_le]
  simp only [t5Days, t4Days, t3Days, t2Days, t1Days, Nat.cast_add, Nat.cast_ofNat]

theorem no_lag : 0 ≤ 365 := by decide

def blackoutProfile : RecoveryProfile where
  resourceRef := "corridor"
  incidentDescription := "teleport destroyed"
  physicalReopeningDays := ⟨0, no_lag⟩
  communicationsRestorationDays := ⟨365, by decide⟩
  portBacklogDays := ⟨0, no_lag⟩
  vesselRepositioningDays := ⟨0, no_lag⟩
  crewAvailabilityDays := ⟨0, no_lag⟩
  carrierReturnDays := ⟨0, no_lag⟩
  insuranceNormalizationDays := ⟨0, no_lag⟩
  supplierRestartDays := ⟨0, no_lag⟩
  inventoryReplenishmentDays := ⟨0, no_lag⟩
  equipmentAvailabilityDays := ⟨0, no_lag⟩
  warehouseRecoveryDays := ⟨0, no_lag⟩
  productionRestartDays := ⟨0, no_lag⟩
  resource_length := by decide
  incident_length := by decide

theorem modelRecovery_sound_blackout :
    ∃ t, modelRecovery "timeline" blackoutProfile 365 = .ok t ∧ SoundTimeline t 365 := by
  obtain ⟨t, ht, hsound⟩ := modelRecovery_sound_iff "timeline" blackoutProfile 365 (by decide)
  exact ⟨t, ht, hsound.mpr (Or.inr (by decide))⟩

/-- After a week the network is healthy while communications stay out for a year. -/
theorem modelRecovery_not_sound :
    ¬ ∀ (timelineId : String) (profile : RecoveryProfile) (days : ℤ), 0 ≤ days →
      ∃ t, modelRecovery timelineId profile days = .ok t ∧ SoundTimeline t days := by
  intro h
  obtain ⟨t, ht, hsound⟩ := h "timeline" blackoutProfile 7 (by decide)
  rw [modelRecovery, dif_pos (progressOf_mem (by decide) _)] at ht
  obtain rfl := Except.ok.inj ht
  rw [soundTimeline_iff _ _ (by decide), isHealthyOf_iff] at hsound
  exact absurd (hsound (by decide)) (by decide)

end ContinuityOS.Recovery
