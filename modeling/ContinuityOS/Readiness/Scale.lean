import ContinuityOS.Readiness.Engine

/-! # The published readiness scale

The code rates a theatre not capable below seven days of reserve, where the scale says
ten, and knows no corridor state but the closed and the restricted ones that keeps a
theatre from the best rating.
-/
namespace ContinuityOS.Readiness
open Library Reconcile

/-- The first and the last row of the scale. -/
structure FollowsScale (rating : CLevelRating) (overallContinuity inventoryReserveDays : ℚ)
    (corridorState : CorridorState) (reconciliationResult : Option ReconciliationResult) : Prop where
  notCapable : rating = .notMissionCapable ↔ overallContinuity < 65 / 100 ∨
    inventoryReserveDays < 10 ∨ corridorState = .physicallyClosed ∨
    corridorState = .functionallyClosed
  fullyCapable : rating = .fullyMissionCapable → 95 / 100 ≤ overallContinuity ∧
    30 ≤ inventoryReserveDays ∧
    (∀ result ∈ reconciliationResult, result.overallStatus ≠ .fail) ∧ corridorState = .opened

/-- States short of open that score more than one half. -/
def uncheckedStates : List CorridorState :=
  [.openDegraded, .openCapacityConstrained, .openButServiceDependent, .recoveryBacklogged, .unknown]

section Score
variable (state : CorridorState)

theorem corridorScore_eq_zero_iff :
    (corridorScore state).val = 0 ↔ state = .physicallyClosed ∨ state = .functionallyClosed := by
  cases state <;> simp [corridorScore, closedStates, restrictedStates, constrainedStates,
    Score.half, Score.one]

theorem half_lt_corridorScore_iff :
    1 / 2 < (corridorScore state).val ↔ state = .opened ∨ state ∈ uncheckedStates := by
  cases state <;> simp [corridorScore, closedStates, restrictedStates, constrainedStates,
    uncheckedStates, Score.half, Score.one] <;> norm_num

end Score

theorem isFailed_eq_false_iff (reconciliationResult : Option ReconciliationResult) :
    isFailed reconciliationResult = false ↔
      ∀ result ∈ reconciliationResult, result.overallStatus ≠ .fail := by
  cases reconciliationResult <;> simp [isFailed]

section Rating
variable (overallContinuity inventoryReserveDays : ℚ) (corridorState : CorridorState)
  (reconciliationResult : Option ReconciliationResult)

theorem cRating_eq_notCapable_iff :
    cRating overallContinuity inventoryReserveDays corridorState reconciliationResult =
        .notMissionCapable ↔
      (corridorState = .physicallyClosed ∨ corridorState = .functionallyClosed) ∨
        inventoryReserveDays < 7 ∨ overallContinuity < 65 / 100 := by
  rw [← corridorScore_eq_zero_iff]
  unfold cRating
  split_ifs with h4
  · exact iff_of_true rfl h4
  all_goals exact iff_of_false (by decide) h4

theorem cRating_eq_fullyCapable_iff :
    cRating overallContinuity inventoryReserveDays corridorState reconciliationResult =
        .fullyMissionCapable ↔
      95 / 100 ≤ overallContinuity ∧ 30 ≤ inventoryReserveDays ∧
        isFailed reconciliationResult = false ∧
        (corridorState = .opened ∨ corridorState ∈ uncheckedStates) := by
  rw [← half_lt_corridorScore_iff]
  unfold cRating
  split_ifs with h4 h3 h2
  · refine iff_of_false (by decide) ?_
    rintro ⟨hcontinuity, hdays, -, hscore⟩
    rcases h4 with h | h | h <;> linarith
  · refine iff_of_false (by decide) ?_
    rintro ⟨hcontinuity, hdays, hfail, hscore⟩
    rcases h3 with h | h | h | h
    · linarith
    · linarith
    · linarith
    · exact absurd h (by simp [hfail])
  · refine iff_of_false (by decide) ?_
    rintro ⟨hcontinuity, hdays, -, -⟩
    rcases h2 with h | h <;> linarith
  · push Not at h3 h2
    exact iff_of_true rfl ⟨h2.2, h2.1, by simpa using h3.2.2.2, h3.1⟩

/-- What the code and the scale disagree on. -/
theorem followsScale_cRating_iff :
    FollowsScale
        (cRating overallContinuity inventoryReserveDays corridorState reconciliationResult)
        overallContinuity inventoryReserveDays corridorState reconciliationResult ↔
      ¬ (7 ≤ inventoryReserveDays ∧ inventoryReserveDays < 10 ∧ 65 / 100 ≤ overallContinuity ∧
          corridorState ≠ .physicallyClosed ∧ corridorState ≠ .functionallyClosed) ∧
        ¬ (95 / 100 ≤ overallContinuity ∧ 30 ≤ inventoryReserveDays ∧
          (∀ result ∈ reconciliationResult, result.overallStatus ≠ .fail) ∧
          corridorState ∈ uncheckedStates) := by
  have hopened : CorridorState.opened ∉ uncheckedStates := by decide
  rw [← isFailed_eq_false_iff]
  constructor
  · rintro ⟨hlow, hhigh⟩
    rw [cRating_eq_notCapable_iff] at hlow
    rw [cRating_eq_fullyCapable_iff] at hhigh
    refine ⟨?_, ?_⟩
    · rintro ⟨h7, h10, hcontinuity, hphysical, hfunctional⟩
      rcases hlow.mpr (Or.inr (Or.inl h10)) with (h | h) | h | h
      · exact hphysical h
      · exact hfunctional h
      · exact absurd h (not_lt.mpr h7)
      · exact absurd h (not_lt.mpr hcontinuity)
    · rintro ⟨hcontinuity, hdays, hfail, hstate⟩
      have hopen := (hhigh ⟨hcontinuity, hdays, hfail, Or.inr hstate⟩).2.2.2
      exact hopened (hopen ▸ hstate)
  · rintro ⟨hlow, hhigh⟩
    refine ⟨?_, ?_⟩
    · rw [cRating_eq_notCapable_iff]
      constructor
      · rintro (h | h | h)
        · exact Or.inr (Or.inr h)
        · exact Or.inr (Or.inl (by linarith))
        · exact Or.inl h
      · rintro (h | h | h)
        · exact Or.inr (Or.inr h)
        · by_contra hnot
          push Not at hnot
          exact hlow ⟨hnot.2.1, h, hnot.2.2, hnot.1⟩
        · exact Or.inl h
    · rw [cRating_eq_fullyCapable_iff, ← isFailed_eq_false_iff]
      rintro ⟨hcontinuity, hdays, hfail, hstate⟩
      refine ⟨hcontinuity, hdays, hfail, hstate.resolve_right fun hmem => ?_⟩
      exact hhigh ⟨hcontinuity, hdays, hfail, hmem⟩

end Rating

section Scores

theorem checkScore_rounded {q : ℚ} (h : 0 ≤ q ∧ q ≤ 1) :
    checkScore (roundDigits 4 q) = some (Score.rounded 4 ⟨q, h⟩) :=
  dif_pos (Score.rounded 4 ⟨q, h⟩).property

theorem inventoryScore_mem {days : ℚ} (h : 0 ≤ days) :
    0 ≤ inventoryScore days ∧ inventoryScore days ≤ 1 :=
  ⟨le_min zero_le_one (by positivity), min_le_left _ _⟩

/-- Valid inputs are always rated, and by the scale exactly where reserves between seven
and ten days do not decide and no unchecked corridor state is rated fully capable. -/
theorem evaluateReadiness_follows_iff (assessmentId theaterId : String)
    (overallContinuity inventoryReserveDays : ℚ) (corridorState : CorridorState)
    (reconciliationResult : Option ReconciliationResult)
    (hcontinuity : 0 ≤ overallContinuity ∧ overallContinuity ≤ 1)
    (hdays : 0 ≤ inventoryReserveDays) :
    ∃ assessment, evaluateReadiness assessmentId theaterId overallContinuity inventoryReserveDays
        corridorState reconciliationResult = .ok assessment ∧
      (FollowsScale assessment.cRating overallContinuity inventoryReserveDays corridorState
          reconciliationResult ↔
        ¬ (7 ≤ inventoryReserveDays ∧ inventoryReserveDays < 10 ∧ 65 / 100 ≤ overallContinuity ∧
            corridorState ≠ .physicallyClosed ∧ corridorState ≠ .functionallyClosed) ∧
          ¬ (95 / 100 ≤ overallContinuity ∧ 30 ≤ inventoryReserveDays ∧
            (∀ result ∈ reconciliationResult, result.overallStatus ≠ .fail) ∧
            corridorState ∈ uncheckedStates)) := by
  have hevaluate : evaluateReadiness assessmentId theaterId overallContinuity
      inventoryReserveDays corridorState reconciliationResult = .ok
        { assessmentId := assessmentId
          unitOrTheaterId := theaterId
          cRating :=
            cRating overallContinuity inventoryReserveDays corridorState reconciliationResult
          overallContinuityScore := Score.rounded 4 ⟨overallContinuity, hcontinuity⟩
          inventoryReadinessScore := Score.rounded 4 ⟨_, inventoryScore_mem hdays⟩
          corridorOperationalScore := (corridorScore corridorState).rounded 4
          missionLimitingFactors :=
            limitingFactors inventoryReserveDays corridorState reconciliationResult
          executiveBriefing := briefing overallContinuity inventoryReserveDays corridorState
            reconciliationResult } := by
    rw [evaluateReadiness, checkScore_rounded hcontinuity,
      checkScore_rounded (inventoryScore_mem hdays)]
  exact ⟨_, hevaluate, followsScale_cRating_iff overallContinuity inventoryReserveDays
    corridorState reconciliationResult⟩

theorem evaluateReadiness_follows_open :
    ∃ assessment, evaluateReadiness "assessment" "theater-1" 1 30 .opened none = .ok assessment ∧
      FollowsScale assessment.cRating 1 30 .opened none := by
  obtain ⟨assessment, hok, hiff⟩ := evaluateReadiness_follows_iff "assessment" "theater-1" 1 30
    .opened none (by norm_num) (by norm_num)
  exact ⟨assessment, hok, hiff.mpr ⟨by norm_num, by simp [uncheckedStates]⟩⟩

/-- A theatre whose corridor is unknown is rated fully capable. -/
theorem evaluateReadiness_not_follows :
    ¬ ∀ (assessmentId theaterId : String) (overallContinuity inventoryReserveDays : ℚ)
      (corridorState : CorridorState) (reconciliationResult : Option ReconciliationResult),
      0 ≤ overallContinuity ∧ overallContinuity ≤ 1 → 0 ≤ inventoryReserveDays →
        ∃ assessment, evaluateReadiness assessmentId theaterId overallContinuity
            inventoryReserveDays corridorState reconciliationResult = .ok assessment ∧
          FollowsScale assessment.cRating overallContinuity inventoryReserveDays corridorState
            reconciliationResult := by
  intro h
  obtain ⟨assessment, hok, hfollows⟩ :=
    h "assessment" "theater-1" 1 30 .unknown none (by norm_num) (by norm_num)
  rw [evaluateReadiness, checkScore_rounded ⟨zero_le_one, le_rfl⟩,
    checkScore_rounded (inventoryScore_mem (by norm_num))] at hok
  obtain rfl := Except.ok.inj hok
  exact ((followsScale_cRating_iff 1 30 .unknown none).mp hfollows).2
    ⟨by norm_num, le_rfl, by simp, by simp [uncheckedStates]⟩

end Scores

end ContinuityOS.Readiness
