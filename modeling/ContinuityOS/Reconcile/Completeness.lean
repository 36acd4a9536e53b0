import ContinuityOS.Reconcile.Model

/-! # Completeness of reconciliation

Each check is compliant exactly when its requirement is met by a known value. The trust
requirement gives no check, so reconciliation is complete exactly when that requirement
makes no difference.
-/
namespace ContinuityOS.Reconcile
open Library

section Specification

/-- A requirement that is set has a known counterpart that reaches it. -/
def Reaches {ν : Type*} (value : ν → ℚ) (desired observed : Option ν) : Prop :=
  ∀ bound ∈ desired, ∃ found, observed = some found ∧ value bound ≤ value found

variable (desired : DesiredState) (actual : ActualState)

/-- The requirements that give a check. -/
structure CheckedRequirementsMet : Prop where
  satcom : Reaches (fun n : ℤ => (n : ℚ)) desired.satcomProviderCount actual.satcomProviderCount
  fuel : Reaches id desired.fuelReserveDays actual.fuelReserveDays
  medical : Reaches id desired.medicalReserveDays actual.medicalReserveDays
  routes : Reaches (fun n : ℤ => (n : ℚ)) desired.minimumRoutes actual.routeCount
  continuity : Reaches Subtype.val desired.minimumContinuity actual.overallContinuity
  navigation : Reaches (fun n : ℤ => (n : ℚ)) desired.navigationSourceCount
    actual.navigationSourceCount
  observation : Reaches (fun n : ℤ => (n : ℚ)) desired.observationSourceCount
    actual.observationSourceCount
  custom : ∀ e ∈ desired.customChecks.entries, Reaches id (some e.2) (actual.customValues.get? e.1)

/-- Some trust score is known and all of them reach the minimum, when one is set. -/
def TrustRequirementMet : Prop :=
  ∀ bound ∈ desired.minimumTrustScore,
    actual.trustScores.entries ≠ [] ∧ ∀ e ∈ actual.trustScores.entries, bound.val ≤ e.2

def RequirementsMet : Prop :=
  CheckedRequirementsMet desired actual ∧ TrustRequirementMet desired actual

def Unset {ν : Type*} (desired observed : Option ν) : Prop := desired ≠ none ∧ observed = none

/-- Some requirement is set whose counterpart was not observed. -/
def SomeUnobserved : Prop :=
  Unset desired.satcomProviderCount actual.satcomProviderCount ∨
  Unset desired.fuelReserveDays actual.fuelReserveDays ∨
  Unset desired.medicalReserveDays actual.medicalReserveDays ∨
  Unset desired.minimumRoutes actual.routeCount ∨
  Unset desired.minimumContinuity actual.overallContinuity ∨
  Unset desired.navigationSourceCount actual.navigationSourceCount ∨
  Unset desired.observationSourceCount actual.observationSourceCount ∨
  (desired.minimumTrustScore ≠ none ∧ actual.trustScores.entries = []) ∨
  ∃ e ∈ desired.customChecks.entries, actual.customValues.get? e.1 = none

end Specification

theorem not_reaches_of_unset {ν : Type*} {value : ν → ℚ} {desired observed : Option ν}
    (h : Unset desired observed) : ¬ Reaches value desired observed := by
  intro hreach
  obtain ⟨bound, hbound⟩ := Option.ne_none_iff_exists'.mp h.1
  obtain ⟨found, hfound, -⟩ := hreach bound hbound
  rw [h.2] at hfound
  cases hfound

/-- What was not observed is not met. -/
theorem not_requirementsMet_of_unobserved {desired : DesiredState} {actual : ActualState}
    (h : SomeUnobserved desired actual) : ¬ RequirementsMet desired actual := by
  rintro ⟨hmet, htrust⟩
  rcases h with h | h | h | h | h | h | h | ⟨hset, hnil⟩ | ⟨e, he, hnone⟩
  · exact not_reaches_of_unset h hmet.satcom
  · exact not_reaches_of_unset h hmet.fuel
  · exact not_reaches_of_unset h hmet.medical
  · exact not_reaches_of_unset h hmet.routes
  · exact not_reaches_of_unset h hmet.continuity
  · exact not_reaches_of_unset h hmet.navigation
  · exact not_reaches_of_unset h hmet.observation
  · obtain ⟨bound, hbound⟩ := Option.ne_none_iff_exists'.mp hset
    exact (htrust bound hbound).1 hnil
  · exact not_reaches_of_unset ⟨by simp, hnone⟩ (hmet.custom e he)

section Compare

theorem shortfallStatus_ne_compliant (desired observed : ℚ) :
    shortfallStatus desired observed ≠ .compliant := by
  unfold shortfallStatus
  dsimp only
  split_ifs <;> simp

/-- A check is compliant exactly when a known value reaches the target. -/
theorem compareValue_compliant_iff {ν : Type*} (value : ν → ℚ)
    (checkId description target : String) (shown missing : ν → String) (desired : ν)
    (observed : Option ν) :
    (compareValue value checkId description target shown missing desired observed).status =
      .compliant ↔ Reaches value (some desired) observed := by
  cases observed with
  | none => simp [compareValue, Reaches]
  | some found =>
    by_cases h : value desired ≤ value found
    · simp [compareValue, Reaches, h]
    · simp [compareValue, Reaches, h, shortfallStatus_ne_compliant]

theorem compareInt_compliant_iff (checkId description : String) (desired : ℤ)
    (observed : Option ℤ) :
    (compareInt checkId description desired observed).status = .compliant ↔
      Reaches (fun n : ℤ => (n : ℚ)) (some desired) observed :=
  compareValue_compliant_iff _ _ _ _ _ _ _ _

theorem compareFloat_compliant_iff (floatText : ℚ → String) (checkId description : String)
    (desired : ℚ) (observed : Option ℚ) (unit : String) :
    (compareFloat floatText checkId description desired observed unit).status = .compliant ↔
      Reaches id (some desired) observed :=
  compareValue_compliant_iff _ _ _ _ _ _ _ _

/-- A requirement that may be unset gives at most one check. -/
theorem optional_compliant_iff {ν : Type*} {value : ν → ℚ} {compare : ν → ReconciliationCheck}
    {observed : Option ν}
    (h : ∀ bound, (compare bound).status = .compliant ↔ Reaches value (some bound) observed)
    (desired : Option ν) :
    (∀ check ∈ (desired.map compare).toList, check.status = .compliant) ↔
      Reaches value desired observed := by
  cases desired with
  | none => simp [Reaches]
  | some bound => simp [h]

end Compare

section Overall

theorem overallStatus_compliant_iff (statuses : List ReconciliationStatus) :
    overallStatus statuses = .compliant ↔ ∀ status ∈ statuses, status = .compliant := by
  constructor
  · intro h status hmem
    unfold overallStatus at h
    split_ifs at h with hfail hdegraded hdrift hunknown
    have hcount : ∀ s : ReconciliationStatus, ¬ 0 < statuses.count s → status ≠ s := by
      intro s hs he
      exact hs (List.count_pos_iff.mpr (he ▸ hmem))
    cases status with
    | compliant => rfl
    | drift => exact absurd rfl (hcount _ hdrift)
    | degraded => exact absurd rfl (hcount _ hdegraded)
    | fail => exact absurd rfl (hcount _ hfail)
    | unknown => exact absurd rfl (hcount _ hunknown)
  · intro h
    have hcount : ∀ s : ReconciliationStatus, s ≠ .compliant → statuses.count s = 0 := by
      intro s hs
      exact List.count_eq_zero.mpr fun hmem => hs (h s hmem)
    simp [overallStatus, hcount]

theorem statusCounts (statuses : List ReconciliationStatus) :
    statuses.count .compliant + statuses.count .drift + statuses.count .degraded +
      statuses.count .fail + statuses.count .unknown = statuses.length := by
  induction statuses with
  | nil => rfl
  | cons status statuses ih =>
    cases status <;> simp [← ih] <;> omega

end Overall

section Results
variable (floatText : ℚ → String) (desired : DesiredState) (actual : ActualState)

theorem checks_compliant_iff :
    (∀ check ∈ checks floatText desired actual, check.status = .compliant) ↔
      CheckedRequirementsMet desired actual := by
  have hcontinuity : ∀ bound : Score,
      (compareFloat floatText "OVERALL_CONTINUITY" "Overall continuity must meet target"
          bound.val (actual.overallContinuity.map Subtype.val) "ratio").status = .compliant ↔
        Reaches Subtype.val (some bound) actual.overallContinuity := by
    intro bound
    rw [compareFloat_compliant_iff]
    cases actual.overallContinuity <;> simp [Reaches]
  simp only [checks, List.mem_append, or_imp, forall_and,
    optional_compliant_iff (compareInt_compliant_iff _ _ · _),
    optional_compliant_iff (compareFloat_compliant_iff _ _ _ · _ _),
    optional_compliant_iff hcontinuity, List.forall_mem_map, compareFloat_compliant_iff]
  constructor
  · rintro ⟨⟨⟨⟨⟨⟨⟨h1, h2⟩, h3⟩, h4⟩, h5⟩, h6⟩, h7⟩, h8⟩
    exact ⟨h1, h2, h3, h4, h5, h6, h7, h8⟩
  · rintro ⟨h1, h2, h3, h4, h5, h6, h7, h8⟩
    exact ⟨⟨⟨⟨⟨⟨⟨h1, h2⟩, h3⟩, h4⟩, h5⟩, h6⟩, h7⟩, h8⟩

theorem reconcile_compliant_iff :
    (reconcile floatText desired actual).overallStatus = .compliant ↔
      CheckedRequirementsMet desired actual := by
  simp only [reconcile, overallStatus_compliant_iff, List.forall_mem_map, checks_compliant_iff]

theorem reconcile_counts :
    (reconcile floatText desired actual).compliantCount +
      (reconcile floatText desired actual).driftCount +
      (reconcile floatText desired actual).degradedCount +
      (reconcile floatText desired actual).failCount +
      (reconcile floatText desired actual).unknownCount =
      (reconcile floatText desired actual).checks.length := by
  simp only [reconcile, statusCounts, List.length_map]

/-- Reconciliation is complete exactly when a requirement that is checked is unmet, or the
trust requirement is met. -/
theorem reconcile_complete_iff :
    (((reconcile floatText desired actual).overallStatus = .compliant ↔
        RequirementsMet desired actual) ∧
      (SomeUnobserved desired actual →
        (reconcile floatText desired actual).overallStatus ≠ .compliant) ∧
      (reconcile floatText desired actual).compliantCount +
        (reconcile floatText desired actual).driftCount +
        (reconcile floatText desired actual).degradedCount +
        (reconcile floatText desired actual).failCount +
        (reconcile floatText desired actual).unknownCount =
        (reconcile floatText desired actual).checks.length) ↔
    ¬ CheckedRequirementsMet desired actual ∨ TrustRequirementMet desired actual := by
  rw [reconcile_compliant_iff]
  simp only [reconcile_counts, and_true, Ne, reconcile_compliant_iff]
  constructor
  · rintro ⟨h, -⟩
    by_cases hchecked : CheckedRequirementsMet desired actual
    · exact Or.inr (h.mp hchecked).2
    · exact Or.inl hchecked
  · intro h
    have hiff : CheckedRequirementsMet desired actual ↔ RequirementsMet desired actual := by
      constructor
      · intro hchecked
        exact ⟨hchecked, h.resolve_left (not_not_intro hchecked)⟩
      · exact And.left
    refine ⟨hiff, fun hunobserved hchecked => ?_⟩
    exact not_requirementsMet_of_unobserved hunobserved (hiff.mp hchecked)

end Results

/-- A state that asks for nothing but trust. -/
def trustOnly : DesiredState where
  minimumTrustScore := some Score.one

theorem reconcile_incomplete :
    ¬ ∀ (floatText : ℚ → String) (desired : DesiredState) (actual : ActualState),
      (reconcile floatText desired actual).overallStatus = .compliant ↔
        RequirementsMet desired actual := by
  intro h
  have hcompliant : (reconcile (fun _ => "") trustOnly {}).overallStatus = .compliant := by decide
  have htrust := ((h _ _ _).mp hcompliant).2 Score.one rfl
  exact htrust.1 rfl

end ContinuityOS.Reconcile
