import ContinuityOS.Policy.Evaluation

/-! # Completeness of policy evaluation

The evaluation performs some of the checks a policy asserts and omits others: the concentration
bound is never read, a dimension without telemetry is passed over, and a value that is no number
is never below its bound. It is complete exactly when the omitted checks make no difference.
-/
namespace ContinuityOS.Policy
open Library

section Specification
variable (assertion : PolicyAssertion) (state : ObservedState)

/-- The entries of a map that is not empty all meet the bound, when one is set. -/
def EntriesMeet {μ ν : Type*} (minimum : Option μ) (entries : List (String × ν))
    (meets : ν → μ → Prop) : Prop :=
  ∀ bound ∈ minimum, entries ≠ [] ∧ ∀ e ∈ entries, meets e.2 bound

/-- Every field of the assertion that is set holds of the state. -/
structure AssertionHolds : Prop where
  providers : EntriesMeet assertion.minimumProviders state.providerCounts.entries
    (fun count bound => bound ≤ count)
  reserveDays : EntriesMeet assertion.minimumReserveDays state.reserveDays.entries
    (fun days bound => FloatNumber.le (.finite bound) days = true)
  routes : ∀ bound ∈ assertion.minimumIndependentRoutes, bound ≤ state.independentRouteCount
  continuity : ∀ bound ∈ assertion.minimumContinuity,
    bound.le (.finite state.overallContinuity.val) = true
  concentration : ∀ bound ∈ assertion.maximumSingleDependencyConcentration,
    ∀ e ∈ state.dependencyConcentration.entries, e.2.le bound = true
  trustScores : EntriesMeet assertion.minimumTrustScore state.trustScores.entries
    (fun score bound => bound.le score = true)
  thresholds : ∀ t ∈ assertion.trustDimensionThresholds.entries,
    state.dimensionalTrustScores.entries ≠ [] ∧
      ∀ d ∈ state.dimensionalTrustScores.entries,
        ∃ score, d.2.get? t.1 = some score ∧ t.2.le score = true
  required : ∀ r ∈ assertion.trustDimensionRequired.entries, r.2 = true →
    state.dimensionalTrustScores.entries ≠ [] ∧
      ∀ d ∈ state.dimensionalTrustScores.entries,
        ∃ score, d.2.get? r.1 = some score ∧ FloatNumber.lt (.finite 0) score = true

/-- The part of the assertion that the evaluation looks at. -/
structure PerformedChecksHold : Prop where
  providers : EntriesMeet assertion.minimumProviders state.providerCounts.entries
    (fun count bound => bound ≤ count)
  reserveDays : EntriesMeet assertion.minimumReserveDays state.reserveDays.entries
    (fun days bound => days.lt (.finite bound) = false)
  routes : ∀ bound ∈ assertion.minimumIndependentRoutes, bound ≤ state.independentRouteCount
  continuity : ∀ bound ∈ assertion.minimumContinuity,
    FloatNumber.lt (.finite state.overallContinuity.val) bound = false
  trustScores : EntriesMeet assertion.minimumTrustScore state.trustScores.entries
    (fun score bound => score.lt bound = false)
  thresholds : ∀ t ∈ assertion.trustDimensionThresholds.entries,
    ∀ d ∈ state.dimensionalTrustScores.entries, ∀ score ∈ d.2.get? t.1, score.lt t.2 = false
  required : ∀ r ∈ assertion.trustDimensionRequired.entries, r.2 = true →
    ∀ d ∈ state.dimensionalTrustScores.entries,
      ∃ score, d.2.get? r.1 = some score ∧ score.le (.finite 0) = false

/-- The part of the assertion that the evaluation passes over. -/
structure OmittedChecksHold : Prop where
  concentration : ∀ bound ∈ assertion.maximumSingleDependencyConcentration,
    ∀ e ∈ state.dependencyConcentration.entries, e.2.le bound = true
  thresholds : ∀ t ∈ assertion.trustDimensionThresholds.entries,
    state.dimensionalTrustScores.entries ≠ [] ∧
      ∀ d ∈ state.dimensionalTrustScores.entries, d.2.get? t.1 ≠ none
  required : ∀ r ∈ assertion.trustDimensionRequired.entries, r.2 = true →
    state.dimensionalTrustScores.entries ≠ []

/-- What the evaluation compares are numbers. -/
structure ComparesNumbers : Prop where
  reserveDays : ∀ _bound ∈ assertion.minimumReserveDays,
    ∀ e ∈ state.reserveDays.entries, e.2 ≠ .nan
  continuity : ∀ bound ∈ assertion.minimumContinuity, bound ≠ .nan
  trustScores : ∀ bound ∈ assertion.minimumTrustScore, state.trustScores.entries ≠ [] →
    bound ≠ .nan ∧ ∀ e ∈ state.trustScores.entries, e.2 ≠ .nan
  thresholds : ∀ t ∈ assertion.trustDimensionThresholds.entries,
    ∀ d ∈ state.dimensionalTrustScores.entries, ∀ score ∈ d.2.get? t.1,
      t.2 ≠ .nan ∧ score ≠ .nan
  required : ∀ r ∈ assertion.trustDimensionRequired.entries, r.2 = true →
    ∀ d ∈ state.dimensionalTrustScores.entries, ∀ score ∈ d.2.get? r.1, score ≠ .nan

/-- A bound is met exactly when no entry falls below it and the entries compare as numbers. -/
theorem entriesMeet_and_iff {μ ν : Type*} (minimum : Option μ) (entries : List (String × ν))
    {meets notBelow number : ν → μ → Prop}
    (h : ∀ bound v, meets v bound ↔ notBelow v bound ∧ number v bound) :
    EntriesMeet minimum entries meets ↔
      EntriesMeet minimum entries notBelow ∧
        ∀ bound ∈ minimum, ∀ e ∈ entries, number e.2 bound := by
  simp only [EntriesMeet, h]
  grind

/-- A score reaches a bound exactly when it is there, is not below it, and both are numbers. -/
theorem scoreReaches_iff (found : Option FloatNumber) (bound : FloatNumber) :
    (∃ score, found = some score ∧ bound.le score = true) ↔
      found ≠ none ∧ (∀ score ∈ found, score.lt bound = false) ∧
        ∀ score ∈ found, bound ≠ .nan ∧ score ≠ .nan := by
  cases found with
  | none => simp
  | some score => simp [FloatNumber.le_iff]

/-- A score is positive exactly when it is there, is not at or below zero, and is a number. -/
theorem scorePositive_iff (found : Option FloatNumber) :
    (∃ score, found = some score ∧ FloatNumber.lt (.finite 0) score = true) ↔
      (∃ score, found = some score ∧ score.le (.finite 0) = false) ∧
        ∀ score ∈ found, score ≠ .nan := by
  cases found with
  | none => simp
  | some score => simp [FloatNumber.positive_iff]

/-- An assertion holds exactly when the checks that are performed and those that are passed over
both hold, of numbers. -/
theorem assertionHolds_iff : AssertionHolds assertion state ↔
    PerformedChecksHold assertion state ∧ OmittedChecksHold assertion state ∧
      ComparesNumbers assertion state := by
  have hreserve := entriesMeet_and_iff assertion.minimumReserveDays state.reserveDays.entries
    (fun (bound : ℤ) days => FloatNumber.le_iff (.finite bound) days)
  have htrust := entriesMeet_and_iff assertion.minimumTrustScore state.trustScores.entries
    (fun bound score => FloatNumber.le_iff bound score)
  constructor
  · intro h
    have hdays := hreserve.mp h.reserveDays
    have hscores := htrust.mp h.trustScores
    have hcontinuity bound hbound := (FloatNumber.le_iff _ _).mp (h.continuity bound hbound)
    have hthreshold t ht d hd := (scoreReaches_iff _ _).mp ((h.thresholds t ht).2 d hd)
    have hrequired r hr hset d hd := (scorePositive_iff _).mp ((h.required r hr hset).2 d hd)
    refine ⟨⟨h.providers, hdays.1, h.routes, fun bound hbound => (hcontinuity bound hbound).1,
        hscores.1, fun t ht d hd => (hthreshold t ht d hd).2.1,
        fun r hr hset d hd => (hrequired r hr hset d hd).1⟩,
      ⟨h.concentration, fun t ht => ⟨(h.thresholds t ht).1, fun d hd => (hthreshold t ht d hd).1⟩,
        fun r hr hset => (h.required r hr hset).1⟩,
      ⟨fun bound hbound e he => (hdays.2 bound hbound e he).2,
        fun bound hbound => (hcontinuity bound hbound).2.1, ?_,
        fun t ht d hd => (hthreshold t ht d hd).2.2,
        fun r hr hset d hd => (hrequired r hr hset d hd).2⟩⟩
    intro bound hbound hne
    obtain ⟨e, he⟩ := List.exists_mem_of_ne_nil _ hne
    exact ⟨(hscores.2 bound hbound e he).1, fun e he => (hscores.2 bound hbound e he).2⟩
  · rintro ⟨hperformed, homitted, hnumbers⟩
    refine ⟨hperformed.providers,
      hreserve.mpr ⟨hperformed.reserveDays, fun bound hbound e he =>
        ⟨by simp, hnumbers.reserveDays bound hbound e he⟩⟩,
      hperformed.routes, ?_, homitted.concentration,
      htrust.mpr ⟨hperformed.trustScores, fun bound hbound e he => ?_⟩, ?_, ?_⟩
    · exact fun bound hbound => (FloatNumber.le_iff _ _).mpr
        ⟨hperformed.continuity bound hbound, hnumbers.continuity bound hbound, by simp⟩
    · obtain ⟨hboundNumber, hentries⟩ :=
        hnumbers.trustScores bound hbound (List.ne_nil_of_mem he)
      exact ⟨hboundNumber, hentries e he⟩
    · intro t ht
      obtain ⟨hknown, hthere⟩ := homitted.thresholds t ht
      exact ⟨hknown, fun d hd => (scoreReaches_iff _ _).mpr
        ⟨hthere d hd, hperformed.thresholds t ht d hd, hnumbers.thresholds t ht d hd⟩⟩
    · intro r hr hset
      exact ⟨homitted.required r hr hset, fun d hd => (scorePositive_iff _).mpr
        ⟨hperformed.required r hr hset d hd, hnumbers.required r hr hset d hd⟩⟩

end Specification

theorem checkEntries_eq_none_iff {μ ν : Type*} (minimum : Option μ) (entries : List (String × ν))
    (below : ν → μ → Bool) (missing : μ → PolicyViolation)
    (low : μ → String → ν → PolicyViolation) :
    checkEntries minimum entries below missing low = none ↔
      EntriesMeet minimum entries (fun v bound => below v bound = false) := by
  cases minimum with
  | none => simp [checkEntries, EntriesMeet]
  | some bound =>
    by_cases hnil : entries = []
    · simp [checkEntries, EntriesMeet, hnil]
    · simp [checkEntries, EntriesMeet, hnil]

section Checks
variable (rule : PolicyRule) (state : ObservedState)

theorem checkProviders_eq_none_iff : checkProviders rule state = none ↔
    EntriesMeet rule.assertion.minimumProviders state.providerCounts.entries
      (fun count bound => bound ≤ count) := by
  simp [checkProviders, checkEntries_eq_none_iff]

theorem checkReserveDays_eq_none_iff : checkReserveDays rule state = none ↔
    EntriesMeet rule.assertion.minimumReserveDays state.reserveDays.entries
      (fun days bound => days.lt (.finite bound) = false) := by
  simp [checkReserveDays, checkEntries_eq_none_iff]

theorem checkRoutes_eq_none_iff : checkRoutes rule state = none ↔
    ∀ bound ∈ rule.assertion.minimumIndependentRoutes, bound ≤ state.independentRouteCount := by
  unfold checkRoutes
  cases rule.assertion.minimumIndependentRoutes <;> simp

theorem checkContinuity_eq_none_iff : checkContinuity rule state = none ↔
    ∀ bound ∈ rule.assertion.minimumContinuity,
      FloatNumber.lt (.finite state.overallContinuity.val) bound = false := by
  unfold checkContinuity
  cases rule.assertion.minimumContinuity <;> simp

theorem checkTrustScores_eq_none_iff : checkTrustScores rule state = none ↔
    EntriesMeet rule.assertion.minimumTrustScore state.trustScores.entries
      (fun score bound => score.lt bound = false) := by
  simp [checkTrustScores, checkEntries_eq_none_iff]

theorem checkDimensionThresholds_eq_none_iff : checkDimensionThresholds rule state = none ↔
    ∀ t ∈ rule.assertion.trustDimensionThresholds.entries,
      ∀ d ∈ state.dimensionalTrustScores.entries, ∀ score ∈ d.2.get? t.1,
        score.lt t.2 = false := by
  simp only [checkDimensionThresholds, List.findSome?_eq_none_iff]
  refine forall₄_congr fun t _ d _ => ?_
  cases d.2.get? t.1 <;> simp

theorem checkDimensionRequired_eq_none_iff : checkDimensionRequired rule state = none ↔
    ∀ r ∈ rule.assertion.trustDimensionRequired.entries, r.2 = true →
      ∀ d ∈ state.dimensionalTrustScores.entries,
        ∃ score, d.2.get? r.1 = some score ∧ score.le (.finite 0) = false := by
  simp only [checkDimensionRequired, List.findSome?_eq_none_iff]
  refine forall₂_congr fun r _ => ?_
  cases r.2 with
  | false => simp
  | true =>
    simp only [if_true, List.findSome?_eq_none_iff, forall_const]
    refine forall₂_congr fun d _ => ?_
    cases hget : d.2.get? r.1 <;> simp [Dict.getD, hget, FloatNumber.le, FloatNumber.lt]

theorem checkRule_eq_none_iff :
    checkRule rule state = none ↔ PerformedChecksHold rule.assertion state := by
  simp only [checkRule, List.findSome?_eq_none_iff, List.forall_mem_cons, id,
    checkProviders_eq_none_iff, checkReserveDays_eq_none_iff, checkRoutes_eq_none_iff,
    checkContinuity_eq_none_iff, checkTrustScores_eq_none_iff,
    checkDimensionThresholds_eq_none_iff, checkDimensionRequired_eq_none_iff]
  constructor
  · rintro ⟨h1, h2, h3, h4, h5, h6, h7, -⟩
    exact ⟨h1, h2, h3, h4, h5, h6, h7⟩
  · rintro ⟨h1, h2, h3, h4, h5, h6, h7⟩
    exact ⟨h1, h2, h3, h4, h5, h6, h7, by simp⟩

end Checks

theorem evaluateRule_foldl (state : ObservedState) (rules : List PolicyRule)
    (acc : List PolicyViolation × ℕ) :
    rules.foldl (evaluateRule state) acc =
      (acc.1 ++ rules.filterMap (fun rule => checkRule rule state),
        acc.2 + rules.countP (fun rule => (checkRule rule state).isNone)) := by
  induction rules generalizing acc with
  | nil => simp
  | cons rule rules ih =>
    rw [List.foldl_cons, ih]
    cases hcheck : checkRule rule state with
    | none => simp [evaluateRule, hcheck]; omega
    | some violation => simp [evaluateRule, hcheck]

theorem evaluatePolicy_compliant_iff (policy : ContinuityPolicy) (state : ObservedState) :
    (evaluatePolicy policy state).compliant = true ↔
      ∀ rule ∈ policy.rules, PerformedChecksHold rule.assertion state := by
  simp [evaluatePolicy, evaluateRule_foldl, ← checkRule_eq_none_iff]

theorem evaluatePolicy_counts (policy : ContinuityPolicy) (state : ObservedState) :
    (evaluatePolicy policy state).rulesPassed + (evaluatePolicy policy state).violations.length =
      (evaluatePolicy policy state).rulesEvaluated := by
  simp only [evaluatePolicy, evaluateRule_foldl, List.nil_append, zero_add]
  induction policy.rules with
  | nil => rfl
  | cons rule rules ih =>
    cases hcheck : checkRule rule state with
    | none => simp [hcheck]; omega
    | some violation => simp [hcheck]; omega

/-- The evaluation is complete exactly when some rule already fails a check that
is performed, or every rule meets the checks that are passed over and compares numbers. -/
theorem evaluatePolicy_complete_iff (policy : ContinuityPolicy) (state : ObservedState) :
    (((evaluatePolicy policy state).compliant = true ↔
        ∀ rule ∈ policy.rules, AssertionHolds rule.assertion state) ∧
      (evaluatePolicy policy state).rulesPassed +
        (evaluatePolicy policy state).violations.length =
        (evaluatePolicy policy state).rulesEvaluated) ↔
    (∃ rule ∈ policy.rules, ¬ PerformedChecksHold rule.assertion state) ∨
      ∀ rule ∈ policy.rules, OmittedChecksHold rule.assertion state ∧
        ComparesNumbers rule.assertion state := by
  rw [evaluatePolicy_compliant_iff]
  simp only [assertionHolds_iff, evaluatePolicy_counts, and_true]
  constructor
  · intro h
    by_cases hall : ∀ rule ∈ policy.rules, PerformedChecksHold rule.assertion state
    · exact Or.inr fun rule hrule => (h.mp hall rule hrule).2
    · push Not at hall
      exact Or.inl hall
  · rintro (⟨rule, hrule, hfail⟩ | homitted)
    · constructor
      · intro hall
        exact absurd (hall rule hrule) hfail
      · intro hall
        exact absurd (hall rule hrule).1 hfail
    · constructor
      · exact fun hall rule hrule => ⟨hall rule hrule, homitted rule hrule⟩
      · exact fun hall rule hrule => (hall rule hrule).1

/-- A bound on concentration, and a single provider that exceeds it. -/
def concentrationPolicy : ContinuityPolicy where
  rules := [{ ruleId := "concentration", description := "no dominant supplier"
              assertion := { maximumSingleDependencyConcentration := some (.finite (1 / 2)) } }]
  nonempty := by simp
  atMost := by simp

def concentratedState : ObservedState where
  dependencyConcentration := Dict.empty.set "supplier" (.finite (9 / 10))

theorem evaluatePolicy_incomplete :
    ¬ ∀ (policy : ContinuityPolicy) (state : ObservedState),
      (evaluatePolicy policy state).compliant = true ↔
        ∀ rule ∈ policy.rules, AssertionHolds rule.assertion state := by
  intro h
  have hcompliant : (evaluatePolicy concentrationPolicy concentratedState).compliant = true := by
    decide
  have hholds := (h _ _).mp hcompliant _ (List.mem_singleton.mpr rfl)
  have hle := hholds.concentration (.finite (1 / 2)) rfl ("supplier", .finite (9 / 10))
    (List.mem_singleton.mpr rfl)
  norm_num [FloatNumber.le, FloatNumber.lt] at hle

end ContinuityOS.Policy
