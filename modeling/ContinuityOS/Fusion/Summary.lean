import ContinuityOS.Fusion.Engine
import ContinuityOS.Library.Fallible

/-! # What an assessment is computed from

Once every source is validated no table lookup can fail, and the assessment is a
function of the graded observations: those that are current and not context only.
-/
namespace ContinuityOS.Fusion
open Library

section Tables
variable {m : MetricName}

theorem maxAgeHours_of_known (h : metricAssertions m ≠ none) : maxAgeHours m ≠ none := by
  cases m <;> first | exact absurd rfl h | simp [maxAgeHours]

theorem metricToFactor_of_known (h : metricAssertions m ≠ none) (hc : m ∉ contextOnlyMetrics) :
    metricToFactor m ≠ none := by
  cases m <;> first | exact absurd rfl h | exact absurd (by decide) hc | simp [metricToFactor]

theorem transform_of_known (h : metricAssertions m ≠ none) (hc : m ∉ contextOnlyMetrics) :
    transform m ≠ none := by
  cases m <;> first | exact absurd rfl h | exact absurd (by decide) hc | simp [transform]

end Tables

section Observations
variable (freshness : Freshness) (now : Instant) (o : Observation)

def maxAge : ℚ := (maxAgeHours o.metric).getD 0

/-- Future, expired or older than the metric allows. -/
def Excluded : Prop := now < o.observedAt ∨ isExpired now o = true ∨ maxAge o < ageHours now o

instance : Decidable (Excluded now o) := inferInstanceAs (Decidable (_ ∨ _))

def factorOf : CorridorFactor := (metricToFactor o.metric).getD .ice

def riskOf : Score := bounded ((transform o.metric).getD id o.value)

/-- Risk and effective confidence of a known observation. -/
def weighting : Score × Score :=
  let kept := freshness o.observedAt now (maxAge o)
  (riskOf o, ⟨o.confidence.val * kept.val, mul_nonneg o.confidence.nonneg kept.property.1.le,
    mul_le_one₀ o.confidence.le_one kept.property.1.le kept.property.2⟩)

/-- The observation is current and its metric counts towards the score. -/
def Graded : Prop := ¬ Excluded now o ∧ isContextOnly o = false

instance : Decidable (Graded now o) := inferInstanceAs (Decidable (_ ∧ _))

end Observations

def gradedOf (now : Instant) (observations : List Observation) : List Observation :=
  observations.filter fun o => Graded now o

def pairsOf (graded : List Observation) : List (CorridorFactor × Observation) :=
  graded.map fun o => (factorOf o, o)

def itemsFor (graded : List Observation) (factor : CorridorFactor) : List Observation :=
  graded.filter fun o => factorOf o = factor

def presentFactors (graded : List Observation) : List CorridorFactor :=
  CorridorFactor.all.filter fun f => itemsFor graded f ≠ []

section Results
variable (freshness : Freshness) (now : Instant) (graded : List Observation)

def resultFor (factor : CorridorFactor) : FactorResult where
  factor := factor
  risk := factorRisk ((itemsFor graded factor).map (weighting freshness now))
  confidence := factorConfidence ((itemsFor graded factor).map (weighting freshness now))
  items := itemsFor graded factor

def resultsOf : List FactorResult := (presentFactors graded).map (resultFor freshness now graded)

theorem itemsOf_pairsOf (factor : CorridorFactor) :
    itemsOf (pairsOf graded) factor = itemsFor graded factor := by
  simp only [itemsOf, pairsOf, itemsFor, List.filter_map, List.map_map]
  exact List.map_id' _

end Results

theorem allAtMost_iff (values : List ℚ) (bound : ℚ) :
    allAtMost values bound = true ↔ values ≠ [] ∧ ∀ v ∈ values, v ≤ bound := by
  cases values with
  | nil => simp [allAtMost]
  | cons v vs =>
    simp only [allAtMost, decide_eq_true_eq, ne_eq, reduceCtorEq, not_false_eq_true, true_and,
      List.forall_mem_cons]
    induction vs generalizing v with
    | nil => simp
    | cons w vs ih =>
      rw [List.foldl_cons, ih, max_le_iff, List.forall_mem_cons, and_assoc]

/-- The readings of a metric, whatever its factor. -/
def readings (graded : List Observation) (m : MetricName) : List ℚ :=
  (graded.filter fun o => o.metric = m).map Observation.value

theorem valuesOf_pairsOf (graded : List Observation) {factor : CorridorFactor} {m : MetricName}
    (h : metricToFactor m = some factor) :
    valuesOf (pairsOf graded) factor m = readings graded m := by
  rw [valuesOf, readings, itemsOf_pairsOf, itemsFor, List.filter_filter]
  congr 2
  funext o
  by_cases hm : o.metric = m
  · simp [hm, factorOf, h]
  · simp [hm]

/-- What a factor result contributes to the overall scores. -/
def FactorResult.scores (r : FactorResult) : CorridorFactor × Score × Score :=
  (r.factor, r.risk, r.confidence)

/-- The mean confidence is a function of the confidences of the factors. -/
theorem meanConfidence_congr {results results' : List FactorResult}
    (h : results.map FactorResult.confidence = results'.map FactorResult.confidence) :
    meanConfidence results = meanConfidence results' := by
  have hlen : results.length = results'.length := by simpa using congrArg List.length h
  have hnil : results = [] ↔ results' = [] := by
    rw [← List.length_eq_zero_iff, ← List.length_eq_zero_iff, hlen]
  have hsum : (results.map fun r => r.confidence.val) = results'.map fun r => r.confidence.val := by
    simpa [List.map_map, Function.comp_def] using congrArg (List.map Subtype.val) h
  simp only [meanConfidence, hnil, hsum, hlen]

theorem lowConfidencePenalty_congr {results results' : List FactorResult}
    (h : results.map FactorResult.confidence = results'.map FactorResult.confidence) :
    lowConfidencePenalty results = lowConfidencePenalty results' := by
  have hlen : results.length = results'.length := by simpa using congrArg List.length h
  have hnil : results = [] ↔ results' = [] := by
    rw [← List.length_eq_zero_iff, ← List.length_eq_zero_iff, hlen]
  simp only [lowConfidencePenalty, hnil, meanConfidence_congr h]

section Known
variable {o : Observation} (h : metricAssertions o.metric ≠ none)
include h

theorem lookupMaxAge_eq : lookupMaxAge o = .ok (maxAge o) := by
  obtain ⟨hours, hhours⟩ := Option.ne_none_iff_exists'.mp (maxAgeHours_of_known h)
  simp [lookupMaxAge, maxAge, hhours]

variable (hc : isContextOnly o = false)
include hc

theorem lookupFactor_eq : lookupFactor o = .ok (factorOf o) := by
  have hc' : o.metric ∉ contextOnlyMetrics := by simpa [isContextOnly] using hc
  obtain ⟨factor, hfactor⟩ := Option.ne_none_iff_exists'.mp (metricToFactor_of_known h hc')
  simp [lookupFactor, factorOf, hfactor]

theorem metricRisk_eq : metricRisk o = .ok (riskOf o) := by
  have hc' : o.metric ∉ contextOnlyMetrics := by simpa [isContextOnly] using hc
  obtain ⟨f, hf⟩ := Option.ne_none_iff_exists'.mp (transform_of_known h hc')
  simp [metricRisk, riskOf, hf]

theorem weightedItem_eq (freshness : Freshness) (now : Instant) :
    weightedItem freshness now o = .ok (weighting freshness now o) := by
  simp only [weightedItem, lookupMaxAge_eq h, metricRisk_eq h hc]
  rfl

end Known

section Fuse
variable (freshness : Freshness) (now : Instant) {graded : List Observation}
  (h : ∀ o ∈ graded, metricAssertions o.metric ≠ none ∧ isContextOnly o = false)
include h

theorem assessFactor_eq (factor : CorridorFactor) :
    assessFactor freshness now (pairsOf graded) factor =
      .ok (resultFor freshness now graded factor) := by
  have hitems : (itemsFor graded factor).mapM (weightedItem freshness now) =
      .ok ((itemsFor graded factor).map (weighting freshness now)) := by
    apply mapM_eq_ok
    intro o ho
    have hknown := h o (List.mem_filter.mp ho).1
    exact weightedItem_eq hknown.1 hknown.2 freshness now
  rw [assessFactor, itemsOf_pairsOf, hitems]
  rfl

theorem results_eq :
    (CorridorFactor.all.filter fun f => itemsOf (pairsOf graded) f ≠ []).mapM
      (assessFactor freshness now (pairsOf graded)) = .ok (resultsOf freshness now graded) := by
  simp only [itemsOf_pairsOf]
  exact mapM_eq_ok fun f _ => assessFactor_eq freshness now h f

end Fuse

/-- On known metrics fusion never fails. -/
theorem fuse_eq (freshness : Freshness) (assessmentId corridorId : String) (now : Instant)
    {valid : List Observation} (caveats : List String)
    (h : ∀ o ∈ valid, metricAssertions o.metric ≠ none) :
    fuse freshness assessmentId corridorId now valid caveats =
      .ok (report assessmentId corridorId valid caveats
        (pairsOf (valid.filter fun o => !isContextOnly o))
        (resultsOf freshness now (valid.filter fun o => !isContextOnly o))) := by
  have hgraded : ∀ o ∈ valid.filter (fun o => !isContextOnly o),
      metricAssertions o.metric ≠ none ∧ isContextOnly o = false := by
    intro o ho
    rw [List.mem_filter] at ho
    exact ⟨h o ho.1, by simpa using ho.2⟩
  have hgroup : group valid = .ok (pairsOf (valid.filter fun o => !isContextOnly o)) := by
    apply mapM_eq_ok
    intro o ho
    rw [lookupFactor_eq (hgraded o ho).1 (hgraded o ho).2]
    rfl
  have hresults := results_eq freshness now hgraded
  simp only [fuse, hgroup, bind, Except.bind, hresults]
  rfl

section Screening
variable (now : Instant)

theorem screenOne_of_valid {o : Observation} (h : validateObservationSource o = .ok ()) :
    ∃ excluded, screenOne now o = .ok excluded ∧ (excluded = none ↔ ¬ Excluded now o) := by
  have hage := lookupMaxAge_eq (metricAssertions_of_valid h)
  simp only [screenOne, h, hage, bind, Except.bind, pure, Except.pure, Excluded]
  split_ifs with h1 h2 h3
  · exact ⟨_, rfl, by simp [h1]⟩
  · exact ⟨_, rfl, by simp [h2]⟩
  · exact ⟨_, rfl, by simp [h3]⟩
  · exact ⟨none, rfl, by simp [h1, h2, h3]⟩

/-- With valid sources the screen keeps exactly the observations not excluded. -/
theorem screen_of_valid {observations : List Observation}
    (h : ∀ o ∈ observations, validateObservationSource o = .ok ()) :
    ∃ caveats, screen now observations =
      .ok (observations.filter (fun o => ¬ Excluded now o), caveats) := by
  induction observations with
  | nil => exact ⟨[], rfl⟩
  | cons o l ih =>
    obtain ⟨caveats, hl⟩ := ih fun p hp => h p (List.mem_cons_of_mem o hp)
    obtain ⟨excluded, ho, hiff⟩ := screenOne_of_valid now (h o List.mem_cons_self)
    simp only [screen, ho, hl, bind, Except.bind, pure, Except.pure]
    cases excluded with
    | none => exact ⟨caveats, by simp [hiff.mp rfl]⟩
    | some caveat =>
      have hex : Excluded now o := by simpa using hiff
      exact ⟨caveat :: caveats, by simp [hex]⟩

/-- A screen that succeeds has validated every source. -/
theorem valid_of_screen {observations : List Observation} {result : List Observation × List String}
    (h : screen now observations = .ok result) :
    ∀ o ∈ observations, validateObservationSource o = .ok () := by
  induction observations generalizing result with
  | nil => simp
  | cons o l ih =>
    cases hvalid : validateObservationSource o with
    | error e =>
      simp [screen, screenOne, hvalid, bind, Except.bind] at h
    | ok u =>
      cases hone : screenOne now o with
      | error e => simp [screen, hone, bind, Except.bind] at h
      | ok excluded =>
        cases hl : screen now l with
        | error e => simp [screen, hone, hl, bind, Except.bind] at h
        | ok rest =>
          rw [List.forall_mem_cons]
          exact ⟨hvalid, ih hl⟩

end Screening

theorem gradedOf_eq (now : Instant) (observations : List Observation) :
    (observations.filter fun o => ¬ Excluded now o).filter (fun o => !isContextOnly o) =
      gradedOf now observations := by
  simp only [gradedOf, List.filter_filter, Graded]
  congr 1
  funext o
  by_cases hc : isContextOnly o = true
  · simp [hc]
  · simp [hc]

/-- Every source is valid and some observation is current. -/
def Admitted (now : Instant) (observations : List Observation) : Prop :=
  (∀ o ∈ observations, validateObservationSource o = .ok ()) ∧
    ∃ o ∈ observations, ¬ Excluded now o

section Assess
variable (freshness : Freshness) (assessmentId corridorId : String) (now : Instant)
  {observations : List Observation}

theorem assess_of_admitted (h : Admitted now observations) :
    ∃ caveats, assess freshness assessmentId corridorId now observations =
      .ok (report assessmentId corridorId (observations.filter fun o => ¬ Excluded now o) caveats
        (pairsOf (gradedOf now observations))
        (resultsOf freshness now (gradedOf now observations))) := by
  obtain ⟨hvalid, o, ho, hcurrent⟩ := h
  obtain ⟨caveats, hscreen⟩ := screen_of_valid now hvalid
  have hne : observations ≠ [] := List.ne_nil_of_mem ho
  have hkept : observations.filter (fun o => ¬ Excluded now o) ≠ [] :=
    List.ne_nil_of_mem (List.mem_filter.mpr ⟨ho, by simpa using hcurrent⟩)
  have hfuse := fuse_eq freshness assessmentId corridorId now caveats
    fun p hp => metricAssertions_of_valid
      (hvalid p (List.mem_filter (p := fun o => decide (¬ Excluded now o)).mp hp).1)
  rw [gradedOf_eq] at hfuse
  refine ⟨caveats, ?_⟩
  simp only [assess, if_neg hne, hscreen, bind, Except.bind, if_neg hkept, hfuse]

theorem admitted_of_assess {a : CorridorAssessment}
    (h : assess freshness assessmentId corridorId now observations = .ok a) :
    Admitted now observations := by
  unfold assess at h
  split_ifs at h with hne
  cases hscreen : screen now observations with
  | error e => simp [hscreen, bind, Except.bind] at h
  | ok result =>
    have hvalid := valid_of_screen now hscreen
    obtain ⟨caveats, hscreen'⟩ := screen_of_valid now hvalid
    refine ⟨hvalid, ?_⟩
    by_contra hnone
    push Not at hnone
    have hnil : observations.filter (fun o => ¬ Excluded now o) = [] :=
      List.filter_eq_nil_iff.mpr fun o ho => by simpa using hnone o ho
    simp only [hscreen', bind, Except.bind, if_pos hnil] at h
    cases h

/-- A successful assessment reports on the graded observations. -/
theorem assess_ok {a : CorridorAssessment}
    (h : assess freshness assessmentId corridorId now observations = .ok a) :
    ∃ caveats, a = report assessmentId corridorId
      (observations.filter fun o => ¬ Excluded now o) caveats
      (pairsOf (gradedOf now observations))
      (resultsOf freshness now (gradedOf now observations)) := by
  obtain ⟨caveats, hassess⟩ := assess_of_admitted freshness assessmentId corridorId now
    (admitted_of_assess freshness assessmentId corridorId now h)
  rw [hassess] at h
  exact ⟨caveats, (Except.ok.inj h).symm⟩

end Assess

end ContinuityOS.Fusion
