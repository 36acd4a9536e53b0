import ContinuityOS.Fusion.Summary
import Mathlib.Algebra.Order.Ring.Star
import Mathlib.Data.Rat.Star

/-! # Excluded evidence does not interfere

Excluded and context-only observations leave the graded observations as they
are, and every score is a function of these that ignores their order.
-/
namespace ContinuityOS.Fusion
open Library

section Permutations
variable {graded graded' : List Observation} (h : graded.Perm graded')
include h

theorem itemsFor_perm (factor : CorridorFactor) :
    (itemsFor graded factor).Perm (itemsFor graded' factor) := h.filter _

theorem presentFactors_perm : presentFactors graded = presentFactors graded' := by
  unfold presentFactors
  congr 1
  funext factor
  have hp := itemsFor_perm h factor
  have hiff : itemsFor graded factor = [] ↔ itemsFor graded' factor = [] :=
    ⟨fun he => (he ▸ hp).nil_eq.symm, fun he => (he ▸ hp).eq_nil⟩
  simp only [ne_eq, hiff]

theorem missingMetrics_perm : missingMetrics (pairsOf graded) = missingMetrics (pairsOf graded') := by
  have hmem : ∀ m, m ∈ (pairsOf graded).map (fun p => p.2.metric) ↔
      m ∈ (pairsOf graded').map (fun p => p.2.metric) :=
    fun m => (((h.map _).map _).mem_iff)
  simp only [missingMetrics, hmem]

theorem readings_perm (m : MetricName) : (readings graded m).Perm (readings graded' m) :=
  (h.filter _).map _

theorem allAtMost_readings_perm (m : MetricName) (bound : ℚ) :
    allAtMost (readings graded m) bound = allAtMost (readings graded' m) bound := by
  have hp := readings_perm h m
  rw [Bool.eq_iff_iff, allAtMost_iff, allAtMost_iff]
  constructor
  · rintro ⟨hne, hall⟩
    exact ⟨fun he => hne (he ▸ hp).eq_nil, fun v hv => hall v (hp.mem_iff.mpr hv)⟩
  · rintro ⟨hne, hall⟩
    exact ⟨fun he => hne (he ▸ hp).nil_eq.symm, fun v hv => hall v (hp.mem_iff.mp hv)⟩

theorem classify_perm (risk : ℚ) :
    classify risk (pairsOf graded) = classify risk (pairsOf graded') := by
  simp only [classify, valuesOf_pairsOf _ (show metricToFactor .portAvailability = _ from rfl),
    valuesOf_pairsOf _ (show metricToFactor .insuranceAvailability = _ from rfl),
    valuesOf_pairsOf _ (show metricToFactor .satcomAvailability = _ from rfl),
    valuesOf_pairsOf _ (show metricToFactor .portCapacity = _ from rfl),
    allAtMost_readings_perm h]

theorem scores_perm (freshness : Freshness) (now : Instant) (factor : CorridorFactor) :
    (resultFor freshness now graded factor).scores =
      (resultFor freshness now graded' factor).scores := by
  have hp := (itemsFor_perm h factor).map (weighting freshness now)
  have hpairs : (scorePairs ((itemsFor graded factor).map (weighting freshness now))).Perm
      (scorePairs ((itemsFor graded' factor).map (weighting freshness now))) := hp.map _
  have hrisk : (resultFor freshness now graded factor).risk =
      (resultFor freshness now graded' factor).risk :=
    Subtype.ext (weightedMean_perm (1 / 2) hpairs)
  have htotal : totalWeight (scorePairs ((itemsFor graded factor).map (weighting freshness now))) =
      totalWeight (scorePairs ((itemsFor graded' factor).map (weighting freshness now))) :=
    (hpairs.map Prod.snd).sum_eq
  have hconfidence : (resultFor freshness now graded factor).confidence =
      (resultFor freshness now graded' factor).confidence := by
    simp only [resultFor, factorConfidence, htotal, hp.length_eq]
  rw [FactorResult.scores, FactorResult.scores, hrisk, hconfidence]
  rfl

theorem resultsOf_scores_perm (freshness : Freshness) (now : Instant) :
    (resultsOf freshness now graded).map FactorResult.scores =
      (resultsOf freshness now graded').map FactorResult.scores := by
  rw [resultsOf, resultsOf, presentFactors_perm h, List.map_map, List.map_map]
  congr 1
  funext factor
  exact scores_perm h freshness now factor

end Permutations

section Scores
variable {results results' : List FactorResult}
  (h : results.map FactorResult.scores = results'.map FactorResult.scores)
include h

theorem map_eq_of_scores {α : Type*} (f : CorridorFactor × Score × Score → α) :
    results.map (fun r => f r.scores) = results'.map (fun r => f r.scores) := by
  have := congrArg (List.map f) h
  simpa [List.map_map, Function.comp_def] using this

theorem baseRisk_eq_of_scores : baseRisk results = baseRisk results' :=
  congrArg (weightedMean (1 / 2)) (map_eq_of_scores h fun s => (s.2.1.val, factorWeight s.1))

theorem confidences_eq_of_scores :
    results.map FactorResult.confidence = results'.map FactorResult.confidence :=
  map_eq_of_scores h fun s => s.2.2

theorem overallRisk_eq_of_scores (missing : List MetricName) :
    overallRisk results missing = overallRisk results' missing := by
  apply Subtype.ext
  simp only [overallRisk, baseRisk_eq_of_scores h,
    lowConfidencePenalty_congr (confidences_eq_of_scores h)]

theorem overallConfidence_eq_of_scores (missing : List MetricName) :
    overallConfidence results missing = overallConfidence results' missing := by
  apply Subtype.ext
  simp only [overallConfidence, meanConfidence_congr (confidences_eq_of_scores h)]

end Scores

theorem factors_scores (results : List FactorResult) :
    (sortedBy (fun f => f.factor.value) (results.map FactorResult.assessment)).map
        (fun f => (f.factor, f.risk, f.confidence)) =
      sortedBy (fun t => t.1.value)
        (results.map fun r => (r.factor, r.risk.rounded 6, r.confidence.rounded 6)) := by
  unfold sortedBy
  rw [List.map_insertionSort _ (fun a b : CorridorFactor × Score × Score => a.1.value ≤ b.1.value) _ _
    (fun _ _ _ _ => Iff.rfl), List.map_map]
  rfl

theorem gradedOf_inert {now : Instant} {inserted : List Observation}
    (h : ∀ o ∈ inserted, Excluded now o ∨ isContextOnly o = true) : gradedOf now inserted = [] := by
  rw [gradedOf, List.filter_eq_nil_iff]
  intro o ho
  rcases h o ho with hex | hc
  · simp [Graded, hex]
  · simp [Graded, hc]

/-- Inserting excluded or context-only observations and reordering the list
changes none of the scores. -/
theorem assess_noninterference (freshness : Freshness) (assessmentId corridorId : String)
    (now : Instant) {observations inserted combined : List Observation} {a : CorridorAssessment}
    (h : assess freshness assessmentId corridorId now observations = .ok a)
    (hvalid : ∀ o ∈ inserted, validateObservationSource o = .ok ())
    (hinert : ∀ o ∈ inserted, Excluded now o ∨ isContextOnly o = true)
    (hperm : combined.Perm (observations ++ inserted)) :
    ∃ b, assess freshness assessmentId corridorId now combined = .ok b ∧
      b.overallRisk = a.overallRisk ∧ b.confidence = a.confidence ∧ b.state = a.state ∧
      b.missingRequiredMetrics = a.missingRequiredMetrics ∧
      b.factors.map (fun f => (f.factor, f.risk, f.confidence)) =
        a.factors.map (fun f => (f.factor, f.risk, f.confidence)) := by
  obtain ⟨hsources, current, hmem, hcurrent⟩ :=
    admitted_of_assess freshness assessmentId corridorId now h
  have hadmitted : Admitted now combined := by
    refine ⟨fun o ho => ?_, current, hperm.mem_iff.mpr (List.mem_append_left _ hmem), hcurrent⟩
    exact (List.mem_append.mp (hperm.mem_iff.mp ho)).elim (hsources o) (hvalid o)
  have hgraded : (gradedOf now combined).Perm (gradedOf now observations) := by
    have hp : (gradedOf now combined).Perm (gradedOf now (observations ++ inserted)) :=
      hperm.filter _
    have happend : gradedOf now (observations ++ inserted) =
        gradedOf now observations ++ gradedOf now inserted := List.filter_append ..
    rwa [happend, gradedOf_inert hinert, List.append_nil] at hp
  obtain ⟨caveats, rfl⟩ := assess_ok freshness assessmentId corridorId now h
  obtain ⟨caveats', hcombined⟩ := assess_of_admitted freshness assessmentId corridorId now hadmitted
  have hscores := resultsOf_scores_perm hgraded freshness now
  have hmissing := missingMetrics_perm hgraded
  refine ⟨_, hcombined, ?_, ?_, ?_, hmissing, ?_⟩
  · simp only [report, hmissing, overallRisk_eq_of_scores hscores]
  · simp only [report, hmissing, overallConfidence_eq_of_scores hscores]
  · simp only [report, hmissing, overallRisk_eq_of_scores hscores, classify_perm hgraded]
  · simp only [report, factors_scores]
    exact congrArg _
      (map_eq_of_scores hscores fun s => (s.1, s.2.1.rounded 6, s.2.2.rounded 6))

/-- An ice reading taken at the given time. -/
def iceReading (id : String) (observedAt : Instant) : Observation where
  observationId := id
  sourceId := "eccc-geomet"
  sourceTrust := .authoritativePublic
  assertionClass := .ice
  metric := .seaIceConcentration
  value := 1 / 2
  unit := "fraction"
  observedAt := observedAt
  confidence := Score.one
  validValue := by with_unfolding_all decide
  ordered := ordered_none observedAt

theorem iceReading_valid (id : String) (observedAt : Instant) :
    validateObservationSource (iceReading id observedAt) = .ok () := by
  rfl

theorem iceReading_admitted : Admitted 0 [iceReading "current" 0] :=
  ⟨by simpa using iceReading_valid "current" 0, _, List.mem_singleton.mpr rfl, by with_unfolding_all decide⟩

theorem assess_noninterference_future :
    ∃ a b, assess (fun _ _ _ => ⟨1, by norm_num⟩) "assessment" "corridor" 0
        [iceReading "current" 0] = .ok a ∧
      assess (fun _ _ _ => ⟨1, by norm_num⟩) "assessment" "corridor" 0
        [iceReading "future" 1, iceReading "current" 0] = .ok b ∧
      b.overallRisk = a.overallRisk ∧ b.state = a.state := by
  obtain ⟨caveats, ha⟩ := assess_of_admitted (fun _ _ _ => ⟨1, by norm_num⟩) "assessment"
    "corridor" 0 iceReading_admitted
  have hvalid : ∀ o ∈ [iceReading "future" 1], validateObservationSource o = .ok () :=
    List.forall_mem_singleton.mpr (iceReading_valid "future" 1)
  have hinert : ∀ o ∈ [iceReading "future" 1], Excluded 0 o ∨ isContextOnly o = true :=
    List.forall_mem_singleton.mpr (by decide)
  obtain ⟨b, hb, hrisk, -, hstate, -⟩ := assess_noninterference _ _ _ _ ha hvalid hinert
    (List.Perm.swap _ _ _)
  exact ⟨_, b, ha, hb, hrisk, hstate⟩

end ContinuityOS.Fusion
