import ContinuityOS.Fusion.Summary
import ContinuityOS.Library.DecisionList
import Mathlib.Algebra.Order.Ring.Star
import Mathlib.Data.Rat.Star

/-! # Fusion is monotone in risk

A riskier reading raises its factor, so the weighted mean and the overall risk,
and lowers the raw value that the classifier compares. Confidence and presence do
not depend on the value.
-/
namespace ContinuityOS.Fusion
open Library

/-- The metrics whose raw values the classifier reads. -/
def classifierMetrics : List MetricName :=
  [.portAvailability, .insuranceAvailability, .satcomAvailability, .portCapacity]

/-- The same reading with a risk at least as high. -/
structure Riskier (o o' : Observation) : Prop where
  metric : o'.metric = o.metric
  observedAt : o'.observedAt = o.observedAt
  validUntil : o'.validUntil = o.validUntil
  confidence : o'.confidence = o.confidence
  risk : (riskOf o).val ≤ (riskOf o').val
  value : o.metric ∈ classifierMetrics → o'.value ≤ o.value

theorem Riskier.refl (o : Observation) : Riskier o o :=
  ⟨rfl, rfl, rfl, rfl, le_rfl, fun _ => le_rfl⟩

theorem bounded_mono {x y : ℚ} (h : x ≤ y) : (bounded x).val ≤ (bounded y).val :=
  min_le_min le_rfl (max_le_max le_rfl h)

theorem metricRisk_ok {o : Observation} {r : Score} (h : metricRisk o = .ok r) : riskOf o = r := by
  unfold metricRisk at h
  cases hf : transform o.metric with
  | none => simp [hf] at h
  | some f =>
    rw [hf] at h
    simp [riskOf, hf, Except.ok.inj h]

/-- A strictly higher risk is a lower value of a classifier metric. -/
theorem value_le_of_risk_lt {o o' : Observation} (hmetric : o'.metric = o.metric)
    (h : (riskOf o).val < (riskOf o').val) (hm : o.metric ∈ classifierMetrics) :
    o'.value ≤ o.value := by
  have htransform : transform o.metric = some (fun x => 1 - x) := by
    simp only [classifierMetrics, List.mem_cons, List.not_mem_nil, or_false] at hm
    rcases hm with hm | hm | hm | hm <;> rw [hm] <;> rfl
  by_contra hlt
  rw [not_le] at hlt
  have hle : (bounded (1 - o'.value)).val ≤ (bounded (1 - o.value)).val :=
    bounded_mono (by linarith)
  simp only [riskOf, hmetric, htransform, Option.getD_some] at h
  exact absurd h (not_lt.mpr hle)

section Observations
variable {o o' : Observation} (h : Riskier o o')
include h

theorem Riskier.graded_iff (now : Instant) : Graded now o ↔ Graded now o' := by
  simp only [Graded, Excluded, isExpired, ageHours, maxAge, isContextOnly, h.metric, h.observedAt,
    h.validUntil]

theorem Riskier.factorOf_eq : factorOf o' = factorOf o := by
  simp only [factorOf, h.metric]

theorem Riskier.weight_eq (freshness : Freshness) (now : Instant) :
    (weighting freshness now o).2 = (weighting freshness now o').2 := by
  simp only [weighting, maxAge, h.metric, h.observedAt, h.confidence]

end Observations

section Lists
variable {l l' : List Observation} (h : List.Forall₂ Riskier l l')
include h

theorem forall₂_gradedOf (now : Instant) :
    List.Forall₂ Riskier (gradedOf now l) (gradedOf now l') :=
  List.rel_filter (fun _ _ ho => by simpa using ho.graded_iff now) h

theorem forall₂_itemsFor (factor : CorridorFactor) :
    List.Forall₂ Riskier (itemsFor l factor) (itemsFor l' factor) :=
  List.rel_filter (fun _ _ ho => by simp [ho.factorOf_eq]) h

theorem presentFactors_riskier : presentFactors l = presentFactors l' := by
  unfold presentFactors
  congr 1
  funext factor
  have hlen := (forall₂_itemsFor h factor).length_eq
  simp only [ne_eq, ← List.length_eq_zero_iff, hlen]

theorem metrics_riskier : l.map Observation.metric = l'.map Observation.metric := by
  induction h with
  | nil => rfl
  | cons ho _ ih => rw [List.map_cons, List.map_cons, ho.metric, ih]

theorem missingMetrics_riskier : missingMetrics (pairsOf l) = missingMetrics (pairsOf l') := by
  have hpairs : (pairsOf l).map (fun p => p.2.metric) = (pairsOf l').map (fun p => p.2.metric) := by
    simpa [pairsOf, List.map_map, Function.comp_def] using metrics_riskier h
  rw [missingMetrics, missingMetrics, hpairs]

theorem dominated_weighting (freshness : Freshness) (now : Instant) :
    Dominated (scorePairs (l.map (weighting freshness now)))
      (scorePairs (l'.map (weighting freshness now))) := by
  induction h with
  | nil => exact List.Forall₂.nil
  | cons ho _ ih => exact List.Forall₂.cons ⟨ho.risk, congrArg Subtype.val (ho.weight_eq freshness now)⟩ ih

/-- Readings of a classifier metric only go down. -/
theorem forall₂_readings {m : MetricName} (hm : m ∈ classifierMetrics) :
    List.Forall₂ (fun v v' => v' ≤ v) (readings l m) (readings l' m) := by
  unfold readings
  induction h with
  | nil => exact List.Forall₂.nil
  | @cons o o' l l' ho _ ih =>
    by_cases hom : o.metric = m
    · have hle : o'.value ≤ o.value := ho.value (hom ▸ hm)
      simpa [hom, ho.metric, hle] using ih
    · simpa [hom, ho.metric] using ih

theorem allAtMost_readings {m : MetricName} (hm : m ∈ classifierMetrics) {bound : ℚ}
    (hall : allAtMost (readings l m) bound = true) : allAtMost (readings l' m) bound = true := by
  have hread := forall₂_readings h hm
  rw [allAtMost_iff] at hall ⊢
  refine ⟨fun he => hall.1 ?_, fun v' hv' => ?_⟩
  · rw [he] at hread
    exact List.forall₂_nil_right_iff.mp hread
  · obtain ⟨i, hi, rfl⟩ := List.getElem_of_mem hv'
    have hi' : i < (readings l m).length := hread.length_eq ▸ hi
    exact (hread.get hi' hi).trans (hall.2 _ (List.getElem_mem hi'))

end Lists

section Results
variable {l l' : List Observation} (h : List.Forall₂ Riskier l l') (freshness : Freshness)
  (now : Instant)
include h

theorem resultFor_risk_le (factor : CorridorFactor) :
    (resultFor freshness now l factor).risk.val ≤ (resultFor freshness now l' factor).risk.val :=
  (dominated_weighting (forall₂_itemsFor h factor) freshness now).weightedMean_le (1 / 2)
    (scorePairs_weight _)

theorem resultFor_confidence_eq (factor : CorridorFactor) :
    (resultFor freshness now l factor).confidence =
      (resultFor freshness now l' factor).confidence := by
  have hitems := forall₂_itemsFor h factor
  simp only [resultFor, factorConfidence,
    (dominated_weighting hitems freshness now).totalWeight_eq, List.length_map, hitems.length_eq]

theorem confidences_riskier : (resultsOf freshness now l).map FactorResult.confidence =
    (resultsOf freshness now l').map FactorResult.confidence := by
  simp only [resultsOf, presentFactors_riskier h, List.map_map]
  congr 1
  funext factor
  exact resultFor_confidence_eq h freshness now factor

theorem baseRisk_le : baseRisk (resultsOf freshness now l) ≤ baseRisk (resultsOf freshness now l') := by
  apply Dominated.weightedMean_le _ _ (factorItems_weight _)
  simp only [factorItems, resultsOf, presentFactors_riskier h, List.map_map, Dominated]
  rw [List.forall₂_map_left_iff, List.forall₂_map_right_iff, List.forall₂_same]
  exact fun factor _ => ⟨resultFor_risk_le h freshness now factor, rfl⟩

theorem overallRisk_le (missing : List MetricName) :
    (overallRisk (resultsOf freshness now l) missing).val ≤
      (overallRisk (resultsOf freshness now l') missing).val := by
  have hbase := baseRisk_le h freshness now
  have hlow := lowConfidencePenalty_congr (confidences_riskier h freshness now)
  exact min_le_min le_rfl (by linarith)

theorem overallConfidence_riskier (missing : List MetricName) :
    overallConfidence (resultsOf freshness now l) missing =
      overallConfidence (resultsOf freshness now l') missing := by
  apply Subtype.ext
  simp only [overallConfidence, meanConfidence_congr (confidences_riskier h freshness now)]

end Results

/-- The states in the order in which the classifier returns them. -/
def stateOrder : List CorridorState :=
  [.physicallyClosed, .functionallyClosed, .openButUninsurable, .openButCommunicationsDegraded,
    .openCapacityConstrained, .openDegraded, .opened]

def statePlace (s : CorridorState) : ℕ := stateOrder.idxOf s

/-- The tests of the classifier on the graded observations. -/
def classifierTests (risk : ℚ) (graded : List Observation) : List Bool :=
  [allAtMost (readings graded .portAvailability) (1 / 100),
    decide (72 / 100 ≤ risk),
    allAtMost (readings graded .insuranceAvailability) (1 / 10),
    allAtMost (readings graded .satcomAvailability) (2 / 10),
    allAtMost (readings graded .portCapacity) (15 / 100),
    decide (38 / 100 ≤ risk)]

theorem classify_eq (risk : ℚ) (graded : List Observation) :
    classify risk (pairsOf graded) =
      stateOrder.getD (firstTrue (classifierTests risk graded)) .opened := by
  simp only [classifierTests, stateOrder, getD_firstTrue_cons, classify, decide_eq_true_eq,
    valuesOf_pairsOf _ (show metricToFactor .portAvailability = _ from rfl),
    valuesOf_pairsOf _ (show metricToFactor .insuranceAvailability = _ from rfl),
    valuesOf_pairsOf _ (show metricToFactor .satcomAvailability = _ from rfl),
    valuesOf_pairsOf _ (show metricToFactor .portCapacity = _ from rfl)]
  rfl

theorem statePlace_classify (risk : ℚ) (graded : List Observation) :
    statePlace (classify risk (pairsOf graded)) = firstTrue (classifierTests risk graded) := by
  have hplace : ∀ i : Fin 7, statePlace (stateOrder.getD i .opened) = i := by decide
  have hlen : firstTrue (classifierTests risk graded) ≤ 6 := firstTrue_le_length _
  rw [classify_eq]
  exact hplace ⟨firstTrue (classifierTests risk graded), by omega⟩

theorem statePlace_le {risk risk' : ℚ} (hrisk : risk ≤ risk') {l l' : List Observation}
    (h : List.Forall₂ Riskier l l') :
    statePlace (classify risk' (pairsOf l')) ≤ statePlace (classify risk (pairsOf l)) := by
  rw [statePlace_classify, statePlace_classify]
  apply firstTrue_le (by rfl)
  intro i hi
  refine ⟨i, le_rfl, ?_⟩
  have hlt : i < 6 := (List.getElem?_eq_some_iff.mp hi).1
  interval_cases i <;>
    simp only [classifierTests, List.getElem?_cons_zero, List.getElem?_cons_succ,
      Option.some.injEq, decide_eq_true_eq] at hi ⊢
  · exact allAtMost_readings h (by decide) hi
  · exact hi.trans hrisk
  · exact allAtMost_readings h (by decide) hi
  · exact allAtMost_readings h (by decide) hi
  · exact allAtMost_readings h (by decide) hi
  · exact hi.trans hrisk

/-- A reading of strictly higher risk in the place of another never lowers the
overall risk, never improves the state, and changes neither confidence nor the
missing metrics. -/
theorem assess_monotone (freshness : Freshness) (assessmentId corridorId : String)
    (now : Instant) {before after : List Observation} {o o' : Observation} {r r' : Score}
    {a : CorridorAssessment}
    (h : assess freshness assessmentId corridorId now (before ++ o :: after) = .ok a)
    (hvalid : validateObservationSource o' = .ok ())
    (hmetric : o'.metric = o.metric) (hobserved : o'.observedAt = o.observedAt)
    (huntil : o'.validUntil = o.validUntil) (hconfidence : o'.confidence = o.confidence)
    (hr : metricRisk o = .ok r) (hr' : metricRisk o' = .ok r') (hlt : r.val < r'.val) :
    ∃ b, assess freshness assessmentId corridorId now (before ++ o' :: after) = .ok b ∧
      a.overallRisk.val ≤ b.overallRisk.val ∧ b.confidence = a.confidence ∧
      b.missingRequiredMetrics = a.missingRequiredMetrics ∧
      statePlace b.state ≤ statePlace a.state := by
  rw [← metricRisk_ok hr, ← metricRisk_ok hr'] at hlt
  have hriskier : Riskier o o' :=
    ⟨hmetric, hobserved, huntil, hconfidence, hlt.le, value_le_of_risk_lt hmetric hlt⟩
  have hlists : List.Forall₂ Riskier (before ++ o :: after) (before ++ o' :: after) :=
    List.rel_append (List.forall₂_same.mpr fun p _ => Riskier.refl p)
      (List.Forall₂.cons hriskier (List.forall₂_same.mpr fun p _ => Riskier.refl p))
  have hadmitted : Admitted now (before ++ o' :: after) := by
    obtain ⟨hsources, current, hmem, hcurrent⟩ :=
      admitted_of_assess freshness assessmentId corridorId now h
    have hexcluded : Excluded now o' ↔ Excluded now o := by
      simp only [Excluded, isExpired, ageHours, maxAge, hmetric, hobserved, huntil]
    refine ⟨fun p hp => ?_, ?_⟩
    · rcases List.mem_append.mp hp with hb | ha
      · exact hsources p (List.mem_append_left _ hb)
      · rcases List.mem_cons.mp ha with rfl | ha
        · exact hvalid
        · exact hsources p (List.mem_append_right _ (List.mem_cons_of_mem o ha))
    · rcases List.mem_append.mp hmem with hb | ha
      · exact ⟨current, List.mem_append_left _ hb, hcurrent⟩
      · rcases List.mem_cons.mp ha with rfl | ha
        · exact ⟨o', List.mem_append_right _ List.mem_cons_self, mt hexcluded.mp hcurrent⟩
        · exact ⟨current, List.mem_append_right _ (List.mem_cons_of_mem o' ha), hcurrent⟩
  have hgraded := forall₂_gradedOf hlists now
  have hmissing := missingMetrics_riskier hgraded
  obtain ⟨caveats, rfl⟩ := assess_ok freshness assessmentId corridorId now h
  obtain ⟨caveats', hb⟩ := assess_of_admitted freshness assessmentId corridorId now hadmitted
  refine ⟨_, hb, ?_, ?_, hmissing.symm, ?_⟩
  · simp only [report, ← hmissing]
    exact roundDigits_mono 6 (overallRisk_le hgraded freshness now _)
  · simp only [report, ← hmissing, overallConfidence_riskier hgraded freshness now]
  · simp only [report, ← hmissing]
    exact statePlace_le (overallRisk_le hgraded freshness now _) hgraded

/-- A port reading at time zero with the given availability. -/
def portReading (value : ℚ) (h : ValidValue .portAvailability "ratio" value) : Observation where
  observationId := "port"
  sourceId := "operator-telemetry"
  sourceTrust := .authenticatedOperator
  assertionClass := .liveAvailability
  metric := .portAvailability
  value := value
  unit := "ratio"
  observedAt := 0
  confidence := Score.one
  validValue := h
  ordered := ordered_none_zero

theorem portReading_valid (value : ℚ) (h : ValidValue .portAvailability "ratio" value) :
    validateObservationSource (portReading value h) = .ok () := by
  rfl

def integrityReading : Observation where
  observationId := "integrity"
  sourceId := "operator-telemetry"
  sourceTrust := .authenticatedOperator
  assertionClass := .cyberHealth
  metric := .dataIntegrity
  value := 9 / 10
  unit := "ratio"
  observedAt := 0
  confidence := Score.half
  validValue := by with_unfolding_all decide
  ordered := ordered_none_zero

def escortReading : Observation where
  observationId := "escort"
  sourceId := "operator-telemetry"
  sourceTrust := .authenticatedOperator
  assertionClass := .liveCapacity
  metric := .escortCapacity
  value := 3 / 10
  unit := "ratio"
  observedAt := 0
  confidence := Score.one
  validValue := by with_unfolding_all decide
  ordered := ordered_none_zero

/-- A port reading between two of other metrics. -/
theorem portReadings_admitted (value : ℚ) (h : ValidValue .portAvailability "ratio" value) :
    Admitted 0 ([integrityReading] ++ portReading value h :: [escortReading]) := by
  refine ⟨fun o ho => ?_, portReading value h, by simp, by
    simp [Excluded, portReading, isExpired, ageHours, maxAge, maxAgeHours]⟩
  simp only [List.cons_append, List.nil_append, List.mem_cons, List.not_mem_nil, or_false] at ho
  rcases ho with rfl | rfl | rfl
  · rfl
  · exact portReading_valid value h
  · rfl

/-- The port goes from half to nothing while the other two readings stay. -/
theorem assess_monotone_port :
    ∃ a b, assess (fun _ _ _ => ⟨1, by norm_num⟩) "assessment" "corridor" 0
        ([integrityReading] ++ portReading (1 / 2) (by with_unfolding_all decide) ::
          [escortReading]) = .ok a ∧
      assess (fun _ _ _ => ⟨1, by norm_num⟩) "assessment" "corridor" 0
        ([integrityReading] ++ portReading 0 (by decide) :: [escortReading]) = .ok b ∧
      a.overallRisk.val ≤ b.overallRisk.val ∧ b.confidence = a.confidence ∧
      b.missingRequiredMetrics = a.missingRequiredMetrics ∧
      statePlace b.state ≤ statePlace a.state := by
  obtain ⟨caveats, ha⟩ := assess_of_admitted (fun _ _ _ => ⟨1, by norm_num⟩) "assessment"
    "corridor" 0 (portReadings_admitted (1 / 2) (by with_unfolding_all decide))
  have hlt : (bounded (1 - 1 / 2)).val < (bounded (1 - 0)).val := by with_unfolding_all decide
  obtain ⟨b, hb, hworse⟩ := assess_monotone _ _ _ _ ha (portReading_valid 0 (by decide)) rfl rfl
    rfl rfl rfl rfl hlt
  exact ⟨_, b, ha, hb, hworse⟩

end ContinuityOS.Fusion
