import ContinuityOS.Fusion.Policy
import ContinuityOS.Library.WeightedMean

/-! # The fusion engine

Observations are screened one by one, the current ones are grouped by factor, and
the weighted factor risks with two penalties give the overall risk. How a reading
ages is a parameter.
-/
namespace ContinuityOS.Fusion
open Library

/-- The share of confidence an observation keeps at its age. -/
abbrev Freshness := Instant → Instant → ℚ → {q : ℚ // 0 < q ∧ q ≤ 1}

def ageHours (now : Instant) (o : Observation) : ℚ := ((now - o.observedAt : ℤ) : ℚ) / 3600000000

def isExpired (now : Instant) (o : Observation) : Bool := o.validUntil.any fun t => t < now

/-- The caveat of an observation that is excluded, after its source is validated. -/
def screenOne (now : Instant) (o : Observation) : Except AssessError (Option String) := do
  validateObservationSource o
  if now < o.observedAt then
    pure (some ("future observation excluded: " ++ o.observationId))
  else if isExpired now o then
    pure (some ("expired observation excluded: " ++ o.observationId))
  else
    let maximumAge ← lookupMaxAge o
    if maximumAge < ageHours now o then
      pure (some ("stale observation excluded: " ++ o.observationId ++ " (" ++
        fixedPoint 1 (ageHours now o) ++ "h > " ++ fixedPoint 1 maximumAge ++ "h)"))
    else pure none

/-- The current observations and the caveats of the others. -/
def screen (now : Instant) : List Observation → Except AssessError (List Observation × List String)
  | [] => pure ([], [])
  | o :: l => do
    let excluded ← screenOne now o
    let (valid, caveats) ← screen now l
    match excluded with
    | some caveat => pure (valid, caveat :: caveats)
    | none => pure (o :: valid, caveats)

def isContextOnly (o : Observation) : Bool := o.metric ∈ contextOnlyMetrics

/-- Observations of the metrics that count, each with its factor. -/
def group (valid : List Observation) : Except AssessError (List (CorridorFactor × Observation)) :=
  (valid.filter fun o => !isContextOnly o).mapM fun o => do
    let factor ← lookupFactor o
    pure (factor, o)

def itemsOf (grouped : List (CorridorFactor × Observation)) (factor : CorridorFactor) :
    List Observation :=
  (grouped.filter fun p => p.1 = factor).map Prod.snd

def missingMetrics (grouped : List (CorridorFactor × Observation)) : List MetricName :=
  sortedBy MetricName.value
    (requiredMetrics.filter fun m => m ∉ grouped.map fun p => p.2.metric)

structure FactorResult where
  factor : CorridorFactor
  risk : Score
  confidence : Score
  items : List Observation

/-- Risk and effective confidence of one observation. -/
def weightedItem (freshness : Freshness) (now : Instant) (o : Observation) :
    Except AssessError (Score × Score) := do
  let hours ← lookupMaxAge o
  let kept := freshness o.observedAt now hours
  let risk ← metricRisk o
  pure (risk, ⟨o.confidence.val * kept.val, mul_nonneg o.confidence.nonneg kept.property.1.le,
    mul_le_one₀ o.confidence.le_one kept.property.1.le kept.property.2⟩)

def scorePairs (weighted : List (Score × Score)) : List (ℚ × ℚ) :=
  weighted.map fun p => (p.1.val, p.2.val)

theorem scorePairs_weight (weighted : List (Score × Score)) :
    ∀ i ∈ scorePairs weighted, 0 ≤ i.2 := by
  simp only [scorePairs, List.forall_mem_map]
  exact fun p _ => p.2.nonneg

/-- One half when no item carries confidence. -/
def factorRisk (weighted : List (Score × Score)) : Score :=
  ⟨weightedMean (1 / 2) (scorePairs weighted),
    le_weightedMean (scorePairs_weight weighted) (by norm_num)
      (by simp only [scorePairs, List.forall_mem_map]; exact fun p _ => p.1.nonneg),
    weightedMean_le (scorePairs_weight weighted) (by norm_num)
      (by simp only [scorePairs, List.forall_mem_map]; exact fun p _ => p.1.le_one)⟩

def factorConfidence (weighted : List (Score × Score)) : Score :=
  if totalWeight (scorePairs weighted) = 0 then ⟨0, Score.zero_mem⟩
  else ⟨min 1 (totalWeight (scorePairs weighted) / weighted.length),
    le_min zero_le_one (div_nonneg (totalWeight_nonneg (scorePairs_weight weighted)) (by simp)),
    min_le_left _ _⟩

def assessFactor (freshness : Freshness) (now : Instant)
    (grouped : List (CorridorFactor × Observation)) (factor : CorridorFactor) :
    Except AssessError FactorResult := do
  let weighted ← (itemsOf grouped factor).mapM (weightedItem freshness now)
  pure { factor := factor, risk := factorRisk weighted, confidence := factorConfidence weighted
         items := itemsOf grouped factor }

def rationale (factor : CorridorFactor) (items : List Observation) (risk : ℚ) : String :=
  factor.value ++ " risk " ++ fixedPoint 3 risk ++ " derived from " ++
    ", ".intercalate (sortedSet (items.map fun o => o.metric.value).toFinset)

def FactorResult.assessment (r : FactorResult) : FactorAssessment where
  factor := r.factor
  risk := r.risk.rounded 6
  confidence := r.confidence.rounded 6
  evidenceIds := r.items.map Observation.observationId
  rationale := rationale r.factor r.items r.risk.val

/-- Mean confidence of the factors, zero when there are none. -/
def meanConfidence (results : List FactorResult) : ℚ :=
  if results = [] then 0
  else (results.map fun r => r.confidence.val).sum / results.length

theorem meanConfidence_le_one (results : List FactorResult) : meanConfidence results ≤ 1 := by
  unfold meanConfidence
  split_ifs with hnil
  · exact zero_le_one
  · have hpos : (0 : ℚ) < results.length := by exact_mod_cast List.length_pos_iff.mpr hnil
    rw [div_le_one hpos]
    simpa using List.sum_le_card_nsmul (results.map fun r => r.confidence.val) 1
      (List.forall_mem_map.mpr fun r _ => r.confidence.le_one)

def factorItems (results : List FactorResult) : List (ℚ × ℚ) :=
  results.map fun r => (r.risk.val, factorWeight r.factor)

theorem factorItems_weight (results : List FactorResult) :
    ∀ i ∈ factorItems results, 0 ≤ i.2 :=
  List.forall_mem_map.mpr fun r _ => (factorWeight_pos r.factor).le

def baseRisk (results : List FactorResult) : ℚ := weightedMean (1 / 2) (factorItems results)

theorem baseRisk_nonneg (results : List FactorResult) : 0 ≤ baseRisk results :=
  le_weightedMean (factorItems_weight results) (by norm_num)
    (List.forall_mem_map.mpr fun r _ => r.risk.nonneg)

def missingPenalty (missing : List MetricName) : ℚ := min (1 / 4) (missing.length * (25 / 1000))

theorem missingPenalty_nonneg (missing : List MetricName) : 0 ≤ missingPenalty missing := by
  unfold missingPenalty
  positivity

def lowConfidencePenalty (results : List FactorResult) : ℚ :=
  if results = [] then 1 / 10 else (1 - meanConfidence results) * (1 / 10)

theorem lowConfidencePenalty_nonneg (results : List FactorResult) :
    0 ≤ lowConfidencePenalty results := by
  unfold lowConfidencePenalty
  split_ifs
  · norm_num
  · have := meanConfidence_le_one results
    linarith

def overallRisk (results : List FactorResult) (missing : List MetricName) : Score :=
  ⟨min 1 (baseRisk results + missingPenalty missing + lowConfidencePenalty results),
    le_min zero_le_one (add_nonneg (add_nonneg (baseRisk_nonneg results)
      (missingPenalty_nonneg missing)) (lowConfidencePenalty_nonneg results)),
    min_le_left _ _⟩

def overallConfidence (results : List FactorResult) (missing : List MetricName) : Score :=
  ⟨max 0 (meanConfidence results - missingPenalty missing), le_max_left _ _,
    max_le zero_le_one (by linarith [meanConfidence_le_one results, missingPenalty_nonneg missing])⟩

/-- There is a reading, and the largest is at most the bound. -/
def allAtMost (values : List ℚ) (bound : ℚ) : Bool :=
  match values with
  | [] => false
  | v :: vs => vs.foldl max v ≤ bound

def valuesOf (grouped : List (CorridorFactor × Observation)) (factor : CorridorFactor)
    (metric : MetricName) : List ℚ :=
  ((itemsOf grouped factor).filter fun o => o.metric = metric).map Observation.value

def classify (risk : ℚ) (grouped : List (CorridorFactor × Observation)) : CorridorState :=
  if allAtMost (valuesOf grouped .port .portAvailability) (1 / 100) then .physicallyClosed
  else if 72 / 100 ≤ risk then .functionallyClosed
  else if allAtMost (valuesOf grouped .commercial .insuranceAvailability) (1 / 10) then
    .openButUninsurable
  else if allAtMost (valuesOf grouped .communications .satcomAvailability) (2 / 10) then
    .openButCommunicationsDegraded
  else if allAtMost (valuesOf grouped .port .portCapacity) (15 / 100) then
    .openCapacityConstrained
  else if 38 / 100 ≤ risk then .openDegraded
  else .opened

def contextCaveat (valid : List Observation) : List String :=
  let context := valid.filter isContextOnly
  if context = [] then []
  else ["context-only metrics excluded from live operability score: " ++
    ", ".intercalate (sortedSet (context.map fun o => o.metric.value).toFinset)]

def missingCaveat (missing : List MetricName) : List String :=
  if missing = [] then []
  else ["required metrics absent: " ++ ", ".intercalate (missing.map MetricName.value)]

def closingCaveat : String :=
  "public geospatial, orbital and port datasets cannot establish live cyber, capacity, " ++
    "insurance or service availability"

def report (assessmentId corridorId : String) (valid : List Observation) (caveats : List String)
    (grouped : List (CorridorFactor × Observation)) (results : List FactorResult) :
    CorridorAssessment where
  assessmentId := assessmentId
  corridorId := corridorId
  overallRisk := (overallRisk results (missingMetrics grouped)).rounded 6
  confidence := (overallConfidence results (missingMetrics grouped)).rounded 6
  state := classify (overallRisk results (missingMetrics grouped)).val grouped
  factors := sortedBy (fun f => f.factor.value) (results.map FactorResult.assessment)
  missingRequiredMetrics := missingMetrics grouped
  caveats := caveats ++ contextCaveat valid ++ missingCaveat (missingMetrics grouped) ++
    [closingCaveat]

def fuse (freshness : Freshness) (assessmentId corridorId : String) (now : Instant)
    (valid : List Observation) (caveats : List String) :
    Except AssessError CorridorAssessment := do
  let grouped ← group valid
  let results ← (CorridorFactor.all.filter fun f => itemsOf grouped f ≠ []).mapM
    (assessFactor freshness now grouped)
  pure (report assessmentId corridorId valid caveats grouped results)

def assess (freshness : Freshness) (assessmentId corridorId : String) (now : Instant)
    (observations : List Observation) : Except AssessError CorridorAssessment :=
  if observations = [] then .error .noObservations
  else do
    let (valid, caveats) ← screen now observations
    if valid = [] then .error .noCurrentObservations
    else fuse freshness assessmentId corridorId now valid caveats

end ContinuityOS.Fusion
