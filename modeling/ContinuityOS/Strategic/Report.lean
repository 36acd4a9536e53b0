import ContinuityOS.Analysis.Regression
import ContinuityOS.Domain.Observation
import ContinuityOS.Library.Selection

/-! # The strategic report

Observations are grouped by metric into a heat map; the hot cells become alerts, and every alert a
recommendation. The exponential, the square root and the derivation of identifiers are parameters.
-/
namespace ContinuityOS.Strategic
open Library Analysis

structure StrategicAnalysisRequest where
  observations : List Observation
  regression : Option RegressionRequest := none
  alertThreshold : ℚ := 65 / 100
  freshnessHalfLifeHours : ℚ := 24
  coordinationScope : String := "operator-review"
  alertCooldownSeconds : ℕ := 900
  observationsLength : 1 ≤ observations.length ∧ observations.length ≤ 10000 := by decide
  alertThresholdRange : 0 ≤ alertThreshold ∧ alertThreshold ≤ 1 := by norm_num
  halfLifeRange : 0 < freshnessHalfLifeHours ∧ freshnessHalfLifeHours ≤ 720 := by norm_num
  coordinationScopeLength : 2 ≤ coordinationScope.length ∧
    coordinationScope.length ≤ 128 := by decide
  alertCooldownRange : 60 ≤ alertCooldownSeconds ∧ alertCooldownSeconds ≤ 86400 := by decide

structure HeatmapCell where
  dimension : String
  sourceIds : List String
  observationCount : ℕ
  latestValue : ℚ
  normalizedIntensity : ℚ
  confidence : ℚ
  freshness : ℚ
  heatScore : ℚ
  qualityFlags : List String
deriving DecidableEq

structure StrategicAlert where
  alertId : String
  alertKey : String
  dimension : String
  severity : String
  score : ℚ
  rationale : List String
  sourceIds : List String
  requiresHumanReview : Bool := true
  deliveryState : String := "ready"
  escalationDueAt : Option Instant := none
deriving DecidableEq

structure SourceFreshness where
  sourceId : String
  latestObservedAt : Instant
  ageHours : ℚ
  freshness : ℚ
  stale : Bool
deriving DecidableEq

structure CoordinationRecommendation where
  priority : ℕ
  scope : String
  action : String
  rationale : String
  approvalRequired : Bool := true
deriving DecidableEq

structure StrategicAnalysisReport where
  contractVersion : String := "continuityos.strategic-signal.v1"
  reportId : String
  generatedAt : Instant
  observationCount : ℕ
  windowStart : Instant
  windowEnd : Instant
  heatmap : List HeatmapCell
  alerts : List StrategicAlert
  coordination : List CoordinationRecommendation
  sourceFreshness : List SourceFreshness
  regression : Option RegressionResult := none
  predictiveStatus : String
  limitations : List String
deriving DecidableEq

def clamp (value : ℚ) : ℚ := max 0 (min 1 value)

/-- The first of the latest observations. -/
def newest (values : List Observation) : Option Observation :=
  values.foldl (keepBetter fun item best => decide (best.observedAt < item.observedAt)) none

/-- Hours from an observation's time to the end of the window; times are in microseconds. -/
def ageHours (latest observedAt : Instant) : ℚ :=
  max 0 (((latest - observedAt : ℤ) : ℚ) / 1000000 / 3600)

def decay (exp : ℚ → ℚ) (halfLifeHours age : ℚ) : ℚ :=
  exp (-age * (69314718056 / 100000000000) / halfLifeHours)

def sourcesOf (values : List Observation) : List String :=
  sortedSet (values.map Observation.sourceId).toFinset

def orderedObservations (request : StrategicAnalysisRequest) : List Observation :=
  sortedBy Observation.observedAt request.observations

/-- The time of an observation that may be missing; there always is one where this is used. -/
def timeOf (observation : Option Observation) : Instant :=
  (observation.map Observation.observedAt).getD 0

def sourceFreshness (exp : ℚ → ℚ) (halfLifeHours : ℚ) (ordered : List Observation)
    (latest : Instant) (sourceId : String) : SourceFreshness :=
  let sourceValues := ordered.filter fun item => decide (item.sourceId = sourceId)
  let latestObservedAt := timeOf (newest sourceValues)
  let age := ageHours latest latestObservedAt
  { sourceId := sourceId
    latestObservedAt := latestObservedAt
    ageHours := age
    freshness := decay exp halfLifeHours age
    stale := decide (halfLifeHours * 2 < age) }

/-- The cell of a metric with its observations in order. -/
def heatCell (exp : ℚ → ℚ) (halfLifeHours : ℚ) (latest : Instant) (dimension : String)
    (values : List Observation) : HeatmapCell :=
  let largest := (values.map fun item => |item.value|).max?.getD 0
  let maximum := if largest = 0 then 1 else largest
  let latestValue := ((newest values).map Observation.value).getD 0
  let freshness := decay exp halfLifeHours (ageHours latest (timeOf (newest values)))
  let intensity := clamp (|latestValue| / maximum)
  let confidence := clamp ((values.map fun item => item.confidence.val).sum / values.length)
  { dimension := dimension
    sourceIds := sourcesOf values
    observationCount := values.length
    latestValue := latestValue
    normalizedIntensity := intensity
    confidence := confidence
    freshness := freshness
    heatScore := clamp (intensity * confidence * freshness)
    qualityFlags := [] }

def grouped (ordered : List Observation) : Dict String (List Observation) :=
  Dict.collect (ordered.map fun observation => (observation.metric.value, observation))

/-- The heat map, and the loop variable as the loop over the groups leaves it. -/
def heatLoop (exp : ℚ → ℚ) (halfLifeHours : ℚ) (ordered : List Observation) (latest : Instant) :
    String × List HeatmapCell :=
  (sortedBy Prod.fst (grouped ordered).entries).foldl
    (fun state item => (item.1, state.2 ++ [heatCell exp halfLifeHours latest item.1 item.2]))
    ("", [])

/-- The alert of a cell; its dimension is the variable of the loop before. -/
def alertOf (uuid5 : String → String) (threshold : ℚ) (dimension : String) (cell : HeatmapCell) :
    StrategicAlert :=
  let alertKey := cell.dimension ++ ":" ++ ",".intercalate cell.sourceIds
  { alertId := uuid5 ("continuityos:strategic:" ++ alertKey)
    alertKey := alertKey
    dimension := dimension
    severity := if 85 / 100 ≤ cell.heatScore then "critical" else "high"
    score := cell.heatScore
    rationale :=
      [cell.dimension ++ " heat score " ++ fixedPoint 3 cell.heatScore ++ " exceeds threshold " ++
          fixedPoint 3 threshold,
        "freshness=" ++ fixedPoint 3 cell.freshness ++ ", confidence=" ++
          fixedPoint 3 cell.confidence] ++
      if cell.qualityFlags = [] then []
      else ["quality flags present: " ++ ", ".intercalate cell.qualityFlags]
    sourceIds := cell.sourceIds }

def alertOrder (alert : StrategicAlert) : ℚ ×ₗ String := toLex (-alert.score, alert.dimension)

def buildAlerts (uuid5 : String → String) (threshold : ℚ) (dimension : String)
    (heatmap : List HeatmapCell) : List StrategicAlert :=
  sortedBy alertOrder ((heatmap.filter fun cell => decide (threshold ≤ cell.heatScore)).map
    (alertOf uuid5 threshold dimension))

def reviewAction (dimension : String) : String :=
  "Review " ++ dimension ++ " evidence and confirm an owner before coordinating mitigation"

def recommendation (scope : String) (index : ℕ) (alert : StrategicAlert) :
    CoordinationRecommendation where
  priority := index + 1
  scope := scope
  action := reviewAction alert.dimension
  rationale := "; ".intercalate alert.rationale

def limitations : List String :=
  ["Heat scores are normalized prioritization signals, not probability of failure.",
    "Freshness decay does not correct stale, biased, duplicated, or adversarial sources.",
    "Regression output is associational exploratory analysis with temporal holdout, " ++
      "not causal inference or a validated forecast.",
    "Recommendations are advisory; human review is required and no action is " ++
      "executed or dispatched."]

def runRequested (sqrt : ℚ → ℚ) : Option RegressionRequest → Except String (Option RegressionResult)
  | none => .ok none
  | some request => (runRegression sqrt request).map some

def buildStrategicReport (exp sqrt : ℚ → ℚ) (uuid5 : String → String) (reportId : String)
    (generatedAt : Instant) (request : StrategicAnalysisRequest) :
    Except String StrategicAnalysisReport := do
  let ordered := orderedObservations request
  let windowEnd := timeOf ordered.getLast?
  let (dimension, heatmap) := heatLoop exp request.freshnessHalfLifeHours ordered windowEnd
  let alerts := buildAlerts uuid5 request.alertThreshold dimension heatmap
  let regression ← runRequested sqrt request.regression
  return {
    reportId := reportId
    generatedAt := generatedAt
    observationCount := ordered.length
    windowStart := timeOf ordered.head?
    windowEnd := windowEnd
    heatmap := heatmap
    alerts := alerts
    coordination := alerts.mapIdx (recommendation request.coordinationScope)
    sourceFreshness := (sourcesOf ordered).map
      (sourceFreshness exp request.freshnessHalfLifeHours ordered windowEnd)
    regression := regression
    predictiveStatus := if regression.isSome then "exploratory-temporal-holdout-result"
      else "not-run-insufficient-labelled-dataset"
    limitations := limitations }

section Groups
variable (exp : ℚ → ℚ) (halfLifeHours : ℚ) (latest : Instant) {ordered : List Observation}

/-- The groups in the order of their metrics. -/
def sortedGroups (ordered : List Observation) : List (String × List Observation) :=
  sortedBy Prod.fst (grouped ordered).entries

theorem mem_sortedGroups {dimension : String} {values : List Observation} :
    (dimension, values) ∈ sortedGroups ordered ↔
      (∃ observation ∈ ordered, observation.metric.value = dimension) ∧
        values = ordered.filter fun observation => observation.metric.value = dimension := by
  rw [sortedGroups, mem_sortedBy, grouped, Dict.mem_entries_collect_key]

theorem sortedGroups_ne_nil (h : ordered ≠ []) : sortedGroups ordered ≠ [] := by
  obtain ⟨observation, hmem⟩ := List.exists_mem_of_ne_nil _ h
  exact List.ne_nil_of_mem (mem_sortedGroups.mpr ⟨⟨observation, hmem, rfl⟩, rfl⟩)

/-- The loop leaves a cell for every group and the last metric in its variable. -/
theorem heatLoop_eq : heatLoop exp halfLifeHours ordered latest =
    (((sortedGroups ordered).getLast?.map Prod.fst).getD "",
      (sortedGroups ordered).map fun item => heatCell exp halfLifeHours latest item.1 item.2) := by
  rw [heatLoop, ← sortedGroups]
  induction sortedGroups ordered using List.reverseRecOn with
  | nil => rfl
  | append_singleton items item ih =>
    rw [List.foldl_append, ih, List.map_append, List.getLast?_append_of_ne_nil _ (by simp)]
    rfl

/-- The variable is left at the greatest of the metrics. -/
theorem le_lastDimension {dimension : String} {values : List Observation}
    (h : (dimension, values) ∈ sortedGroups ordered) :
    dimension ≤ ((sortedGroups ordered).getLast?.map Prod.fst).getD "" := by
  have hsorted : (sortedGroups ordered).Pairwise fun a b => a.1 ≤ b.1 := pairwise_sortedBy _ _
  revert h hsorted
  induction sortedGroups ordered using List.reverseRecOn with
  | nil => simp
  | append_singleton items item ih =>
    intro h hsorted
    rw [List.getLast?_append_of_ne_nil _ (by simp)]
    rcases List.mem_append.mp h with hitems | hlast
    · exact (List.pairwise_append.mp hsorted).2.2 _ hitems item List.mem_cons_self
    · rw [← List.mem_singleton.mp hlast]
      exact le_rfl

end Groups

end ContinuityOS.Strategic
