import ContinuityOS.Strategic.Report
import Mathlib.Algebra.Order.Ring.Star
import Mathlib.Data.Rat.Star

/-! # What an alert says of its cell

Every alert carries the score and the sources of its own cell, but the dimension of the last cell
of the heat map. Alerts describe their cells where no other cell is hot.
-/
namespace ContinuityOS.Strategic
open Library Analysis

/-- The alerts are those of the hot cells, in order, and the recommendations name them. -/
structure AlertsDescribeCells (request : StrategicAnalysisRequest)
    (report : StrategicAnalysisReport) : Prop where
  correspond : (report.alerts.map fun alert => (alert.dimension, alert.score, alert.sourceIds)).Perm
    ((report.heatmap.filter fun cell => decide (request.alertThreshold ≤ cell.heatScore)).map
      fun cell => (cell.dimension, cell.heatScore, cell.sourceIds))
  ordered : report.alerts.Pairwise fun alert alert' => alert'.score < alert.score ∨
    alert.score = alert'.score ∧ alert.dimension ≤ alert'.dimension
  named : report.coordination.map CoordinationRecommendation.action =
    report.alerts.map fun alert => reviewAction alert.dimension

/-- The observations of a metric. -/
def metricValues (request : StrategicAnalysisRequest) (dimension : String) : List Observation :=
  (orderedObservations request).filter fun observation => observation.metric.value = dimension

/-- The heat score of a metric, from its observations and the end of the window. -/
def metricScore (exp : ℚ → ℚ) (request : StrategicAnalysisRequest) (dimension : String) : ℚ :=
  (heatCell exp request.freshnessHalfLifeHours
    (timeOf (orderedObservations request).getLast?) dimension
    (metricValues request dimension)).heatScore

/-- Every metric but the last in the order of names stays below the threshold. -/
def OnlyLastMetricAlerts (exp : ℚ → ℚ) (request : StrategicAnalysisRequest) : Prop :=
  ∀ observation ∈ request.observations,
    (∃ later ∈ request.observations, observation.metric.value < later.metric.value) →
    metricScore exp request observation.metric.value < request.alertThreshold

section Alerts
variable {uuid5 : String → String} {threshold : ℚ} {dimension : String}
  {heatmap : List HeatmapCell}

theorem buildAlerts_perm : ((buildAlerts uuid5 threshold dimension heatmap).map fun alert =>
    (alert.dimension, alert.score, alert.sourceIds)).Perm
      ((heatmap.filter fun cell => decide (threshold ≤ cell.heatScore)).map fun cell =>
        (dimension, cell.heatScore, cell.sourceIds)) := by
  have hperm := (sortedBy_perm alertOrder
    ((heatmap.filter fun cell => decide (threshold ≤ cell.heatScore)).map
      (alertOf uuid5 threshold dimension))).map fun alert =>
        (alert.dimension, alert.score, alert.sourceIds)
  rwa [List.map_map] at hperm

theorem buildAlerts_ordered : (buildAlerts uuid5 threshold dimension heatmap).Pairwise
    fun alert alert' => alert'.score < alert.score ∨
      alert.score = alert'.score ∧ alert.dimension ≤ alert'.dimension := by
  refine (pairwise_sortedBy alertOrder _).imp ?_
  intro alert alert' hle
  rw [alertOrder, alertOrder, Prod.Lex.toLex_le_toLex, neg_lt_neg_iff, neg_inj] at hle
  exact hle

/-- The alerts match the hot cells exactly where every hot cell has the given dimension. -/
theorem buildAlerts_describe_iff :
    ((buildAlerts uuid5 threshold dimension heatmap).map fun alert =>
      (alert.dimension, alert.score, alert.sourceIds)).Perm
      ((heatmap.filter fun cell => decide (threshold ≤ cell.heatScore)).map fun cell =>
        (cell.dimension, cell.heatScore, cell.sourceIds)) ↔
    ∀ cell ∈ heatmap, threshold ≤ cell.heatScore → cell.dimension = dimension := by
  constructor
  · intro hperm cell hcell hhot
    have hmem : (cell.dimension, cell.heatScore, cell.sourceIds) ∈
        (heatmap.filter fun cell => decide (threshold ≤ cell.heatScore)).map fun cell =>
          (dimension, cell.heatScore, cell.sourceIds) := by
      rw [← buildAlerts_perm.mem_iff, hperm.mem_iff]
      exact List.mem_map.mpr ⟨cell, List.mem_filter.mpr ⟨hcell, decide_eq_true hhot⟩, rfl⟩
    obtain ⟨_, -, heq⟩ := List.mem_map.mp hmem
    exact (congrArg Prod.fst heq).symm
  · intro hall
    refine buildAlerts_perm.trans (.of_eq (List.map_congr_left ?_))
    intro cell hcell
    obtain ⟨hmem, hhot⟩ := List.mem_filter.mp hcell
    rw [hall cell hmem (of_decide_eq_true hhot)]

end Alerts

section Report
variable {exp sqrt : ℚ → ℚ} {uuid5 : String → String} {reportId : String} {generatedAt : Instant}
  {request : StrategicAnalysisRequest} {report : StrategicAnalysisReport}

theorem orderedObservations_ne_nil (request : StrategicAnalysisRequest) :
    orderedObservations request ≠ [] := by
  intro hnil
  have hlength := (sortedBy_perm Observation.observedAt request.observations).length_eq
  rw [← orderedObservations, hnil] at hlength
  have hnonempty := request.observationsLength.1
  rw [← hlength] at hnonempty
  exact absurd hnonempty (by decide)

theorem mem_orderedObservations {observation : Observation} :
    observation ∈ orderedObservations request ↔ observation ∈ request.observations :=
  mem_sortedBy _ _ _

/-- What a report that is returned has for its cells, its alerts and its recommendations. -/
theorem buildStrategicReport_ok
    (h : buildStrategicReport exp sqrt uuid5 reportId generatedAt request = .ok report) :
    report.heatmap = (sortedGroups (orderedObservations request)).map (fun item =>
        heatCell exp request.freshnessHalfLifeHours
          (timeOf (orderedObservations request).getLast?) item.1 item.2) ∧
      report.alerts = buildAlerts uuid5 request.alertThreshold
        (((sortedGroups (orderedObservations request)).getLast?.map Prod.fst).getD "")
        report.heatmap ∧
      report.coordination =
        report.alerts.mapIdx (recommendation request.coordinationScope) := by
  unfold buildStrategicReport at h
  dsimp only at h
  obtain ⟨regression, -, hreport⟩ := bind_eq_ok.mp h
  obtain rfl := Except.ok.inj hreport
  rw [heatLoop_eq]
  exact ⟨rfl, rfl, rfl⟩

theorem buildStrategicReport_returns (exp sqrt : ℚ → ℚ) (uuid5 : String → String)
    (reportId : String) (generatedAt : Instant) (request : StrategicAnalysisRequest) :
    (∃ report, buildStrategicReport exp sqrt uuid5 reportId generatedAt request = .ok report) ↔
      ∀ regression ∈ request.regression, ∃ result, runRegression sqrt regression = .ok result := by
  have hrun : (∃ report, buildStrategicReport exp sqrt uuid5 reportId generatedAt request =
      .ok report) ↔ ∃ result, runRequested sqrt request.regression = .ok result := by
    constructor
    · rintro ⟨report, h⟩
      unfold buildStrategicReport at h
      dsimp only at h
      obtain ⟨regression, hregression, -⟩ := bind_eq_ok.mp h
      exact ⟨regression, hregression⟩
    · rintro ⟨regression, hregression⟩
      unfold buildStrategicReport
      dsimp only
      rw [hregression, ok_bind]
      exact ⟨_, rfl⟩
  rw [hrun]
  cases request.regression with
  | none => simp [runRequested]
  | some regression =>
    rw [runRequested]
    cases hresult : runRegression sqrt regression <;> simp [Except.map, hresult]

theorem recommendations_name_alerts
    (h : buildStrategicReport exp sqrt uuid5 reportId generatedAt request = .ok report) :
    report.coordination.map CoordinationRecommendation.action =
      report.alerts.map fun alert => reviewAction alert.dimension := by
  rw [(buildStrategicReport_ok h).2.2]
  apply List.ext_getElem
  · simp
  · intro i _ _
    simp [recommendation]

/-- Every metric that is observed has its group and its cell. -/
theorem exists_cell
    (h : buildStrategicReport exp sqrt uuid5 reportId generatedAt request = .ok report)
    {observation : Observation} (hobservation : observation ∈ request.observations) :
    (observation.metric.value, metricValues request observation.metric.value) ∈
        sortedGroups (orderedObservations request) ∧
      heatCell exp request.freshnessHalfLifeHours
        (timeOf (orderedObservations request).getLast?) observation.metric.value
        (metricValues request observation.metric.value) ∈ report.heatmap := by
  have hgroup : (observation.metric.value, metricValues request observation.metric.value) ∈
      sortedGroups (orderedObservations request) :=
    mem_sortedGroups.mpr ⟨⟨observation, mem_orderedObservations.mpr hobservation, rfl⟩, rfl⟩
  refine ⟨hgroup, ?_⟩
  rw [(buildStrategicReport_ok h).1]
  exact List.mem_map.mpr ⟨_, hgroup, rfl⟩

/-- The last dimension is that of an observation. -/
theorem exists_lastDimension (request : StrategicAnalysisRequest) :
    ∃ later ∈ request.observations, later.metric.value =
      ((sortedGroups (orderedObservations request)).getLast?.map Prod.fst).getD "" := by
  have hne := sortedGroups_ne_nil (orderedObservations_ne_nil request)
  obtain ⟨⟨last, values⟩, hlast⟩ := Option.ne_none_iff_exists'.mp
    (mt List.getLast?_eq_none_iff.mp hne)
  obtain ⟨⟨later, hlater, hmetric⟩, -⟩ := mem_sortedGroups.mp (List.mem_of_getLast? hlast)
  exact ⟨later, mem_orderedObservations.mp hlater, by rw [hlast]; exact hmetric⟩

/-- A hot cell is named by its alert exactly where it is the last cell. -/
theorem describes_iff
    (h : buildStrategicReport exp sqrt uuid5 reportId generatedAt request = .ok report) :
    AlertsDescribeCells request report ↔ OnlyLastMetricAlerts exp request := by
  obtain ⟨hheatmap, halerts, -⟩ := buildStrategicReport_ok h
  constructor
  · intro hdescribes observation hobservation ⟨later, hlater, hlt⟩
    by_contra hhot
    have hdimensions := hdescribes.correspond
    rw [halerts, buildAlerts_describe_iff] at hdimensions
    -- its dimension would be the last one, which no metric exceeds
    have hlast := hdimensions _ (exists_cell h hobservation).2 (not_lt.mp hhot)
    have hle := le_lastDimension (exists_cell h hlater).1
    exact absurd (hlt.trans_le hle) (not_lt.mpr hlast.ge)
  · intro hbelow
    refine ⟨?_, halerts ▸ buildAlerts_ordered, recommendations_name_alerts h⟩
    rw [halerts, buildAlerts_describe_iff]
    intro cell hcell hhot
    rw [hheatmap] at hcell
    obtain ⟨⟨dimension, values⟩, hgroup, rfl⟩ := List.mem_map.mp hcell
    obtain ⟨⟨observation, hobservation, rfl⟩, rfl⟩ := mem_sortedGroups.mp hgroup
    obtain ⟨later, hlater, hlast⟩ := exists_lastDimension request
    by_contra hdifferent
    have hlt := lt_of_le_of_ne (le_lastDimension hgroup) hdifferent
    have hscore := hbelow observation (mem_orderedObservations.mp hobservation)
      ⟨later, hlater, hlast ▸ hlt⟩
    exact absurd hhot (not_le.mpr hscore)

end Report

/-- A report is returned with alerts that describe their cells exactly where a requested regression
runs and no metric but the last is hot. -/
theorem alerts_describe_iff_onlyLast (exp sqrt : ℚ → ℚ) (uuid5 : String → String)
    (reportId : String) (generatedAt : Instant) (request : StrategicAnalysisRequest) :
    (∃ report, buildStrategicReport exp sqrt uuid5 reportId generatedAt request = .ok report ∧
      AlertsDescribeCells request report) ↔
    (∀ regression ∈ request.regression, ∃ result, runRegression sqrt regression = .ok result) ∧
      OnlyLastMetricAlerts exp request := by
  rw [← buildStrategicReport_returns exp sqrt uuid5 reportId generatedAt request]
  constructor
  · rintro ⟨report, hreport, hdescribes⟩
    exact ⟨⟨report, hreport⟩, (describes_iff hreport).mp hdescribes⟩
  · rintro ⟨⟨report, hreport⟩, honly⟩
    exact ⟨report, hreport, (describes_iff hreport).mpr honly⟩

def hotObservation (metric : MetricName) (h : ValidValue metric "normalized" (9 / 10)) :
    Observation where
  observationId := metric.value
  sourceId := "eccc-geomet"
  sourceTrust := .authoritativePublic
  assertionClass := .weather
  metric := metric
  value := 9 / 10
  unit := "normalized"
  observedAt := 0
  confidence := Score.one
  validValue := h
  ordered := ordered_none_zero

def hotWaves : Observation :=
  hotObservation .waveSeverity (by simp [ValidValue, ratioMetrics, nonnegativeMetrics]; norm_num)

def hotWind : Observation :=
  hotObservation .windSeverity (by simp [ValidValue, ratioMetrics, nonnegativeMetrics]; norm_num)

/-- The alert of the waves is issued under the name of the wind. -/
theorem alerts_name_the_last : ¬ ∃ report,
    buildStrategicReport (fun _ => 1) id id "storm" 0 { observations := [hotWaves, hotWind] } =
      .ok report ∧
    AlertsDescribeCells { observations := [hotWaves, hotWind] } report := by
  rintro ⟨report, hreport, hdescribes⟩
  have hbelow := (describes_iff hreport).mp hdescribes hotWaves List.mem_cons_self
    ⟨hotWind, by simp, by decide +kernel⟩
  revert hbelow
  decide +kernel

end ContinuityOS.Strategic
