import ContinuityOS.Domain.Observation
import ContinuityOS.Library.Sorting
import ContinuityOS.Library.Text
import Mathlib.Data.String.Basic

/-! # Which source may assert what

A source asserts only the classes its registry entry allows, and a metric only
the class it belongs to.
-/
namespace ContinuityOS.Fusion
open Library

structure SourceDefinition where
  sourceId : String
  trust : SourceTrust
  allowedAssertions : List AssertionClass

def sources : List SourceDefinition :=
  [⟨"nsidc-sea-ice-index", .authoritativePublic, [.climate, .ice]⟩,
    ⟨"eccc-geomet", .authoritativePublic, [.climate, .ice, .weather]⟩,
    ⟨"copernicus-cdse-stac", .authoritativePublic, [.earthObservation, .geolocation]⟩,
    ⟨"ecmwf-open-data", .authoritativePublic, [.weather, .climate]⟩,
    ⟨"celestrak-gp", .openContext, [.orbitalGeometry]⟩,
    ⟨"nga-world-port-index", .authoritativePublic, [.geolocation]⟩,
    ⟨"marinecadastre-ais", .authoritativePublic, [.trafficHistory]⟩,
    ⟨"un-comtrade", .authoritativePublic, [.tradeExposure]⟩,
    ⟨"statcan-wds", .authoritativePublic, [.tradeExposure, .climate]⟩,
    ⟨"noaa-coops", .authoritativePublic, [.weather, .climate]⟩,
    ⟨"usgs-water", .authoritativePublic, [.climate, .weather]⟩,
    ⟨"nasa-firms", .authoritativePublic, [.earthObservation, .climate]⟩,
    ⟨"noaa-swpc", .authoritativePublic, [.weather, .climate]⟩,
    ⟨"gdacs", .authoritativePublic, [.climate, .geolocation]⟩,
    ⟨"reliefweb", .openContext, [.policyContext, .geopoliticalContext]⟩,
    ⟨"openalex", .openContext, [.policyContext]⟩,
    ⟨"operator-telemetry", .authenticatedOperator,
      [.liveCapacity, .liveAvailability, .cyberHealth, .insuranceAccess]⟩,
    ⟨"analyst-assessment", .analystAssessment,
      [.geopoliticalContext, .policyContext, .humanIntelligence]⟩]

def getSource (sourceId : String) : Option SourceDefinition :=
  sources.find? fun s => s.sourceId = sourceId

/-- The assertion class of a metric; a metric without one is not admitted. -/
def metricAssertions : MetricName → Option AssertionClass
  | .seaIceConcentration => some .ice
  | .seaIceExtentAnomaly => some .climate
  | .earthObservationCoverage => some .earthObservation
  | .windSeverity => some .weather
  | .waveSeverity => some .weather
  | .portGeometry => some .geolocation
  | .portCapacity => some .liveCapacity
  | .portAvailability => some .liveAvailability
  | .aisTrafficIndex => some .trafficHistory
  | .tradeDependency => some .tradeExposure
  | .satelliteGeometryDensity => some .orbitalGeometry
  | .satcomAvailability => some .liveAvailability
  | .cyberControlHealth => some .cyberHealth
  | .dataIntegrity => some .cyberHealth
  | .insuranceAvailability => some .insuranceAccess
  | .geopoliticalPressure => some .geopoliticalContext
  | .escortCapacity => some .liveCapacity
  | .inventoryDays => some .liveCapacity
  | _ => none

inductive AssessError where
  | noObservations
  | noCurrentObservations
  | unknownSource (sourceId : String)
  | missingKey (metric : MetricName)
  | trustMismatch (sourceId : String) (expected got : SourceTrust)
  | cannotAssert (sourceId : String) (assertion : AssertionClass) (allowed : List AssertionClass)
  | incompatibleMetric (metric : MetricName) (assertion allowed : AssertionClass)
  | unhashableJudgment
  | judgmentType
  | emptyBasis

def quotedValues (l : List AssertionClass) : String :=
  "[" ++ ", ".intercalate ((sortedBy id (l.map AssertionClass.value)).map fun v => "'" ++ v ++ "'") ++
    "]"

/-- The text of the exception; the key of a failed lookup where it is a key error. -/
def AssessError.message : AssessError → String
  | .noObservations => "at least one observation is required"
  | .noCurrentObservations => "no current observations remain after validation"
  | .unknownSource sourceId => "unknown source_id: " ++ sourceId
  | .missingKey metric => metric.value
  | .trustMismatch sourceId expected got =>
    "source trust mismatch for " ++ sourceId ++ ": expected " ++ expected.value ++ ", got " ++
      got.value
  | .cannotAssert sourceId assertion allowed =>
    sourceId ++ " cannot assert " ++ assertion.value ++ "; allowed=" ++ quotedValues allowed
  | .incompatibleMetric metric assertion allowed =>
    "metric " ++ metric.value ++ " is incompatible with assertion " ++ assertion.value ++
      "; allowed=" ++ quotedValues [allowed]
  | .unhashableJudgment => "unhashable type"
  | .judgmentType =>
    "analyst assessments require metadata.judgment_type as observed_fact, analytic_judgment, " ++
      "or scenario"
  | .emptyBasis => "analyst assessments require non-empty metadata.basis"

def isJudgmentType (s : String) : Bool :=
  s = "observed_fact" ∨ s = "analytic_judgment" ∨ s = "scenario"

def validateAnalystMetadata (metadata : Dict String MetadataValue) : Except AssessError Unit :=
  match metadata.get? "judgment_type" with
  | some .collection => .error .unhashableJudgment
  | some (.text judgment) =>
    if isJudgmentType judgment then
      match metadata.get? "basis" with
      | some (.text basis) => if basis.toList.all isStripped then .error .emptyBasis else .ok ()
      | _ => .error .emptyBasis
    else .error .judgmentType
  | _ => .error .judgmentType

def validateObservationSource (o : Observation) : Except AssessError Unit :=
  match getSource o.sourceId with
  | none => .error (.unknownSource o.sourceId)
  | some source =>
    if o.sourceTrust ≠ source.trust then
      .error (.trustMismatch o.sourceId source.trust o.sourceTrust)
    else if o.assertionClass ∉ source.allowedAssertions then
      .error (.cannotAssert o.sourceId o.assertionClass source.allowedAssertions)
    else
      match metricAssertions o.metric with
      | none => .error (.missingKey o.metric)
      | some assertion =>
        if o.assertionClass ≠ assertion then
          .error (.incompatibleMetric o.metric o.assertionClass assertion)
        else if o.sourceTrust = .analystAssessment then validateAnalystMetadata o.metadata
        else .ok ()

/-- A valid source means a metric that the policy knows. -/
theorem metricAssertions_of_valid {o : Observation} (h : validateObservationSource o = .ok ()) :
    metricAssertions o.metric ≠ none := by
  intro hnone
  unfold validateObservationSource at h
  rw [hnone] at h
  split at h
  · cases h
  · split_ifs at h

end ContinuityOS.Fusion
