import ContinuityOS.Domain.Corridor
import ContinuityOS.Library.Dict

/-! # Observations

An observation carries the ranges its validators check, so that a value out of
range cannot be built.
-/
namespace ContinuityOS
open Library

inductive SourceTrust where
  | authoritativePublic | openContext | authenticatedOperator | analystAssessment
deriving DecidableEq

def SourceTrust.value : SourceTrust → String
  | .authoritativePublic => "authoritative_public"
  | .openContext => "open_context"
  | .authenticatedOperator => "authenticated_operator"
  | .analystAssessment => "analyst_assessment"

inductive AssertionClass where
  | geolocation | climate | ice | weather | earthObservation | orbitalGeometry | trafficHistory
  | tradeExposure | policyContext | geopoliticalContext | liveCapacity | liveAvailability
  | cyberHealth | insuranceAccess | humanIntelligence | disasterResponse | tacticalSurveillance
  | counterUas | leoSatcom | supplyChainIntelligence | strategicMinerals | railLogistics
  | counterIntelligence | permafrostIntegrity | wildfireThreat | subseaInfrastructure
  | emconSurveillance
deriving DecidableEq

def AssertionClass.value : AssertionClass → String
  | .geolocation => "geolocation"
  | .climate => "climate"
  | .ice => "ice"
  | .weather => "weather"
  | .earthObservation => "earth_observation"
  | .orbitalGeometry => "orbital_geometry"
  | .trafficHistory => "traffic_history"
  | .tradeExposure => "trade_exposure"
  | .policyContext => "policy_context"
  | .geopoliticalContext => "geopolitical_context"
  | .liveCapacity => "live_capacity"
  | .liveAvailability => "live_availability"
  | .cyberHealth => "cyber_health"
  | .insuranceAccess => "insurance_access"
  | .humanIntelligence => "human_intelligence"
  | .disasterResponse => "disaster_response"
  | .tacticalSurveillance => "tactical_surveillance"
  | .counterUas => "counter_uas"
  | .leoSatcom => "leo_satcom"
  | .supplyChainIntelligence => "supply_chain_intelligence"
  | .strategicMinerals => "strategic_minerals"
  | .railLogistics => "rail_logistics"
  | .counterIntelligence => "counter_intelligence"
  | .permafrostIntegrity => "permafrost_integrity"
  | .wildfireThreat => "wildfire_threat"
  | .subseaInfrastructure => "subsea_infrastructure"
  | .emconSurveillance => "emcon_surveillance"

inductive MetricName where
  | seaIceConcentration | seaIceExtentAnomaly | earthObservationCoverage | windSeverity
  | waveSeverity | portGeometry | portCapacity | portAvailability | aisTrafficIndex
  | tradeDependency | satelliteGeometryDensity | satcomAvailability | cyberControlHealth
  | dataIntegrity | insuranceAvailability | geopoliticalPressure | escortCapacity | inventoryDays
  | weatherAlertActivity | disasterEventActivity | casualtyCount | injuredCount | evacuationCount
  | utilityImpactCount | waterLevel | uavLinkMargin | uavSwarmCohesion | starlinkLatencyMs
  | starlinkDownlinkMbps | starlinkObstructionRate | cuasThreatDensity | cuasJammingActive
  | railNetworkFluidity | mineralReserveDays | refineryCapacityUtilization
  | borderCrossingDelayHours | demurrageRiskIndex | lockOperationalStatus | permafrostThawDepthCm
  | wildfireIndexFwi | darkVesselProximityKm | sarSatelliteExposureIndex | acousticAnomalyLevel
  | seabedCableIntegrity | emconComplianceScore
deriving DecidableEq

def MetricName.value : MetricName → String
  | .seaIceConcentration => "sea_ice_concentration"
  | .seaIceExtentAnomaly => "sea_ice_extent_anomaly"
  | .earthObservationCoverage => "earth_observation_coverage"
  | .windSeverity => "wind_severity"
  | .waveSeverity => "wave_severity"
  | .portGeometry => "port_geometry"
  | .portCapacity => "port_capacity"
  | .portAvailability => "port_availability"
  | .aisTrafficIndex => "ais_traffic_index"
  | .tradeDependency => "trade_dependency"
  | .satelliteGeometryDensity => "satellite_geometry_density"
  | .satcomAvailability => "satcom_availability"
  | .cyberControlHealth => "cyber_control_health"
  | .dataIntegrity => "data_integrity"
  | .insuranceAvailability => "insurance_availability"
  | .geopoliticalPressure => "geopolitical_pressure"
  | .escortCapacity => "escort_capacity"
  | .inventoryDays => "inventory_days"
  | .weatherAlertActivity => "weather_alert_activity"
  | .disasterEventActivity => "disaster_event_activity"
  | .casualtyCount => "casualty_count"
  | .injuredCount => "injured_count"
  | .evacuationCount => "evacuation_count"
  | .utilityImpactCount => "utility_impact_count"
  | .waterLevel => "water_level"
  | .uavLinkMargin => "uav_link_margin"
  | .uavSwarmCohesion => "uav_swarm_cohesion"
  | .starlinkLatencyMs => "starlink_latency_ms"
  | .starlinkDownlinkMbps => "starlink_downlink_mbps"
  | .starlinkObstructionRate => "starlink_obstruction_rate"
  | .cuasThreatDensity => "cuas_threat_density"
  | .cuasJammingActive => "cuas_jamming_active"
  | .railNetworkFluidity => "rail_network_fluidity"
  | .mineralReserveDays => "mineral_reserve_days"
  | .refineryCapacityUtilization => "refinery_capacity_utilization"
  | .borderCrossingDelayHours => "border_crossing_delay_hours"
  | .demurrageRiskIndex => "demurrage_risk_index"
  | .lockOperationalStatus => "lock_operational_status"
  | .permafrostThawDepthCm => "permafrost_thaw_depth_cm"
  | .wildfireIndexFwi => "wildfire_index_fwi"
  | .darkVesselProximityKm => "dark_vessel_proximity_km"
  | .sarSatelliteExposureIndex => "sar_satellite_exposure_index"
  | .acousticAnomalyLevel => "acoustic_anomaly_level"
  | .seabedCableIntegrity => "seabed_cable_integrity"
  | .emconComplianceScore => "emcon_compliance_score"

/-- Metrics normalised to the unit interval. -/
def ratioMetrics : List MetricName :=
  [.windSeverity, .waveSeverity, .portCapacity, .portAvailability, .aisTrafficIndex,
    .tradeDependency, .satcomAvailability, .cyberControlHealth, .dataIntegrity,
    .insuranceAvailability, .geopoliticalPressure, .escortCapacity, .uavSwarmCohesion,
    .starlinkObstructionRate, .cuasThreatDensity, .cuasJammingActive, .railNetworkFluidity,
    .refineryCapacityUtilization, .demurrageRiskIndex, .lockOperationalStatus,
    .sarSatelliteExposureIndex, .acousticAnomalyLevel, .seabedCableIntegrity,
    .emconComplianceScore]

/-- Metrics that cannot be negative. -/
def nonnegativeMetrics : List MetricName :=
  [.satelliteGeometryDensity, .earthObservationCoverage, .portGeometry, .uavLinkMargin,
    .starlinkLatencyMs, .starlinkDownlinkMbps, .borderCrossingDelayHours, .permafrostThawDepthCm,
    .wildfireIndexFwi, .darkVesselProximityKm]

def isPercent (unit : String) : Bool := unit.toLower = "percent" ∨ unit.toLower = "%"

/-- The range checks on the value of a metric. -/
def ValidValue (metric : MetricName) (unit : String) (value : ℚ) : Prop :=
  (metric ∈ ratioMetrics → 0 ≤ value ∧ value ≤ 1) ∧
  (metric = .seaIceConcentration →
    0 ≤ value ∧ value ≤ if isPercent unit then 100 else 1) ∧
  (metric = .inventoryDays ∨ metric = .mineralReserveDays → 0 ≤ value ∧ value ≤ 3650) ∧
  (metric ∈ nonnegativeMetrics → 0 ≤ value)

instance (metric : MetricName) (unit : String) (value : ℚ) :
    Decidable (ValidValue metric unit value) :=
  inferInstanceAs (Decidable (_ ∧ _))

/-- A metadata value: text, another hashable value, or a list or map. -/
inductive MetadataValue where
  | text (s : String)
  | scalar
  | collection
deriving DecidableEq

structure Observation where
  observationId : String
  sourceId : String
  sourceTrust : SourceTrust
  assertionClass : AssertionClass
  metric : MetricName
  value : ℚ
  unit : String
  observedAt : Instant
  validUntil : Option Instant := none
  confidence : Score
  metadata : Dict String MetadataValue := Dict.empty
  validValue : ValidValue metric unit value
  ordered : ∀ t ∈ validUntil, observedAt ≤ t

/-- Without an end every start is in order. -/
theorem ordered_none (observedAt : Instant) : ∀ t ∈ (none : Option Instant), observedAt ≤ t := by
  simp

theorem ordered_none_zero : ∀ t ∈ (none : Option Instant), 0 ≤ t := ordered_none 0

end ContinuityOS
