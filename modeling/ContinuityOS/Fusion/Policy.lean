import ContinuityOS.Domain.Assessment
import ContinuityOS.Fusion.Source

/-! # Fusion policy

The tables that turn a metric into a factor, an age limit and a risk.
-/
namespace ContinuityOS.Fusion

def requiredMetrics : List MetricName :=
  [.seaIceConcentration, .windSeverity, .portAvailability, .satcomAvailability,
    .cyberControlHealth, .dataIntegrity, .insuranceAvailability, .escortCapacity, .inventoryDays]

def contextOnlyMetrics : List MetricName :=
  [.seaIceExtentAnomaly, .earthObservationCoverage, .satelliteGeometryDensity, .portGeometry]

def metricToFactor : MetricName → Option CorridorFactor
  | .seaIceConcentration => some .ice
  | .windSeverity => some .weather
  | .waveSeverity => some .weather
  | .aisTrafficIndex => some .traffic
  | .portCapacity => some .port
  | .portAvailability => some .port
  | .satcomAvailability => some .communications
  | .cyberControlHealth => some .cyber
  | .dataIntegrity => some .dataTrust
  | .insuranceAvailability => some .commercial
  | .geopoliticalPressure => some .geopolitical
  | .escortCapacity => some .escort
  | .inventoryDays => some .inventory
  | .tradeDependency => some .commercial
  | .uavLinkMargin => some .communications
  | .uavSwarmCohesion => some .escort
  | .starlinkLatencyMs => some .communications
  | .starlinkDownlinkMbps => some .communications
  | .starlinkObstructionRate => some .communications
  | .cuasThreatDensity => some .cyber
  | .cuasJammingActive => some .cyber
  | _ => none

def maxAgeHours : MetricName → Option ℚ
  | .seaIceConcentration => some 24
  | .seaIceExtentAnomaly => some (24 * 14)
  | .earthObservationCoverage => some (24 * 7)
  | .windSeverity => some 12
  | .waveSeverity => some 12
  | .aisTrafficIndex => some (24 * 30)
  | .portCapacity => some 2
  | .portAvailability => some 2
  | .satcomAvailability => some 1
  | .satelliteGeometryDensity => some (24 * 7)
  | .cyberControlHealth => some 1
  | .dataIntegrity => some 1
  | .insuranceAvailability => some 24
  | .geopoliticalPressure => some (24 * 7)
  | .escortCapacity => some 6
  | .inventoryDays => some 24
  | .tradeDependency => some (24 * 90)
  | .portGeometry => some (24 * 365)
  | .uavLinkMargin => some (1 / 2)
  | .uavSwarmCohesion => some (1 / 2)
  | .starlinkLatencyMs => some (1 / 4)
  | .starlinkDownlinkMbps => some (1 / 4)
  | .starlinkObstructionRate => some (1 / 4)
  | .cuasThreatDensity => some (1 / 4)
  | .cuasJammingActive => some (1 / 4)
  | _ => none

/-- The direction in which a metric bears on risk. -/
def transform : MetricName → Option (ℚ → ℚ)
  | .seaIceConcentration => some (fun x => if 1 < x then x / 100 else x)
  | .windSeverity => some (fun x => x)
  | .waveSeverity => some (fun x => x)
  | .aisTrafficIndex => some (fun x => 1 - x)
  | .portCapacity => some (fun x => 1 - x)
  | .portAvailability => some (fun x => 1 - x)
  | .satcomAvailability => some (fun x => 1 - x)
  | .cyberControlHealth => some (fun x => 1 - x)
  | .dataIntegrity => some (fun x => 1 - x)
  | .insuranceAvailability => some (fun x => 1 - x)
  | .geopoliticalPressure => some (fun x => x)
  | .escortCapacity => some (fun x => 1 - x)
  | .inventoryDays => some (fun x => 1 - min (x / 45) 1)
  | .tradeDependency => some (fun x => x)
  | _ => none

def bounded (value : ℚ) : Score := ⟨min 1 (max 0 value), by simp, min_le_left _ _⟩

def metricRisk (o : Observation) : Except AssessError Score :=
  match transform o.metric with
  | none => .error (.missingKey o.metric)
  | some f => .ok (bounded (f o.value))

def lookupFactor (o : Observation) : Except AssessError CorridorFactor :=
  match metricToFactor o.metric with
  | none => .error (.missingKey o.metric)
  | some factor => .ok factor

def lookupMaxAge (o : Observation) : Except AssessError ℚ :=
  match maxAgeHours o.metric with
  | none => .error (.missingKey o.metric)
  | some hours => .ok hours

end ContinuityOS.Fusion
