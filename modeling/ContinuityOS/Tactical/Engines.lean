import ContinuityOS.Domain
import ContinuityOS.Library.FloatNumber
import Mathlib.Algebra.Order.BigOperators.Group.List
import Mathlib.Algebra.Order.Ring.Star
import Mathlib.Data.List.Perm.Subperm
import Mathlib.Data.Rat.Star

/-! # Tactical channels

An aircraft, a satellite link and the airspace of a sector are each evaluated from one set of
readings. Risk is the mean of what every part of an aircraft gives, and the sum of what goes wrong
on a link or in a sector, so that only the two sums grow with every further bad reading.
-/
namespace ContinuityOS.Tactical
open Library

/-- Percentages are written as literals. -/
instance percentages_neZero : NeZero 101 := ⟨by norm_num⟩

theorem hundredths_mem (n : Fin 101) : 0 ≤ (n.val : ℚ) / 100 ∧ (n.val : ℚ) / 100 ≤ 1 := by
  have hle : (n.val : ℚ) ≤ 100 := by exact_mod_cast Nat.le_of_lt_succ n.isLt
  exact ⟨by positivity, (div_le_one (by norm_num)).mpr hle⟩

/-- A score given with two decimals. -/
def hundredths (n : Fin 101) : Score := ⟨(n.val : ℚ) / 100, hundredths_mem n⟩

theorem mean_mem (scores : List Score) :
    0 ≤ (scores.map Subtype.val).sum / max 1 (scores.length : ℚ) ∧
      (scores.map Subtype.val).sum / max 1 (scores.length : ℚ) ≤ 1 := by
  have hpos : (0 : ℚ) < max 1 (scores.length : ℚ) := lt_max_of_lt_left zero_lt_one
  have hnonneg : 0 ≤ (scores.map Subtype.val).sum :=
    List.sum_nonneg (List.forall_mem_map.mpr fun s _ => s.property.1)
  have hsum := List.sum_le_card_nsmul (scores.map Subtype.val) 1
    (List.forall_mem_map.mpr fun s _ => s.property.2)
  rw [List.length_map, nsmul_eq_mul, mul_one] at hsum
  exact ⟨div_nonneg hnonneg hpos.le, (div_le_one hpos).mpr (hsum.trans (le_max_right _ _))⟩

def mean (scores : List Score) : Score := ⟨_, mean_mem scores⟩

inductive ThreatLevel where
  | nominal | low | medium | high | critical
deriving DecidableEq

def ThreatLevel.value : ThreatLevel → String
  | .nominal => "NOMINAL"
  | .low => "LOW"
  | .medium => "MEDIUM"
  | .high => "HIGH"
  | .critical => "CRITICAL"

def ThreatLevel.rank : ThreatLevel → ℕ
  | .nominal => 0
  | .low => 1
  | .medium => 2
  | .high => 3
  | .critical => 4

structure ThreatSeverity where
  level : ThreatLevel
  score : Score
  confidence : Score
  indicators : List String
  remediationRecommendation : String

section Uav

structure UAVTelemetryFrame where
  droneId : String
  batteryStateOfCharge : Score
  rfLinkMarginDb : FloatNumber
  opticalFlowQuality : Score
  rollDeg : ℚ
  pitchDeg : ℚ
  isGpsSpoofedOrDenied : Bool

inductive AirworthinessStatus where
  | nominal | degraded | criticalReturnToBase
deriving DecidableEq

def AirworthinessStatus.value : AirworthinessStatus → String
  | .nominal => "NOMINAL"
  | .degraded => "DEGRADED"
  | .criticalReturnToBase => "CRITICAL_RETURN_TO_BASE"

structure UAVSurveillanceAssessment where
  droneId : String
  airworthinessStatus : AirworthinessStatus
  swarmCohesionScore : Score
  linkHealthScore : Score
  navigationIntegrityScore : Score
  tacticalRiskScore : Score
  indicators : List String
  advisoryDirective : String

/-- What one part of an aircraft shows: its health, its risk and what is said of it. -/
structure PartReading where
  health : Score
  risk : Score
  indicators : List String

def linkReading (frame : UAVTelemetryFrame) : PartReading :=
  if frame.rfLinkMarginDb.lt (.finite 6) then
    ⟨hundredths 20, hundredths 80,
      ["Severe RF link degradation (" ++ frame.rfLinkMarginDb.fixedPoint 1 ++ " dB margin)"]⟩
  else if frame.rfLinkMarginDb.lt (.finite 12) then
    ⟨hundredths 60, hundredths 40,
      ["Moderate RF attenuation (" ++ frame.rfLinkMarginDb.fixedPoint 1 ++ " dB margin)"]⟩
  else ⟨hundredths 95, hundredths 5, []⟩

def navigationReading (frame : UAVTelemetryFrame) : PartReading :=
  if frame.isGpsSpoofedOrDenied then
    if frame.opticalFlowQuality.val < 4 / 10 then
      ⟨hundredths 20, hundredths 90, ["GPS/GNSS denied; relying on Optical Flow / VIO odometry",
        "Optical flow degraded (" ++ fixedPoint 2 frame.opticalFlowQuality.val ++
          "); drift critical"]⟩
    else
      ⟨hundredths 70, hundredths 35, ["GPS/GNSS denied; relying on Optical Flow / VIO odometry"]⟩
  else ⟨hundredths 98, hundredths 2, []⟩

/-- A full battery adds no risk of its own. -/
structure BatteryReading where
  status : AirworthinessStatus
  risks : List Score
  indicators : List String
  advisory : String

def batteryReading (frame : UAVTelemetryFrame) : BatteryReading :=
  if frame.batteryStateOfCharge.val < 15 / 100 then
    ⟨.criticalReturnToBase, [hundredths 95],
      ["Battery critically low (" ++ percent frame.batteryStateOfCharge.val ++ ")"],
      "Initiate immediate automated Return-to-Base (RTB) on secondary INS vector"⟩
  else if frame.batteryStateOfCharge.val < 25 / 100 then
    ⟨.degraded, [hundredths 40],
      ["Battery reserve caution (" ++ percent frame.batteryStateOfCharge.val ++ ")"],
      "Reroute patrol trajectory towards primary recovery staging zone"⟩
  else
    ⟨.nominal, [], [],
      "Maintain tactical surveillance orbit; link and sensor payloads verified"⟩

def nearStall (frame : UAVTelemetryFrame) : Bool :=
  45 < |frame.pitchDeg| || 60 < |frame.rollDeg|

def stallIndicator (frame : UAVTelemetryFrame) : String :=
  "Flight near stall (Pitch=" ++ fixedPoint 1 frame.pitchDeg ++ "°, Roll=" ++
    fixedPoint 1 frame.rollDeg ++ "°)"

def riskComponents (frame : UAVTelemetryFrame) : List Score :=
  [(linkReading frame).risk, (navigationReading frame).risk] ++ (batteryReading frame).risks ++
    if nearStall frame then [hundredths 70] else []

def totalRisk (frame : UAVTelemetryFrame) : Score := (mean (riskComponents frame)).rounded 3

theorem cohesion_mem (risk : Score) :
    0 ≤ max 0 (1 - risk.val * (8 / 10)) ∧ max 0 (1 - risk.val * (8 / 10)) ≤ 1 := by
  have hrisk := risk.nonneg
  exact ⟨le_max_left _ _, max_le zero_le_one (by linarith)⟩

def swarmCohesion (risk : Score) : Score := Score.rounded 2 ⟨_, cohesion_mem risk⟩

/-- Flight near stall overrides what the battery gives, and a high risk overrides both. -/
def airworthiness (frame : UAVTelemetryFrame) : AirworthinessStatus :=
  if 75 / 100 ≤ (totalRisk frame).val then .criticalReturnToBase
  else if nearStall frame then .degraded
  else (batteryReading frame).status

def analyzeFrame (frame : UAVTelemetryFrame) : UAVSurveillanceAssessment where
  droneId := frame.droneId
  airworthinessStatus := airworthiness frame
  swarmCohesionScore := swarmCohesion (totalRisk frame)
  linkHealthScore := (linkReading frame).health.rounded 2
  navigationIntegrityScore := (navigationReading frame).health.rounded 2
  tacticalRiskScore := totalRisk frame
  indicators := (linkReading frame).indicators ++ (navigationReading frame).indicators ++
    (batteryReading frame).indicators ++
      if nearStall frame then [stallIndicator frame] else []
  advisoryDirective := (batteryReading frame).advisory

end Uav

section Starlink

structure StarlinkTelemetry where
  terminalId : String
  downlinkThroughputMbps : FloatNumber
  roundTripLatencyMs : FloatNumber
  packetLossRate : Score
  obstructionFraction : Score
  beamHandoverJitterMs : FloatNumber
  rainFadeAttenuationDb : FloatNumber
  downlink_nonneg : FloatNumber.le (.finite 0) downlinkThroughputMbps = true
  latency_nonneg : FloatNumber.le (.finite 0) roundTripLatencyMs = true
  jitter_nonneg : FloatNumber.le (.finite 0) beamHandoverJitterMs = true
  rainFade_nonneg : FloatNumber.le (.finite 0) rainFadeAttenuationDb = true

/-- From the best to the worst. -/
inductive ChannelState where
  | optimal | degradedLatency | rainFadeAttenuated | offline
deriving DecidableEq

def ChannelState.value : ChannelState → String
  | .optimal => "OPTIMAL"
  | .degradedLatency => "DEGRADED_LATENCY"
  | .rainFadeAttenuated => "RAIN_FADE_ATTENUATED"
  | .offline => "OFFLINE"

def ChannelState.rank : ChannelState → ℕ
  | .optimal => 0
  | .degradedLatency => 1
  | .rainFadeAttenuated => 2
  | .offline => 3

def ChannelState.advisory : ChannelState → String
  | .optimal => "LEO Constellation locked; beam handover nominal"
  | .degradedLatency => "Buffer telemetry frames; suppress non-critical drone payload streams"
  | .rainFadeAttenuated =>
    "Enable adaptive coding (ACM) & prioritize telemetry over video feeds"
  | .offline => "Failover tactical comms to secondary Iridium Certus / terrestrial HF mesh"

structure StarlinkAssessment where
  terminalId : String
  channelState : ChannelState
  availabilityScore : Score
  effectiveBandwidthScore : Score
  latencyThreatScore : Score
  indicators : List String
  advisory : String

/-- A risk with what is said of it, where a reading is beyond its threshold. -/
def finding (beyond : Bool) (risk : ℚ) (indicator : String) : ℚ × List String :=
  if beyond then (risk, [indicator]) else (0, [])

def latencyFinding (t : StarlinkTelemetry) : ℚ × List String :=
  if FloatNumber.lt (.finite 120) t.roundTripLatencyMs then
    (35 / 100, ["High LEO RTT latency (" ++ t.roundTripLatencyMs.fixedPoint 1 ++
      " ms) exceeds SLA"])
  else if FloatNumber.lt (.finite 65) t.roundTripLatencyMs then
    (15 / 100, ["Elevated latency (" ++ t.roundTripLatencyMs.fixedPoint 1 ++ " ms)"])
  else (0, [])

def channelFindings (t : StarlinkTelemetry) : List (ℚ × List String) :=
  [latencyFinding t,
    finding (FloatNumber.lt (.finite 25) t.beamHandoverJitterMs) (2 / 10)
      ("Satellite handover jitter spike (" ++ t.beamHandoverJitterMs.fixedPoint 1 ++ " ms)"),
    finding (FloatNumber.lt (.finite 8) t.rainFadeAttenuationDb) (3 / 10)
      ("Severe atmospheric rain fade (" ++ t.rainFadeAttenuationDb.fixedPoint 1 ++ " dB)"),
    finding (10 / 100 < t.obstructionFraction.val) (4 / 10)
      ("Sky view obstruction (" ++ percent t.obstructionFraction.val ++ ") causing dropouts"),
    finding (5 / 100 < t.packetLossRate.val) (35 / 100)
      ("High packet loss (" ++ percent t.packetLossRate.val ++ ")")]

def channelRisk (t : StarlinkTelemetry) : ℚ := ((channelFindings t).map Prod.fst).sum

def channelState (t : StarlinkTelemetry) : ChannelState :=
  if max 0 (1 - min 1 (channelRisk t)) < 2 / 10 then .offline
  else if FloatNumber.lt (.finite 8) t.rainFadeAttenuationDb then .rainFadeAttenuated
  else if FloatNumber.lt (.finite 100) t.roundTripLatencyMs then .degradedLatency
  else .optimal

theorem channelRisk_nonneg (t : StarlinkTelemetry) : 0 ≤ channelRisk t := by
  have hfinding (beyond : Bool) (risk : ℚ) (indicator : String) (h : 0 ≤ risk) :
      0 ≤ (finding beyond risk indicator).1 := by
    cases beyond
    · exact le_rfl
    · exact h
  have hlatency : 0 ≤ (latencyFinding t).1 := by
    unfold latencyFinding
    split_ifs <;> norm_num
  refine List.sum_nonneg ?_
  simp only [channelFindings, List.map_cons, List.map_nil, List.forall_mem_cons]
  refine ⟨hlatency, ?_, ?_, ?_, ?_, List.forall_mem_nil _⟩ <;> exact hfinding _ _ _ (by norm_num)

theorem threat_mem (t : StarlinkTelemetry) :
    0 ≤ min 1 (channelRisk t) ∧ min 1 (channelRisk t) ≤ 1 :=
  ⟨le_min zero_le_one (channelRisk_nonneg t), min_le_left _ _⟩

def channelThreat (t : StarlinkTelemetry) : Score := ⟨_, threat_mem t⟩

theorem availability_mem (threat : Score) :
    0 ≤ max 0 (1 - threat.val) ∧ max 0 (1 - threat.val) ≤ 1 :=
  ⟨le_max_left _ _, max_le zero_le_one (by linarith [threat.nonneg])⟩

def availability (t : StarlinkTelemetry) : Score := ⟨_, availability_mem (channelThreat t)⟩

/-- The share of a hundred, at most one; an infinite throughput has all of it. -/
def throughputShare (throughput : FloatNumber) : ℚ :=
  if (throughput.div 100).lt (.finite 1) then (throughput.div 100).value else 1

theorem throughputShare_mem {throughput : FloatNumber}
    (h : FloatNumber.le (.finite 0) throughput = true) :
    0 ≤ throughputShare throughput ∧ throughputShare throughput ≤ 1 := by
  cases throughput with
  | nan => cases h
  | negInf => cases h
  | finite q =>
    have hq : 0 ≤ q := by simpa [FloatNumber.le, FloatNumber.lt] using h
    unfold throughputShare
    split_ifs with hlt
    · have hsmall : q / 100 < 1 := of_decide_eq_true hlt
      exact ⟨div_nonneg hq (by norm_num), hsmall.le⟩
    · exact ⟨zero_le_one, le_rfl⟩
  | posInf => exact ⟨zero_le_one, le_rfl⟩

def bandwidth (t : StarlinkTelemetry) : Score := ⟨_, throughputShare_mem t.downlink_nonneg⟩

def evaluateChannel (t : StarlinkTelemetry) : StarlinkAssessment where
  terminalId := t.terminalId
  channelState := channelState t
  availabilityScore := (availability t).rounded 2
  effectiveBandwidthScore := (bandwidth t).rounded 2
  latencyThreatScore := (channelThreat t).rounded 2
  indicators := (channelFindings t).flatMap Prod.snd
  advisory := (channelState t).advisory

end Starlink

section CounterUas

structure CUASDetectionEvent where
  detectedTargetId : String
  protocolFingerprint : String
  estimatedDistanceM : FloatNumber
  radarCrossSectionSqm : FloatNumber
  isSwarmFormation : Bool
  interdictionActive : Bool

structure CUASAssessment where
  airspaceSector : String
  threatSeverity : ThreatSeverity
  detectedDronesCount : ℕ
  swarmLikelihood : Score
  electronicWarfareActive : Bool
  recommendedInterdiction : String
  tacticalSummary : String

def clearAirspace (sector : String) : CUASAssessment where
  airspaceSector := sector
  threatSeverity :=
    { level := .nominal
      score := hundredths 5
      confidence := hundredths 95
      indicators := ["Airspace clear; no unauthorized RF or radar drone signatures"]
      remediationRecommendation := "" }
  detectedDronesCount := 0
  swarmLikelihood := hundredths 0
  electronicWarfareActive := false
  recommendedInterdiction := "Maintain passive RF spectral monitoring"
  tacticalSummary := "Sector " ++ sector ++ " airspace nominal."

def usesMilitarySpectrum (e : CUASDetectionEvent) : Bool :=
  e.protocolFingerprint = "CUSTOM_FHSS" || e.protocolFingerprint = "UNKNOWN_DIRECT_SEQUENCE"

def eventRisk (e : CUASDetectionEvent) : ℚ :=
  (if e.estimatedDistanceM.lt (.finite 500) then 4 / 10
    else if e.estimatedDistanceM.lt (.finite 2000) then 2 / 10 else 1 / 10) +
    if usesMilitarySpectrum e then 25 / 100 else 0

def wholeText (x : FloatNumber) : String := x.text fun q => toString (roundHalfEven q)

def eventIndicators (e : CUASDetectionEvent) : List String :=
  ("Target " ++ e.detectedTargetId ++ " [" ++ e.protocolFingerprint ++ "]: " ++
    wholeText e.estimatedDistanceM ++ "m, RCS=" ++ e.radarCrossSectionSqm.fixedPoint 3 ++ "m²") ::
    if usesMilitarySpectrum e then
      ["Target " ++ e.detectedTargetId ++ " using military FHSS spread spectrum"]
    else []

def isSwarm (events : List CUASDetectionEvent) : Bool :=
  3 ≤ events.length || events.any CUASDetectionEvent.isSwarmFormation

/-- What the loop over the detections adds up to, with the share of a swarm. -/
def sectorRisk (events : List CUASDetectionEvent) : ℚ :=
  (events.map eventRisk).sum + if isSwarm events then 35 / 100 else 0

theorem eventRisk_ge (e : CUASDetectionEvent) : 1 / 10 ≤ eventRisk e := by
  unfold eventRisk
  split_ifs <;> norm_num

theorem eventRisks_nonneg (events : List CUASDetectionEvent) :
    ∀ risk ∈ events.map eventRisk, 0 ≤ risk :=
  List.forall_mem_map.mpr fun e _ => by linarith [eventRisk_ge e]

theorem sectorRisk_nonneg (events : List CUASDetectionEvent) : 0 ≤ sectorRisk events := by
  have hsum : 0 ≤ (events.map eventRisk).sum := List.sum_nonneg (eventRisks_nonneg events)
  unfold sectorRisk
  split_ifs <;> linarith

theorem sectorThreat_mem (events : List CUASDetectionEvent) :
    0 ≤ min 1 (sectorRisk events) ∧ min 1 (sectorRisk events) ≤ 1 :=
  ⟨le_min zero_le_one (sectorRisk_nonneg events), min_le_left _ _⟩

def sectorThreat (events : List CUASDetectionEvent) : Score := ⟨_, sectorThreat_mem events⟩

def sectorLevel (threat : Score) : ThreatLevel :=
  if 75 / 100 ≤ threat.val then .critical
  else if 45 / 100 ≤ threat.val then .high
  else .medium

def interdiction (threat : Score) : String :=
  if 75 / 100 ≤ threat.val then
    "Authorize directional C-UAS RF barrage jamming; prepare kinetic net intercept"
  else if 45 / 100 ≤ threat.val then
    "Activate targeted RF protocol disruption; focus PTZ EO/IR cameras on bearing"
  else "Track target trajectory and log RF signature"

theorem lone_mem (count : ℕ) :
    0 ≤ min (4 / 10) ((count : ℚ) * (15 / 100)) ∧ min (4 / 10) ((count : ℚ) * (15 / 100)) ≤ 1 :=
  ⟨le_min (by norm_num) (by positivity), (min_le_left _ _).trans (by norm_num)⟩

def swarmLikelihood (events : List CUASDetectionEvent) : Score :=
  if isSwarm events then hundredths 90 else ⟨_, lone_mem events.length⟩

def analyzeEvents (sector : String) (events : List CUASDetectionEvent) : CUASAssessment :=
  if events = [] then clearAirspace sector
  else
    { airspaceSector := sector
      threatSeverity :=
        { level := sectorLevel (sectorThreat events)
          score := (sectorThreat events).rounded 3
          confidence := hundredths 94
          indicators := events.flatMap eventIndicators ++
            if isSwarm events then
              ["Swarm attack pattern: " ++ toString events.length ++
                " coordinated targets in sector"]
            else []
          remediationRecommendation := interdiction (sectorThreat events) }
      detectedDronesCount := events.length
      swarmLikelihood := swarmLikelihood events
      electronicWarfareActive := events.any CUASDetectionEvent.interdictionActive
      recommendedInterdiction := interdiction (sectorThreat events)
      tacticalSummary := "C-UAS Threat Level " ++ (sectorLevel (sectorThreat events)).value ++
        " in " ++ sector ++ ": " ++ toString events.length ++ " active targets. Swarm: " ++
        (if isSwarm events then "CONFIRMED" else "UNLIKELY") ++ ". Interdiction: " ++
        (if events.any CUASDetectionEvent.interdictionActive then "ACTIVE" else "STANDBY") ++
        "." }

end CounterUas
end ContinuityOS.Tactical
