import ContinuityOS.Domain.Corridor
import ContinuityOS.Library.Rounding

/-! # Functional closure assessment

Five layers are assessed one by one; the effective state is the first rule of a
decision list over their states and reason codes.
-/
namespace ContinuityOS.Closure
open Library

inductive LayerState where
  | available | degraded | unavailable | unknown
deriving DecidableEq

inductive ReasonCode where
  | physicallyInaccessible
  | physicalCapacitySeverelyConstrained
  | navigationUnavailable
  | navigationUntrusted
  | communicationsUnavailable
  | communicationsDegraded
  | escortUnavailable
  | serviceDependent
  | weatherUnsafe
  | uninsurable
  | noCarrierCapacity
  | commerciallyUnviable
  | dataIntegrityLow
  | observationConfidenceLow
  | insufficientSourceDiversity
  | recoveryBacklogged
deriving DecidableEq

/-- The code as the source spells it. -/
def ReasonCode.text : ReasonCode → String
  | .physicallyInaccessible => "physically_inaccessible"
  | .physicalCapacitySeverelyConstrained => "physical_capacity_severely_constrained"
  | .navigationUnavailable => "navigation_unavailable"
  | .navigationUntrusted => "navigation_untrusted"
  | .communicationsUnavailable => "communications_unavailable"
  | .communicationsDegraded => "communications_degraded"
  | .escortUnavailable => "escort_unavailable"
  | .serviceDependent => "service_dependent"
  | .weatherUnsafe => "weather_unsafe"
  | .uninsurable => "uninsurable"
  | .noCarrierCapacity => "no_carrier_capacity"
  | .commerciallyUnviable => "commercially_unviable"
  | .dataIntegrityLow => "data_integrity_low"
  | .observationConfidenceLow => "observation_confidence_low"
  | .insufficientSourceDiversity => "insufficient_source_diversity"
  | .recoveryBacklogged => "recovery_backlogged"

structure ClosureLayer where
  layer : String
  state : LayerState
  confidence : ℚ
  reasonCodes : List ReasonCode
  supportingEvidence : List String := []
deriving DecidableEq

structure ClosureInput where
  resourceRef : String
  physicallyAccessible : Bool := true
  physicalCapacityRatio : Score := Score.one
  navigationAvailable : Bool := true
  navigationTrust : Score := Score.one
  communicationsAvailable : Bool := true
  communicationsTrust : Score := Score.one
  escortAvailable : Bool := true
  escortDependent : Bool := false
  weatherSafe : Bool := true
  insuranceAvailable : Bool := true
  insuranceCoverage : Score := Score.one
  carrierCapacityAvailable : Bool := true
  carrierCapacityRatio : Score := Score.one
  commercialViability : Score := Score.one
  dataIntegrity : Score := Score.one
  observationConfidence : Score := Score.one
  sourceDiversity : ℕ := 2
  recoveryBacklogActive : Bool := false
  policyViolations : List String := []
  dependencyTrace : List String := []
  evidenceRefs : List String := []
  timestamp : Instant := 0

structure ClosureAssessment where
  resourceRef : String
  physicalState : ClosureLayer
  operationalState : ClosureLayer
  commercialState : ClosureLayer
  trustState : ClosureLayer
  recoveryState : ClosureLayer
  effectiveState : CorridorState
  reasonCodes : List ReasonCode
  confidence : ℚ
  policyViolations : List String
  dependencyTrace : List String
  evidenceRefs : List String
  supportingEvidence : List String
  timestamp : Instant

/-- The code is appended when the test holds. -/
def reasonIf (test : Bool) (code : ReasonCode) : List ReasonCode := if test then [code] else []

def assessPhysical (inp : ClosureInput) : ClosureLayer :=
  if !inp.physicallyAccessible then
    { layer := "physical", state := .unavailable, confidence := 95 / 100
      reasonCodes := [.physicallyInaccessible] }
  else if inp.physicalCapacityRatio.val ≤ 2 / 10 then
    { layer := "physical", state := .degraded, confidence := 85 / 100
      reasonCodes := [.physicalCapacitySeverelyConstrained] }
  else { layer := "physical", state := .available, confidence := 9 / 10, reasonCodes := [] }

def operationalReasons (inp : ClosureInput) : List ReasonCode :=
  reasonIf (!inp.navigationAvailable) .navigationUnavailable ++
  reasonIf (inp.navigationTrust.val < 5 / 10) .navigationUntrusted ++
  reasonIf (!inp.communicationsAvailable) .communicationsUnavailable ++
  reasonIf (inp.communicationsTrust.val < 5 / 10) .communicationsDegraded ++
  reasonIf (!inp.escortAvailable) .escortUnavailable ++
  reasonIf (inp.escortDependent && !inp.escortAvailable) .serviceDependent ++
  reasonIf (!inp.weatherSafe) .weatherUnsafe

def assessOperational (inp : ClosureInput) : ClosureLayer :=
  let reasons := operationalReasons inp
  if !inp.navigationAvailable || !inp.communicationsAvailable then
    { layer := "operational", state := .unavailable, confidence := 9 / 10, reasonCodes := reasons }
  else if reasons ≠ [] then
    { layer := "operational", state := .degraded, confidence := 8 / 10, reasonCodes := reasons }
  else { layer := "operational", state := .available, confidence := 9 / 10, reasonCodes := [] }

def commercialReasons (inp : ClosureInput) : List ReasonCode :=
  reasonIf (!inp.insuranceAvailable || inp.insuranceCoverage.val ≤ 1 / 10) .uninsurable ++
  reasonIf (!inp.carrierCapacityAvailable || inp.carrierCapacityRatio.val ≤ 1 / 10)
    .noCarrierCapacity ++
  reasonIf (inp.commercialViability.val ≤ 2 / 10) .commerciallyUnviable

def assessCommercial (inp : ClosureInput) : ClosureLayer :=
  let reasons := commercialReasons inp
  if .uninsurable ∈ reasons ∧ .noCarrierCapacity ∈ reasons then
    { layer := "commercial", state := .unavailable, confidence := 85 / 100, reasonCodes := reasons }
  else if reasons ≠ [] then
    { layer := "commercial", state := .degraded, confidence := 8 / 10, reasonCodes := reasons }
  else { layer := "commercial", state := .available, confidence := 85 / 100, reasonCodes := [] }

def trustReasons (inp : ClosureInput) : List ReasonCode :=
  reasonIf (inp.dataIntegrity.val < 5 / 10) .dataIntegrityLow ++
  reasonIf (inp.observationConfidence.val < 5 / 10) .observationConfidenceLow ++
  reasonIf (inp.sourceDiversity < 2) .insufficientSourceDiversity

def assessTrust (inp : ClosureInput) : ClosureLayer :=
  let reasons := trustReasons inp
  if inp.dataIntegrity.val < 3 / 10 ∨ inp.observationConfidence.val < 3 / 10 then
    { layer := "trust", state := .unavailable, confidence := 7 / 10, reasonCodes := reasons }
  else if reasons ≠ [] then
    { layer := "trust", state := .degraded, confidence := 75 / 100, reasonCodes := reasons }
  else { layer := "trust", state := .available, confidence := 85 / 100, reasonCodes := [] }

def assessRecovery (inp : ClosureInput) : ClosureLayer :=
  if inp.recoveryBacklogActive then
    { layer := "recovery", state := .degraded, confidence := 85 / 100
      reasonCodes := [.recoveryBacklogged] }
  else { layer := "recovery", state := .available, confidence := 95 / 100, reasonCodes := [] }

def deriveEffectiveState (physical operational commercial trust : ClosureLayer)
    (recovery : Option ClosureLayer) : CorridorState :=
  if physical.state = .unavailable then .physicallyClosed
  else if operational.state = .unavailable ∨
      (commercial.state = .unavailable ∧ trust.state = .unavailable) then .functionallyClosed
  else if .uninsurable ∈ commercial.reasonCodes then .openButUninsurable
  else if .noCarrierCapacity ∈ commercial.reasonCodes then .openButNoCarrierCapacity
  else if .navigationUntrusted ∈ operational.reasonCodes then .openButNavigationUntrusted
  else if .communicationsDegraded ∈ operational.reasonCodes then .openButCommunicationsDegraded
  else if .serviceDependent ∈ operational.reasonCodes then .openButServiceDependent
  else if recovery.any (fun r => .recoveryBacklogged ∈ r.reasonCodes) then .recoveryBacklogged
  else if physical.state = .degraded then .openCapacityConstrained
  else if operational.state = .degraded ∨ commercial.state = .degraded ∨
      trust.state = .degraded ∨ recovery.any (fun r => r.state = .degraded) then .openDegraded
  else if trust.state = .unknown then .unknown
  else .opened

def assessClosure (inp : ClosureInput) : ClosureAssessment :=
  let physical := assessPhysical inp
  let operational := assessOperational inp
  let commercial := assessCommercial inp
  let trust := assessTrust inp
  let recovery := assessRecovery inp
  { resourceRef := inp.resourceRef
    physicalState := physical
    operationalState := operational
    commercialState := commercial
    trustState := trust
    recoveryState := recovery
    effectiveState := deriveEffectiveState physical operational commercial trust (some recovery)
    reasonCodes := physical.reasonCodes ++ operational.reasonCodes ++ commercial.reasonCodes ++
      trust.reasonCodes ++ recovery.reasonCodes
    confidence := roundDigits 6 (min physical.confidence (min operational.confidence
      (min commercial.confidence (min trust.confidence recovery.confidence))))
    policyViolations := inp.policyViolations
    dependencyTrace := inp.dependencyTrace
    evidenceRefs := inp.evidenceRefs
    supportingEvidence := physical.supportingEvidence ++ operational.supportingEvidence ++
      commercial.supportingEvidence ++ trust.supportingEvidence ++
      recovery.supportingEvidence ++ inp.evidenceRefs
    timestamp := inp.timestamp }

end ContinuityOS.Closure
