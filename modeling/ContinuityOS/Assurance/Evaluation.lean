import ContinuityOS.Assurance.Spec
import ContinuityOS.Library.Rounding

/-! # Assurance budgeting

A policy is evaluated dimension by dimension. A dimension whose score is no score at all is
a validation error of the whole evaluation.
-/
namespace ContinuityOS.Assurance
open Library

structure AssuranceDimensionResult where
  dimension : String
  category : String
  passed : Bool
  required : String
  observed : String
  score : Score
  message : String
deriving DecidableEq

structure AssuranceScorecard where
  policyName : String
  overallCompliant : Bool
  assuranceScore : Score
  dimensions : List AssuranceDimensionResult
  failedDimensions : List String
  summary : String

structure AssuranceObservedState where
  continuityScore : ℚ := 1
  availableCorridors : ℤ := 2
  availablePorts : ℤ := 2
  independentCommProviders : ℤ := 2
  independentNavSources : ℤ := 3
  independentObsSources : ℤ := 2
  independentOperationalSources : ℤ := 2
  independentEnvironmentalSources : ℤ := 2
  carrierOptions : ℤ := 2
  insuranceVerified : Bool := true
  reserveDays : ℚ := 45
  assuredReplenishmentCycles : ℤ := 1
  carrierReturnVerified : Bool := true
  backlogClearanceVerified : Bool := true
  reserveRestorationVerified : Bool := true

section Dimensions

/-- A score is validated when it is stored. -/
def validScore (q : ℚ) : Option Score := if h : 0 ≤ q ∧ q ≤ 1 then some ⟨q, h⟩ else none

/-- A dimension that asks for an amount. -/
def amountDimension (dimension category : String) (required observed : ℚ)
    (requiredText observedText metText shortText : String) : Option AssuranceDimensionResult := do
  let score ← validScore (if 0 < required then min 1 (observed / required) else 1)
  return { dimension := dimension
           category := category
           passed := required ≤ observed
           required := requiredText
           observed := observedText
           score := score
           message := if required ≤ observed then metText else shortText }

/-- A dimension that asks for a count of something. -/
def countDimension (dimension category noun : String) (required observed : ℤ)
    (metText shortText : String) : Option AssuranceDimensionResult :=
  amountDimension dimension category required observed (s!">= {required} " ++ noun)
    (toString observed) metText shortText

/-- A dimension that asks for a verification. -/
def verifiedDimension (dimension category : String) (passed : Bool)
    (requiredText yesText noText metText shortText : String) : Option AssuranceDimensionResult :=
  some { dimension := dimension
         category := category
         passed := passed
         required := requiredText
         observed := if passed then yesText else noText
         score := if passed then Score.one else ⟨0, Score.zero_mem⟩
         message := if passed then metText else shortText }

variable (policy : AssurancePolicySpec) (state : AssuranceObservedState)

def continuityObjective : Option AssuranceDimensionResult :=
  let required := policy.continuityObjective.minimum.val
  amountDimension "continuity_objective" "objective" required state.continuityScore
    (">= " ++ percent required) (percent state.continuityScore)
    "Satisfies minimum continuity objective"
    ("Continuity deficit: " ++ percent (required - state.continuityScore))

def corridorRedundancy : Option AssuranceDimensionResult :=
  let required := policy.tolerate.corridorLoss.val + 1
  countDimension "corridor_redundancy" "tolerance" "corridors" required state.availableCorridors
    s!"Tolerates {policy.tolerate.corridorLoss.val} corridor loss"
    s!"Requires {required - state.availableCorridors} additional corridor(s)"

def portRedundancy : Option AssuranceDimensionResult :=
  let required := policy.tolerate.portLoss.val + 1
  countDimension "port_redundancy" "tolerance" "ports" required state.availablePorts
    s!"Tolerates {policy.tolerate.portLoss.val} port loss"
    s!"Requires {required - state.availablePorts} additional port(s)"

def communicationTolerance : Option AssuranceDimensionResult :=
  let required := policy.tolerate.communicationProviderLoss.val + 1
  countDimension "communication_tolerance" "tolerance" "providers" required
    state.independentCommProviders
    s!"Tolerates {policy.tolerate.communicationProviderLoss.val} comm loss"
    s!"Requires {required - state.independentCommProviders} additional independent provider(s)"

def navigationTolerance : Option AssuranceDimensionResult :=
  let required := policy.tolerate.navigationSourceLoss.val + 1
  countDimension "navigation_tolerance" "tolerance" "sources" required state.independentNavSources
    s!"Tolerates {policy.tolerate.navigationSourceLoss.val} nav source loss"
    s!"Requires {required - state.independentNavSources} additional navigation source(s)"

def operationalEvidenceSources : Option AssuranceDimensionResult :=
  let required := policy.evidence.minimumIndependentOperationalSources.val
  countDimension "operational_evidence_sources" "evidence" "sources" required
    state.independentOperationalSources "Satisfies operational source diversity"
    s!"Needs {required - state.independentOperationalSources} more independent operational source(s)"

def environmentalEvidenceSources : Option AssuranceDimensionResult :=
  let required := policy.evidence.minimumIndependentEnvironmentalSources.val
  countDimension "environmental_evidence_sources" "evidence" "sources" required
    state.independentEnvironmentalSources "Satisfies environmental source diversity"
    (s!"Needs {required - state.independentEnvironmentalSources} more independent " ++
      "environmental source(s)")

def carrierOptions : Option AssuranceDimensionResult :=
  let required := policy.commercial.minimumCarrierOptions.val
  countDimension "carrier_options" "commercial" "carriers" required state.carrierOptions
    "Sufficient commercial carrier competition"
    s!"Requires {required - state.carrierOptions} additional commercial carrier option(s)"

def insuranceUnderwriting : Option AssuranceDimensionResult :=
  verifiedDimension "insurance_underwriting" "commercial" state.insuranceVerified "true" "true"
    "false" "War-risk and marine insurance coverage active"
    "Insurance coverage withdrawn or unverified"

def inventoryReserveDays : Option AssuranceDimensionResult :=
  let required := policy.inventory.minimumReserveDays.val
  amountDimension "inventory_reserve_days" "inventory" required state.reserveDays
    s!">= {required} days" (fixedPoint 1 state.reserveDays ++ " days")
    "Strategic reserve days satisfy buffer"
    ("Reserve deficit of " ++ fixedPoint 1 (required - state.reserveDays) ++ " days")

def assuredReplenishmentCycles : Option AssuranceDimensionResult :=
  countDimension "assured_replenishment_cycles" "inventory" "cycle(s)"
    policy.inventory.minimumAssuredReplenishmentCycles.val state.assuredReplenishmentCycles
    "Next replenishment cycle assured" "Replenishment cycle unverified or disrupted"

def recoveryCarrierReturn : Option AssuranceDimensionResult :=
  verifiedDimension "recovery_carrier_return" "recovery" state.carrierReturnVerified "verified"
    "verified" "unverified" "Carrier return contractually or physically verified"
    "Carrier return not yet confirmed"

def recoveryBacklogClearance : Option AssuranceDimensionResult :=
  verifiedDimension "recovery_backlog_clearance" "recovery" state.backlogClearanceVerified
    "verified" "verified" "backlog_active" "Port and transit backlogs confirmed cleared"
    "Active backlog prevents full restoration"

def recoveryReserveRestoration : Option AssuranceDimensionResult :=
  verifiedDimension "recovery_reserve_restoration" "recovery" state.reserveRestorationVerified
    "verified" "verified" "depleted" "Strategic reserves confirmed rebuilt to baseline"
    "Reserves still recovering toward nominal buffer"

/-- The dimensions in order; a verification is asked for only when it is switched on. -/
def dimensions : List (Option AssuranceDimensionResult) :=
  [continuityObjective policy state, corridorRedundancy policy state, portRedundancy policy state,
    communicationTolerance policy state, navigationTolerance policy state,
    operationalEvidenceSources policy state, environmentalEvidenceSources policy state,
    carrierOptions policy state] ++
  (if policy.commercial.insuranceRequired then [insuranceUnderwriting state] else []) ++
  [inventoryReserveDays policy state, assuredReplenishmentCycles policy state] ++
  (if policy.recovery.verifyCarrierReturn then [recoveryCarrierReturn state] else []) ++
  (if policy.recovery.verifyBacklogClearance then [recoveryBacklogClearance state] else []) ++
  (if policy.recovery.verifyReserveRestoration then [recoveryReserveRestoration state] else [])

end Dimensions

def failedDimensions (results : List AssuranceDimensionResult) : List String :=
  (results.filter fun result => !result.passed).map AssuranceDimensionResult.dimension

def totalScore (results : List AssuranceDimensionResult) : ℚ :=
  if results = [] then 0 else (results.map fun result => result.score.val).sum / results.length

def evaluateAssurance (policy : AssurancePolicySpec) (state : AssuranceObservedState)
    (policyName : String) : Option AssuranceScorecard := do
  let results ← (dimensions policy state).mapM id
  let failed := failedDimensions results
  let score ← validScore (roundDigits 4 (totalScore results))
  return { policyName := policyName
           overallCompliant := failed.length = 0
           assuranceScore := score
           dimensions := results
           failedDimensions := failed
           summary :=
             if failed.length = 0 then
               s!"Assurance policy '{policyName}' COMPLIANT ({percent (totalScore results)})"
             else
               s!"Assurance policy '{policyName}' NON-COMPLIANT: {failed.length} " ++
                 "dimension(s) failed (" ++ String.intercalate ", " failed ++ ")" }

end ContinuityOS.Assurance
