import ContinuityOS.Domain.Corridor
import ContinuityOS.Reconcile.Model

/-! # The readiness engine

A theatre is rated by a decision list over the score of its corridor, its reserves and
its continuity. A corridor state that no list names scores one. The policy result is
accepted and not read.
-/
namespace ContinuityOS.Readiness
open Library Reconcile

inductive CLevelRating where
  | fullyMissionCapable | substantiallyCapable | marginallyCapable | notMissionCapable
  | regenerationUnderway
deriving DecidableEq

def CLevelRating.value : CLevelRating → String
  | .fullyMissionCapable => "C-1_fully_capable"
  | .substantiallyCapable => "C-2_substantially_capable"
  | .marginallyCapable => "C-3_marginally_capable"
  | .notMissionCapable => "C-4_not_capable"
  | .regenerationUnderway => "C-5_regeneration"

structure MissionLimitingFactor where
  factorId : String
  category : String
  description : String
  impactOnCRating : String

structure ReadinessAssessment where
  assessmentId : String
  unitOrTheaterId : String
  cRating : CLevelRating
  overallContinuityScore : Score
  inventoryReadinessScore : Score
  corridorOperationalScore : Score
  missionLimitingFactors : List MissionLimitingFactor
  executiveBriefing : String

section Corridor

def closedStates : List CorridorState := [.physicallyClosed, .functionallyClosed]

def restrictedStates : List CorridorState :=
  [.openButUninsurable, .openButNoCarrierCapacity, .openButNavigationUntrusted,
    .openButCommunicationsDegraded]

def constrainedStates : List CorridorState := [.openDegraded, .openCapacityConstrained]

def corridorScore (state : CorridorState) : Score :=
  if state ∈ closedStates then ⟨0, Score.zero_mem⟩
  else if state ∈ restrictedStates then Score.half
  else if state ∈ constrainedStates then ⟨8 / 10, by norm_num⟩
  else Score.one

def corridorFactors (state : CorridorState) : List MissionLimitingFactor :=
  if state ∈ closedStates then
    [{ factorId := "CORRIDOR_CLOSED"
       category := "CORRIDOR_STATE"
       description := "Primary theater transit corridor is " ++ state.value
       impactOnCRating := "Direct downgrade to C-4" }]
  else if state ∈ restrictedStates then
    [{ factorId := "CORRIDOR_DEGRADED"
       category := "CORRIDOR_STATE"
       description := "Corridor is " ++ state.value
       impactOnCRating := "Restricts rating to C-3 maximum" }]
  else []

end Corridor

section Inventory

def inventoryScore (inventoryReserveDays : ℚ) : ℚ := min 1 (inventoryReserveDays / 30)

def inventoryFactors (inventoryReserveDays : ℚ) : List MissionLimitingFactor :=
  if inventoryReserveDays < 7 then
    [{ factorId := "CRITICAL_INVENTORY_DEPLETION"
       category := "INVENTORY_SHORTAGE"
       description :=
         "Strategic reserves down to " ++ fixedPoint 1 inventoryReserveDays ++ " days (< 7d)"
       impactOnCRating := "Direct downgrade to C-4" }]
  else if inventoryReserveDays < 20 then
    [{ factorId := "LOW_INVENTORY_RESERVE"
       category := "INVENTORY_SHORTAGE"
       description :=
         "Strategic reserves down to " ++ fixedPoint 1 inventoryReserveDays ++ " days (< 20d)"
       impactOnCRating := "Restricts rating to C-2/C-3" }]
  else []

end Inventory

section Rating

def isFailed (reconciliationResult : Option ReconciliationResult) : Bool :=
  reconciliationResult.any fun result => result.overallStatus = .fail

def reconciliationFactors (reconciliationResult : Option ReconciliationResult) :
    List MissionLimitingFactor :=
  match reconciliationResult with
  | none => []
  | some result =>
    if result.overallStatus = .fail then
      [{ factorId := "POLICY_RECONCILIATION_FAILURE"
         category := "POLICY_VIOLATION"
         description := toString result.failCount ++ " critical policy assertions failing"
         impactOnCRating := "Restricts rating to C-3 or C-4" }]
    else []

variable (overallContinuity inventoryReserveDays : ℚ) (corridorState : CorridorState)
  (reconciliationResult : Option ReconciliationResult)

def cRating : CLevelRating :=
  if (corridorScore corridorState).val = 0 ∨ inventoryReserveDays < 7 ∨
      overallContinuity < 65 / 100 then .notMissionCapable
  else if (corridorScore corridorState).val ≤ 1 / 2 ∨ inventoryReserveDays < 20 ∨
      overallContinuity < 8 / 10 ∨ isFailed reconciliationResult = true then .marginallyCapable
  else if inventoryReserveDays < 30 ∨ overallContinuity < 95 / 100 then .substantiallyCapable
  else .fullyMissionCapable

def limitingFactors : List MissionLimitingFactor :=
  corridorFactors corridorState ++ inventoryFactors inventoryReserveDays ++
    reconciliationFactors reconciliationResult

def briefing : String :=
  let factors := limitingFactors inventoryReserveDays corridorState reconciliationResult
  " | ".intercalate
    (["Theater Readiness Assessment: " ++
        (cRating overallContinuity inventoryReserveDays corridorState
          reconciliationResult).value.toUpper,
      "Continuity: " ++ percent overallContinuity,
      "Inventory Reserves: " ++ fixedPoint 1 inventoryReserveDays ++ " days",
      "Corridor Operational Status: " ++ corridorState.value] ++
    if factors = [] then []
    else [toString factors.length ++ " Mission-Limiting Factors Active: " ++
      "; ".intercalate (factors.map MissionLimitingFactor.description)])

end Rating

/-- The fields of the assessment that are not in the unit interval. -/
inductive ReadinessError where
  | scoresOutOfRange (fields : List String)
deriving DecidableEq

def checkScore (score : ℚ) : Option Score :=
  if h : 0 ≤ score ∧ score ≤ 1 then some ⟨score, h⟩ else none

def evaluateReadiness (assessmentId theaterId : String)
    (overallContinuity inventoryReserveDays : ℚ) (corridorState : CorridorState)
    (reconciliationResult : Option ReconciliationResult) :
    Except ReadinessError ReadinessAssessment :=
  match checkScore (roundDigits 4 overallContinuity),
    checkScore (roundDigits 4 (inventoryScore inventoryReserveDays)) with
  | some continuityScore, some readinessScore => .ok
    { assessmentId := assessmentId
      unitOrTheaterId := theaterId
      cRating := cRating overallContinuity inventoryReserveDays corridorState reconciliationResult
      overallContinuityScore := continuityScore
      inventoryReadinessScore := readinessScore
      corridorOperationalScore := (corridorScore corridorState).rounded 4
      missionLimitingFactors :=
        limitingFactors inventoryReserveDays corridorState reconciliationResult
      executiveBriefing :=
        briefing overallContinuity inventoryReserveDays corridorState reconciliationResult }
  | continuityScore, readinessScore => .error (.scoresOutOfRange
    ((if continuityScore.isNone then ["overall_continuity_score"] else []) ++
      if readinessScore.isNone then ["inventory_readiness_score"] else []))

end ContinuityOS.Readiness
