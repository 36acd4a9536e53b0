import ContinuityOS.Domain
import ContinuityOS.Library.Dict
import ContinuityOS.Library.Rounding
import ContinuityOS.Library.Text

/-! # Desired state against observed state

Every requirement that is set gives one check. A value that was not observed is unknown,
and a value below target is graded by the share of the target it reaches.
-/
namespace ContinuityOS.Reconcile
open Library

inductive ReconciliationStatus where
  | compliant | drift | degraded | fail | unknown
deriving DecidableEq

structure ReconciliationCheck where
  checkId : String
  description : String
  desired : String
  observed : String
  status : ReconciliationStatus
  deficit : Option String := none
  evidenceIds : List String := []
deriving DecidableEq

structure ReconciliationResult where
  overallStatus : ReconciliationStatus
  checks : List ReconciliationCheck
  compliantCount : ℕ
  driftCount : ℕ
  degradedCount : ℕ
  failCount : ℕ
  unknownCount : ℕ
  summary : String

structure DesiredState where
  satcomProviderCount : Option ℤ := none
  fuelReserveDays : Option ℚ := none
  medicalReserveDays : Option ℚ := none
  minimumRoutes : Option ℤ := none
  minimumContinuity : Option Score := none
  navigationSourceCount : Option ℤ := none
  observationSourceCount : Option ℤ := none
  minimumTrustScore : Option Score := none
  customChecks : Dict String ℚ := Dict.empty

structure ActualState where
  satcomProviderCount : Option ℤ := none
  fuelReserveDays : Option ℚ := none
  medicalReserveDays : Option ℚ := none
  routeCount : Option ℤ := none
  overallContinuity : Option Score := none
  navigationSourceCount : Option ℤ := none
  observationSourceCount : Option ℤ := none
  trustScores : Dict String ℚ := Dict.empty
  customValues : Dict String ℚ := Dict.empty

section Compare

/-- The grade of a value below its target. -/
def shortfallStatus (desired observed : ℚ) : ReconciliationStatus :=
  let ratio := if 0 < desired then observed / desired else 0
  if 4 / 5 ≤ ratio then .drift else if 1 / 2 ≤ ratio then .degraded else .fail

/-- One comparison for both kinds of number; `shown` and `missing` word the observed value
and what it lacks. -/
def compareValue {ν : Type*} (value : ν → ℚ) (checkId description target : String)
    (shown missing : ν → String) (desired : ν) (observed : Option ν) : ReconciliationCheck :=
  match observed with
  | none =>
    { checkId := checkId, description := description, desired := target
      observed := "unknown", status := .unknown }
  | some found =>
    if value desired ≤ value found then
      { checkId := checkId, description := description, desired := target
        observed := shown found, status := .compliant }
    else
      { checkId := checkId, description := description, desired := target
        observed := shown found, status := shortfallStatus (value desired) (value found)
        deficit := some (missing found) }

def compareInt (checkId description : String) (desired : ℤ) (observed : Option ℤ) :
    ReconciliationCheck :=
  compareValue (fun n : ℤ => (n : ℚ)) checkId description s!">= {desired}" toString
    (fun found => s!"{desired - found} below target") desired observed

def stripText (text : String) : String := String.ofList (strip text.toList)

/-- The text of a float is left to the caller. -/
def compareFloat (floatText : ℚ → String) (checkId description : String) (desired : ℚ)
    (observed : Option ℚ) (unit : String) : ReconciliationCheck :=
  compareValue id checkId description (stripText (">= " ++ floatText desired ++ " " ++ unit))
    (fun found => stripText (floatText found ++ " " ++ unit))
    (fun found => stripText (fixedPoint 1 (desired - found) ++ " " ++ unit ++ " below target"))
    desired observed

end Compare

section Checks
variable (floatText : ℚ → String) (desired : DesiredState) (actual : ActualState)

def checks : List ReconciliationCheck :=
  (desired.satcomProviderCount.map fun bound =>
      compareInt "SATCOM_PROVIDER_COUNT" "SATCOM providers must meet redundancy requirement" bound
        actual.satcomProviderCount).toList ++
  (desired.fuelReserveDays.map fun bound =>
      compareFloat floatText "FUEL_RESERVE" "Fuel reserve must meet minimum days" bound
        actual.fuelReserveDays "days").toList ++
  (desired.medicalReserveDays.map fun bound =>
      compareFloat floatText "MEDICAL_RESERVE" "Medical reserve must meet minimum days" bound
        actual.medicalReserveDays "days").toList ++
  (desired.minimumRoutes.map fun bound =>
      compareInt "ROUTE_COUNT" "Independent routes must meet minimum" bound
        actual.routeCount).toList ++
  (desired.minimumContinuity.map fun bound =>
      compareFloat floatText "OVERALL_CONTINUITY" "Overall continuity must meet target" bound.val
        (actual.overallContinuity.map Subtype.val) "ratio").toList ++
  (desired.navigationSourceCount.map fun bound =>
      compareInt "NAVIGATION_SOURCE_COUNT" "Navigation sources must meet minimum" bound
        actual.navigationSourceCount).toList ++
  (desired.observationSourceCount.map fun bound =>
      compareInt "OBSERVATION_SOURCE_COUNT" "Observation sources must meet minimum" bound
        actual.observationSourceCount).toList ++
  desired.customChecks.entries.map fun (key, bound) =>
    compareFloat floatText key ("Custom check: " ++ key) bound (actual.customValues.get? key) ""

end Checks

/-- The worst grade present; a failure comes first and an unknown last. -/
def overallStatus (statuses : List ReconciliationStatus) : ReconciliationStatus :=
  if 0 < statuses.count .fail then .fail
  else if 0 < statuses.count .degraded then .degraded
  else if 0 < statuses.count .drift then .drift
  else if 0 < statuses.count .unknown then .unknown
  else .compliant

def reconcile (floatText : ℚ → String) (desired : DesiredState) (actual : ActualState) :
    ReconciliationResult :=
  let found := checks floatText desired actual
  let statuses := found.map ReconciliationCheck.status
  { overallStatus := overallStatus statuses
    checks := found
    compliantCount := statuses.count .compliant
    driftCount := statuses.count .drift
    degradedCount := statuses.count .degraded
    failCount := statuses.count .fail
    unknownCount := statuses.count .unknown
    summary := s!"{found.length} checks: {statuses.count .compliant} compliant, " ++
      s!"{statuses.count .drift} drift, {statuses.count .degraded} degraded, " ++
      s!"{statuses.count .fail} fail, {statuses.count .unknown} unknown" }

end ContinuityOS.Reconcile
