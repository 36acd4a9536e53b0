import ContinuityOS.Domain
import ContinuityOS.Library.Dict
import ContinuityOS.Library.FloatNumber

/-! # Policy evaluation

A rule is checked field by field; the first check that fails is the violation the rule reports.
Bounds and telemetry without limits of their own may be infinite or no number at all, and what is
no number is never below a bound.
-/
namespace ContinuityOS.Policy
open Library

inductive Severity where
  | error | warning | info
deriving DecidableEq

structure PolicyAssertion where
  minimumProviders : Option ℤ := none
  minimumReserveDays : Option ℤ := none
  minimumIndependentRoutes : Option ℤ := none
  minimumContinuity : Option FloatNumber := none
  maximumSingleDependencyConcentration : Option FloatNumber := none
  minimumTrustScore : Option FloatNumber := none
  trustDimensionThresholds : Dict String FloatNumber := Dict.empty
  trustDimensionRequired : Dict String Bool := Dict.empty

structure PolicyRule where
  ruleId : String
  description : String
  assertion : PolicyAssertion
  severity : Severity := .error

structure ContinuityPolicy where
  policyId : String := "default"
  version : String := "1.0"
  rules : List PolicyRule
  nonempty : rules ≠ []
  atMost : rules.length ≤ 500

structure ObservedState where
  providerCounts : Dict String ℤ := Dict.empty
  reserveDays : Dict String FloatNumber := Dict.empty
  independentRouteCount : ℕ := 0
  overallContinuity : Score := ⟨0, Score.zero_mem⟩
  dependencyConcentration : Dict String FloatNumber := Dict.empty
  trustScores : Dict String FloatNumber := Dict.empty
  dimensionalTrustScores : Dict String (Dict String FloatNumber) := Dict.empty

structure PolicyViolation where
  ruleId : String
  description : String
  severity : Severity
  expected : String
  observed : String
  deficit : Option String := none
deriving DecidableEq

structure PolicyEvaluation where
  policyId : String
  policyVersion : String
  compliant : Bool
  violations : List PolicyViolation
  rulesEvaluated : ℕ
  rulesPassed : ℕ

def PolicyRule.violation (rule : PolicyRule) (expected observed deficit : String) :
    PolicyViolation where
  ruleId := rule.ruleId
  description := rule.description
  severity := rule.severity
  expected := expected
  observed := observed
  deficit := some deficit

/-- A lower bound on every entry of a map that must not be empty. -/
def checkEntries {μ ν : Type*} (minimum : Option μ) (entries : List (String × ν))
    (below : ν → μ → Bool) (missing : μ → PolicyViolation)
    (low : μ → String → ν → PolicyViolation) : Option PolicyViolation :=
  match minimum with
  | none => none
  | some bound =>
    if entries = [] then some (missing bound)
    else entries.findSome? fun e => if below e.2 bound then some (low bound e.1 e.2) else none

section Checks
variable (rule : PolicyRule) (state : ObservedState)

def checkProviders : Option PolicyViolation :=
  checkEntries rule.assertion.minimumProviders state.providerCounts.entries
    (fun count bound => count < bound)
    (fun bound => rule.violation s!">= {bound} providers" "0 providers (UNKNOWN/MISSING)"
      s!"{bound} additional required")
    (fun bound category count => rule.violation s!">= {bound} providers ({category})"
      s!"{count} providers" s!"{bound - count} additional required")

def checkReserveDays : Option PolicyViolation :=
  checkEntries rule.assertion.minimumReserveDays state.reserveDays.entries
    (fun days bound => days.lt (.finite bound))
    (fun bound => rule.violation s!">= {bound} days" "0 days (UNKNOWN/MISSING)"
      s!"{bound} days short")
    (fun bound resource days => rule.violation s!">= {bound} days ({resource})"
      (days.fixedPoint 1 ++ " days")
      ((FloatNumber.sub (.finite bound) days).fixedPoint 1 ++ " days short"))

def checkRoutes : Option PolicyViolation :=
  match rule.assertion.minimumIndependentRoutes with
  | none => none
  | some bound =>
    if (state.independentRouteCount : ℤ) < bound then
      some (rule.violation s!">= {bound} independent routes"
        (toString state.independentRouteCount ++ " routes")
        (toString (bound - state.independentRouteCount) ++ " additional required"))
    else none

def checkContinuity : Option PolicyViolation :=
  match rule.assertion.minimumContinuity with
  | none => none
  | some bound =>
    if FloatNumber.lt (.finite state.overallContinuity.val) bound then
      some (rule.violation (">= " ++ bound.percent ++ " continuity")
        (percent state.overallContinuity.val)
        ((bound.sub (.finite state.overallContinuity.val)).percent ++ " below target"))
    else none

def checkTrustScores : Option PolicyViolation :=
  checkEntries rule.assertion.minimumTrustScore state.trustScores.entries
    (fun score bound => score.lt bound)
    (fun bound => rule.violation (">= " ++ bound.fixedPoint 2 ++ " trust score")
      "0 trust scores (UNKNOWN/MISSING)" "Missing trust score telemetry")
    (fun bound dep score => rule.violation (">= " ++ bound.fixedPoint 2 ++ s!" trust ({dep})")
      (score.fixedPoint 2) ((bound.sub score).fixedPoint 2 ++ " below threshold"))

/-- A dependency without a score for the dimension is passed over. -/
def checkDimensionThresholds : Option PolicyViolation :=
  rule.assertion.trustDimensionThresholds.entries.findSome? fun (dim, minVal) =>
    state.dimensionalTrustScores.entries.findSome? fun (dep, dims) =>
      match dims.get? dim with
      | none => none
      | some actualVal =>
        if actualVal.lt minVal then
          some (rule.violation (">= " ++ minVal.fixedPoint 2 ++ s!" {dim} ({dep})")
            (actualVal.fixedPoint 2) ((minVal.sub actualVal).fixedPoint 2 ++ " below threshold"))
        else none

def checkDimensionRequired : Option PolicyViolation :=
  rule.assertion.trustDimensionRequired.entries.findSome? fun (dim, required) =>
    if required then
      state.dimensionalTrustScores.entries.findSome? fun (dep, dims) =>
        if (dims.getD dim (.finite 0)).le (.finite 0) then
          some (rule.violation s!"required active {dim} ({dep})" "unavailable"
            "required but missing or unavailable")
        else none
    else none

def checkRule : Option PolicyViolation :=
  [checkProviders rule state, checkReserveDays rule state, checkRoutes rule state,
    checkContinuity rule state, checkTrustScores rule state, checkDimensionThresholds rule state,
    checkDimensionRequired rule state].findSome? id

end Checks

/-- The violations so far and the number of rules passed. -/
def evaluateRule (state : ObservedState) (acc : List PolicyViolation × ℕ) (rule : PolicyRule) :
    List PolicyViolation × ℕ :=
  match checkRule rule state with
  | some violation => (acc.1 ++ [violation], acc.2)
  | none => (acc.1, acc.2 + 1)

def evaluatePolicy (policy : ContinuityPolicy) (state : ObservedState) : PolicyEvaluation :=
  let result := policy.rules.foldl (evaluateRule state) ([], 0)
  { policyId := policy.policyId
    policyVersion := policy.version
    compliant := result.1.length = 0
    violations := result.1
    rulesEvaluated := policy.rules.length
    rulesPassed := result.2 }

end ContinuityOS.Policy
