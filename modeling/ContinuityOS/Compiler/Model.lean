import ContinuityOS.Domain.Assessment
import ContinuityOS.Library.Rounding
import ContinuityOS.Library.Selection
import ContinuityOS.Library.Sorting
import Mathlib.Data.List.Lex
import Mathlib.Data.Prod.Lex
import Mathlib.Data.String.Basic

/-! # The continuity compiler

Every subset of the available actions is evaluated, smallest first; a candidate
replaces the incumbent when it is strictly better.
-/
namespace ContinuityOS.Compiler
open Library

structure ContinuityObjective where
  minimumContinuity : Score := ⟨95 / 100, by norm_num⟩
  budget : ℚ
  budget_pos : 0 < budget
  humanApprovalRequired : Bool := true

structure MitigationAction where
  actionId : String
  name : String
  cost : ℚ
  cost_nonneg : 0 ≤ cost
  continuityGain : Score
  riskReductions : Dict CorridorFactor Score := Dict.empty
  prerequisites : Finset String := ∅
  incompatibleWith : Finset String := ∅
  leadTimeHours : ℕ := 0
  requiresHumanApproval : Bool := true
  rationale : String

structure CompileRequest where
  assessment : CorridorAssessment
  objective : ContinuityObjective
  availableActions : List MitigationAction

structure CompiledPlan where
  assessmentId : String
  selectedActions : List MitigationAction
  totalCost : ℚ
  projectedContinuity : Score
  projectedRisk : Score
  objectiveMet : Bool
  deterministicSolver : String
  approvalRequired : Bool
  rejectedReason : Option String := none

structure Candidate where
  actions : List MitigationAction
  cost : ℚ
  continuity : Score
  risk : Score

inductive CompileError where
  | actionLimit (count limit : ℕ)
deriving DecidableEq

def CompileError.message : CompileError → String
  | .actionLimit count limit =>
    s!"action count {count} exceeds deterministic compiler limit {limit}"

def idSet (subset : List MitigationAction) : Finset String :=
  (subset.map MitigationAction.actionId).toFinset

def totalCost (subset : List MitigationAction) : ℚ := (subset.map MitigationAction.cost).sum

/-- A later assessment of a factor overrides an earlier one. -/
def factorRisks (factors : List FactorAssessment) : Dict CorridorFactor ℚ :=
  factors.foldl (fun d f => d.set f.factor f.risk.val) Dict.empty

def weightUsed (d : Dict CorridorFactor ℚ) : ℚ := (d.keys.map factorWeight).sum

def weightedSum (d : Dict CorridorFactor ℚ) : ℚ :=
  (d.keys.map fun f => d.getD f 0 * factorWeight f).sum

/-- What remains of a risk after a reduction, which is capped. -/
def remaining (reduction : Score) : ℚ := 1 - min (95 / 100) reduction.val

def reduceFactor (d : Dict CorridorFactor ℚ) (r : CorridorFactor × Score) : Dict CorridorFactor ℚ :=
  match d.get? r.1 with
  | none => d
  | some risk => d.set r.1 (risk * remaining r.2)

def applyReductions (d : Dict CorridorFactor ℚ) (action : MitigationAction) :
    Dict CorridorFactor ℚ :=
  action.riskReductions.entries.foldl reduceFactor d

/-- An action without factor reductions reduces the whole risk. -/
def applyGain (risk : ℚ) (action : MitigationAction) : ℚ :=
  if action.riskReductions.entries = [] then risk * remaining action.continuityGain else risk

def projectFactors (assessment : CorridorAssessment) (subset : List MitigationAction) : ℚ :=
  let risks := factorRisks assessment.factors
  if risks.entries = [] then assessment.overallRisk.val
  else
    let nonFactorPenalty := max 0 (assessment.overallRisk.val - weightedSum risks / weightUsed risks)
    min 1 (weightedSum (subset.foldl applyReductions risks) / weightUsed risks + nonFactorPenalty)

def projectRisk (assessment : CorridorAssessment) (subset : List MitigationAction) : Score :=
  Score.clamp (subset.foldl applyGain (projectFactors assessment subset))

def evaluate (request : CompileRequest) (subset : List MitigationAction) : Option Candidate :=
  if request.objective.budget < totalCost subset then none
  else if ∃ action ∈ subset, ¬ action.prerequisites ⊆ idSet subset ∨
      action.incompatibleWith ∩ idSet subset ≠ ∅ then none
  else some
    { actions := subset
      cost := totalCost subset
      continuity := (projectRisk request.assessment subset).compl
      risk := projectRisk request.assessment subset }

def Candidate.ids (c : Candidate) : List String := c.actions.map MitigationAction.actionId

def Candidate.meets (c : Candidate) (target : Score) : Bool := target.val ≤ c.continuity.val

def better (target : Score) (candidate incumbent : Candidate) : Bool :=
  if candidate.meets target ≠ incumbent.meets target then candidate.meets target
  else if candidate.meets target then
    decide (toLex (candidate.cost, toLex (-candidate.continuity.val, candidate.ids)) <
      toLex (incumbent.cost, toLex (-incumbent.continuity.val, incumbent.ids)))
  else
    decide (toLex (-candidate.continuity.val, toLex (candidate.cost, candidate.ids)) <
      toLex (-incumbent.continuity.val, toLex (incumbent.cost, incumbent.ids)))

def considerSubset (request : CompileRequest) (best : Option Candidate)
    (subset : List MitigationAction) : Option Candidate :=
  match evaluate request subset with
  | none => best
  | some candidate => keepBetter (better request.objective.minimumContinuity) best candidate

def sortedActions (request : CompileRequest) : List MitigationAction :=
  sortedBy MitigationAction.actionId request.availableActions

def selectBest (request : CompileRequest) : Option Candidate :=
  (List.range ((sortedActions request).length + 1)).foldl
    (fun best count => (combinations count (sortedActions request)).foldl
      (considerSubset request) best) none

def infeasibleReason : String :=
  "no feasible action set within budget and compatibility constraints"

def solverName : String := "bounded-exact-v1"

def infeasiblePlan (request : CompileRequest) : CompiledPlan where
  assessmentId := request.assessment.assessmentId
  selectedActions := []
  totalCost := 0
  projectedContinuity := Score.clamp (1 - request.assessment.overallRisk.val)
  projectedRisk := request.assessment.overallRisk
  objectiveMet := false
  deterministicSolver := solverName
  approvalRequired := request.objective.humanApprovalRequired
  rejectedReason := some infeasibleReason

def planOf (request : CompileRequest) (best : Candidate) : CompiledPlan where
  assessmentId := request.assessment.assessmentId
  selectedActions := best.actions
  totalCost := roundDigits 2 best.cost
  projectedContinuity := Score.rounded 6 best.continuity
  projectedRisk := Score.rounded 6 best.risk
  objectiveMet := best.meets request.objective.minimumContinuity
  deterministicSolver := solverName
  approvalRequired := request.objective.humanApprovalRequired ||
    best.actions.any MitigationAction.requiresHumanApproval
  rejectedReason :=
    if best.meets request.objective.minimumContinuity then none
    else some "objective not achievable with available actions"

def compile (maxActions : ℕ) (request : CompileRequest) : Except CompileError CompiledPlan :=
  if maxActions < (sortedActions request).length then
    .error (.actionLimit (sortedActions request).length maxActions)
  else
    match selectBest request with
    | none => .ok (infeasiblePlan request)
    | some best => .ok (planOf request best)

end ContinuityOS.Compiler
