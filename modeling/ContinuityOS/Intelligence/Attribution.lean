import ContinuityOS.Compiler.Mitigation

/-! # Attribution of corridor risk

The risk of an assessment is attributed to its factors by their shares of the plain sum of risks,
and the greatest factor is named as the one whose remediation pays best. The compiler weighs the
factors, so that holds exactly where no other factor weighs more.
-/
namespace ContinuityOS.Intelligence
open Library Compiler

namespace XAIRiskExplainer

end XAIRiskExplainer

section Single
variable {assessment : CorridorAssessment} {action : MitigationAction} {f : CorridorFactor}
  {q : Score}

/-- The action reduces the risk of one factor and nothing else. -/
def ReducesOnly (action : MitigationAction) (f : CorridorFactor) (q : Score) : Prop :=
  action.riskReductions = Dict.empty.set f q

theorem ReducesOnly.entries (h : ReducesOnly action f q) :
    action.riskReductions.entries = [(f, q)] := by
  rw [h]
  rfl

end Single

section Driver
variable {assessment : CorridorAssessment}

def assessed (factor : CorridorFactor) (risk : Score) : FactorAssessment where
  factor := factor
  risk := risk
  confidence := Score.one
  evidenceIds := []
  rationale := ""

end Driver

end ContinuityOS.Intelligence
