import ContinuityOS.Domain.Observation

/-! # Corridor assessments -/
namespace ContinuityOS

structure FactorAssessment where
  factor : CorridorFactor
  risk : Score
  confidence : Score
  evidenceIds : List String
  rationale : String

structure CorridorAssessment where
  assessmentId : String
  corridorId : String
  overallRisk : Score
  confidence : Score
  state : CorridorState
  factors : List FactorAssessment
  missingRequiredMetrics : List MetricName
  caveats : List String

/-- Weight of a factor in the overall risk. -/
def factorWeight : CorridorFactor → ℚ
  | .ice => 14 / 100
  | .weather => 8 / 100
  | .traffic => 6 / 100
  | .port => 12 / 100
  | .communications => 11 / 100
  | .cyber => 12 / 100
  | .dataTrust => 10 / 100
  | .commercial => 9 / 100
  | .geopolitical => 7 / 100
  | .escort => 6 / 100
  | .inventory => 5 / 100

theorem factorWeight_pos (f : CorridorFactor) : 0 < factorWeight f := by
  cases f <;> norm_num [factorWeight]

end ContinuityOS
