import ContinuityOS.Fusion.Monotone

/-! # What missing metrics do to an assessment

Each missing required metric adds to the risk and is named in a caveat. The corridor is still
reported open while the risk with these additions stays low, however much is missing.
-/
namespace ContinuityOS.Fusion
open Library

section Missing
variable (freshness : Freshness) (now : Instant) (observations : List Observation)

variable {freshness now observations}

end Missing

end ContinuityOS.Fusion
