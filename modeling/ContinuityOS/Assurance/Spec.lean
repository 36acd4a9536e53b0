import ContinuityOS.Domain

/-! # Assurance policies

A policy states how much loss must be tolerated and how much independent evidence, trade,
stock and recovery must be at hand. Every bound carries its admissible range.
-/
namespace ContinuityOS.Assurance

/-- An integer between two bounds. -/
abbrev Ranged (lo hi : ℤ) := {n : ℤ // lo ≤ n ∧ n ≤ hi}

structure AssuranceObjectiveSpec where
  minimum : Score := ⟨19 / 20, by norm_num, by norm_num⟩
deriving DecidableEq

structure AssuranceToleranceSpec where
  corridorLoss : Ranged 0 50 := ⟨1, by decide⟩
  portLoss : Ranged 0 50 := ⟨1, by decide⟩
  communicationProviderLoss : Ranged 0 20 := ⟨1, by decide⟩
  navigationSourceLoss : Ranged 0 20 := ⟨2, by decide⟩
  observationSourceLoss : Ranged 0 20 := ⟨1, by decide⟩
deriving DecidableEq

structure AssuranceEvidenceSpec where
  minimumIndependentOperationalSources : Ranged 1 20 := ⟨2, by decide⟩
  minimumIndependentNavigationSources : Ranged 1 20 := ⟨3, by decide⟩
  minimumIndependentEnvironmentalSources : Ranged 1 20 := ⟨2, by decide⟩
deriving DecidableEq

structure AssuranceCommercialSpec where
  minimumCarrierOptions : Ranged 1 20 := ⟨2, by decide⟩
  insuranceRequired : Bool := true
deriving DecidableEq

structure AssuranceInventorySpec where
  minimumReserveDays : Ranged 0 3650 := ⟨30, by decide⟩
  minimumAssuredReplenishmentCycles : Ranged 0 50 := ⟨1, by decide⟩
deriving DecidableEq

structure AssuranceRecoverySpec where
  verifyCarrierReturn : Bool := true
  verifyBacklogClearance : Bool := true
  verifyReserveRestoration : Bool := true
deriving DecidableEq

structure AssurancePolicySpec where
  continuityObjective : AssuranceObjectiveSpec := {}
  tolerate : AssuranceToleranceSpec := {}
  evidence : AssuranceEvidenceSpec := {}
  commercial : AssuranceCommercialSpec := {}
  inventory : AssuranceInventorySpec := {}
  recovery : AssuranceRecoverySpec := {}
deriving DecidableEq

end ContinuityOS.Assurance
