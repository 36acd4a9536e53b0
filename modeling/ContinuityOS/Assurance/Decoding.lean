import ContinuityOS.Assurance.Evaluation
import ContinuityOS.Library.Dict

/-! # Two decoders of assurance policies

Model validation reads the snake_case names only; the helper for declarative resources
prefers the camelCase names. They agree exactly on the documents whose camelCase keys say
nothing new.
-/
namespace ContinuityOS.Assurance
open Library

section Fields
variable {V : Type}

/-- How values of a document convert to integers, booleans and numbers. -/
structure Conversions (V : Type) where
  toInt : V → Option ℤ
  toBool : V → Option Bool
  toNumber : V → Option ℚ

/-- A field of a section, with the default the helper writes out for it. -/
structure DocField (V α : Type) where
  camel : String
  snake : String
  fallback : α
  read : V → Option α

abbrev Document (V : Type) := Dict String (Dict String V)

def Conversions.ranged (c : Conversions V) (lo hi : ℤ) (v : V) : Option (Ranged lo hi) := do
  let n ← c.toInt v
  if h : lo ≤ n ∧ n ≤ hi then some ⟨n, h⟩ else none

def Conversions.score (c : Conversions V) (v : V) : Option Score := do
  let q ← c.toNumber v
  validScore q

variable (c : Conversions V)

def corridorLoss : DocField V (Ranged 0 50) :=
  ⟨"corridorLoss", "corridor_loss", ⟨1, by decide⟩, c.ranged 0 50⟩
def portLoss : DocField V (Ranged 0 50) :=
  ⟨"portLoss", "port_loss", ⟨1, by decide⟩, c.ranged 0 50⟩
def communicationProviderLoss : DocField V (Ranged 0 20) :=
  ⟨"communicationProviderLoss", "communication_provider_loss", ⟨1, by decide⟩, c.ranged 0 20⟩
def navigationSourceLoss : DocField V (Ranged 0 20) :=
  ⟨"navigationSourceLoss", "navigation_source_loss", ⟨2, by decide⟩, c.ranged 0 20⟩
def observationSourceLoss : DocField V (Ranged 0 20) :=
  ⟨"observationSourceLoss", "observation_source_loss", ⟨1, by decide⟩, c.ranged 0 20⟩
def minimumIndependentOperationalSources : DocField V (Ranged 1 20) :=
  ⟨"minimumIndependentOperationalSources", "minimum_independent_operational_sources",
    ⟨2, by decide⟩, c.ranged 1 20⟩
def minimumIndependentNavigationSources : DocField V (Ranged 1 20) :=
  ⟨"minimumIndependentNavigationSources", "minimum_independent_navigation_sources",
    ⟨3, by decide⟩, c.ranged 1 20⟩
def minimumIndependentEnvironmentalSources : DocField V (Ranged 1 20) :=
  ⟨"minimumIndependentEnvironmentalSources", "minimum_independent_environmental_sources",
    ⟨2, by decide⟩, c.ranged 1 20⟩
def minimumCarrierOptions : DocField V (Ranged 1 20) :=
  ⟨"minimumCarrierOptions", "minimum_carrier_options", ⟨2, by decide⟩, c.ranged 1 20⟩
def insuranceRequired : DocField V Bool :=
  ⟨"insuranceRequired", "insurance_required", true, c.toBool⟩
def minimumReserveDays : DocField V (Ranged 0 3650) :=
  ⟨"minimumReserveDays", "minimum_reserve_days", ⟨30, by decide⟩, c.ranged 0 3650⟩
def minimumAssuredReplenishmentCycles : DocField V (Ranged 0 50) :=
  ⟨"minimumAssuredReplenishmentCycles", "minimum_assured_replenishment_cycles",
    ⟨1, by decide⟩, c.ranged 0 50⟩
def verifyCarrierReturn : DocField V Bool :=
  ⟨"verifyCarrierReturn", "verify_carrier_return", true, c.toBool⟩
def verifyBacklogClearance : DocField V Bool :=
  ⟨"verifyBacklogClearance", "verify_backlog_clearance", true, c.toBool⟩
def verifyReserveRestoration : DocField V Bool :=
  ⟨"verifyReserveRestoration", "verify_reserve_restoration", true, c.toBool⟩

/-- The objective has one field and one name for it. -/
def objectiveMinimum : DocField V Score :=
  ⟨"minimum", "minimum", ({} : AssuranceObjectiveSpec).minimum, c.score⟩

end Fields

namespace DocField
variable {V α : Type} (f : DocField V α) (raw : Dict String V)

/-- The value under the snake_case name, or the model's default. -/
def getSnake (default : α) : Option α :=
  match raw.get? f.snake with
  | some v => f.read v
  | none => some default

/-- The value under the camelCase name, else under the snake_case name, else the default. -/
def getPreferred : Option α :=
  match raw.get? f.camel with
  | some v => f.read v
  | none => f.getSnake raw f.fallback

/-- Whatever stands under either name is a value of the field. -/
def InRange : Prop :=
  (∀ v ∈ raw.get? f.camel, f.read v ≠ none) ∧ ∀ v ∈ raw.get? f.snake, f.read v ≠ none

/-- The camelCase name, when present, says what the snake_case name or the default says. -/
def CamelRedundant : Prop :=
  ∀ v ∈ raw.get? f.camel, f.read v = f.getSnake raw f.fallback

end DocField

section ModelValidate
variable {V : Type} (c : Conversions V)

def modelObjective (raw : Dict String V) : Option AssuranceObjectiveSpec := do
  let d : AssuranceObjectiveSpec := {}
  return { minimum := ← (objectiveMinimum c).getSnake raw d.minimum }

def modelTolerance (raw : Dict String V) : Option AssuranceToleranceSpec := do
  let d : AssuranceToleranceSpec := {}
  return {
    corridorLoss := ← (corridorLoss c).getSnake raw d.corridorLoss
    portLoss := ← (portLoss c).getSnake raw d.portLoss
    communicationProviderLoss :=
      ← (communicationProviderLoss c).getSnake raw d.communicationProviderLoss
    navigationSourceLoss := ← (navigationSourceLoss c).getSnake raw d.navigationSourceLoss
    observationSourceLoss := ← (observationSourceLoss c).getSnake raw d.observationSourceLoss }

def modelEvidence (raw : Dict String V) : Option AssuranceEvidenceSpec := do
  let d : AssuranceEvidenceSpec := {}
  return {
    minimumIndependentOperationalSources := ← (minimumIndependentOperationalSources c).getSnake raw
      d.minimumIndependentOperationalSources
    minimumIndependentNavigationSources := ← (minimumIndependentNavigationSources c).getSnake raw
      d.minimumIndependentNavigationSources
    minimumIndependentEnvironmentalSources :=
      ← (minimumIndependentEnvironmentalSources c).getSnake raw
        d.minimumIndependentEnvironmentalSources }

def modelCommercial (raw : Dict String V) : Option AssuranceCommercialSpec := do
  let d : AssuranceCommercialSpec := {}
  return {
    minimumCarrierOptions := ← (minimumCarrierOptions c).getSnake raw d.minimumCarrierOptions
    insuranceRequired := ← (insuranceRequired c).getSnake raw d.insuranceRequired }

def modelInventory (raw : Dict String V) : Option AssuranceInventorySpec := do
  let d : AssuranceInventorySpec := {}
  return {
    minimumReserveDays := ← (minimumReserveDays c).getSnake raw d.minimumReserveDays
    minimumAssuredReplenishmentCycles := ← (minimumAssuredReplenishmentCycles c).getSnake raw
      d.minimumAssuredReplenishmentCycles }

def modelRecovery (raw : Dict String V) : Option AssuranceRecoverySpec := do
  let d : AssuranceRecoverySpec := {}
  return {
    verifyCarrierReturn := ← (verifyCarrierReturn c).getSnake raw d.verifyCarrierReturn
    verifyBacklogClearance := ← (verifyBacklogClearance c).getSnake raw d.verifyBacklogClearance
    verifyReserveRestoration :=
      ← (verifyReserveRestoration c).getSnake raw d.verifyReserveRestoration }

/-- A section that is absent takes its default. -/
def sectionOr {σ : Type} (decode : Dict String V → Option σ) (default : σ)
    (raw : Option (Dict String V)) : Option σ :=
  match raw with
  | some raw => decode raw
  | none => some default

/-- Unknown keys are passed over and missing ones filled with defaults. -/
def modelValidate (doc : Document V) : Option AssurancePolicySpec := do
  return {
    continuityObjective := ← sectionOr (modelObjective c) {} (doc.get? "continuity_objective")
    tolerate := ← sectionOr (modelTolerance c) {} (doc.get? "tolerate")
    evidence := ← sectionOr (modelEvidence c) {} (doc.get? "evidence")
    commercial := ← sectionOr (modelCommercial c) {} (doc.get? "commercial")
    inventory := ← sectionOr (modelInventory c) {} (doc.get? "inventory")
    recovery := ← sectionOr (modelRecovery c) {} (doc.get? "recovery") }

end ModelValidate

section FromCamelOrSnake
variable {V : Type} (c : Conversions V)

/-- An empty section counts as absent. -/
def nonemptySection (raw : Option (Dict String V)) : Option (Dict String V) :=
  raw.filter fun raw => !raw.entries.isEmpty

def camelObjective (doc : Document V) : Option AssuranceObjectiveSpec :=
  if (doc.get? "continuityObjective").isSome || (doc.get? "continuity_objective").isSome then
    modelObjective c (((nonemptySection (doc.get? "continuityObjective")).or
      (nonemptySection (doc.get? "continuity_objective"))).getD Dict.empty)
  else some {}

def camelTolerance (raw : Dict String V) : Option AssuranceToleranceSpec := do
  return {
    corridorLoss := ← (corridorLoss c).getPreferred raw
    portLoss := ← (portLoss c).getPreferred raw
    communicationProviderLoss := ← (communicationProviderLoss c).getPreferred raw
    navigationSourceLoss := ← (navigationSourceLoss c).getPreferred raw
    observationSourceLoss := ← (observationSourceLoss c).getPreferred raw }

def camelEvidence (raw : Dict String V) : Option AssuranceEvidenceSpec := do
  return {
    minimumIndependentOperationalSources :=
      ← (minimumIndependentOperationalSources c).getPreferred raw
    minimumIndependentNavigationSources :=
      ← (minimumIndependentNavigationSources c).getPreferred raw
    minimumIndependentEnvironmentalSources :=
      ← (minimumIndependentEnvironmentalSources c).getPreferred raw }

def camelCommercial (raw : Dict String V) : Option AssuranceCommercialSpec := do
  return {
    minimumCarrierOptions := ← (minimumCarrierOptions c).getPreferred raw
    insuranceRequired := ← (insuranceRequired c).getPreferred raw }

def camelInventory (raw : Dict String V) : Option AssuranceInventorySpec := do
  return {
    minimumReserveDays := ← (minimumReserveDays c).getPreferred raw
    minimumAssuredReplenishmentCycles := ← (minimumAssuredReplenishmentCycles c).getPreferred raw }

def camelRecovery (raw : Dict String V) : Option AssuranceRecoverySpec := do
  return {
    verifyCarrierReturn := ← (verifyCarrierReturn c).getPreferred raw
    verifyBacklogClearance := ← (verifyBacklogClearance c).getPreferred raw
    verifyReserveRestoration := ← (verifyReserveRestoration c).getPreferred raw }

def fromCamelOrSnake (doc : Document V) : Option AssurancePolicySpec := do
  return {
    continuityObjective := ← camelObjective c doc
    tolerate := ← sectionOr (camelTolerance c) {} (doc.get? "tolerate")
    evidence := ← sectionOr (camelEvidence c) {} (doc.get? "evidence")
    commercial := ← sectionOr (camelCommercial c) {} (doc.get? "commercial")
    inventory := ← sectionOr (camelInventory c) {} (doc.get? "inventory")
    recovery := ← sectionOr (camelRecovery c) {} (doc.get? "recovery") }

end FromCamelOrSnake

end ContinuityOS.Assurance
