import ContinuityOS.Domain
import ContinuityOS.Library.FloatNumber

/-! # Route substitution

Whether an alternative route can take over the supply of a primary one. Eleven feasibility checks
are filled in one after the other, those that fail also name a blocker, and the verdict is taken
from the blockers and the checks. Capacities, quantities and ratios without limits of their own may
be infinite or no number at all, and what is no number takes no branch.
-/
namespace ContinuityOS.Substitution
open Library

/-- The status of a check, from the worst to the best. -/
inductive FeasibilityStatus where
  | fail | degraded | pass
deriving DecidableEq

namespace FeasibilityStatus

def text : FeasibilityStatus → String
  | .fail => "FAIL"
  | .degraded => "DEGRADED"
  | .pass => "PASS"

def rank : FeasibilityStatus → ℕ
  | .fail => 0
  | .degraded => 1
  | .pass => 2

theorem rank_injective : Function.Injective rank := by
  intro a b h
  cases a <;> cases b <;> first | rfl | cases h

instance : LinearOrder FeasibilityStatus := LinearOrder.lift' rank rank_injective

end FeasibilityStatus

structure RouteFeasibilityCheck where
  checkName : String
  dimension : String
  status : FeasibilityStatus
  score : Score
  rationale : String

structure SubstitutionEvaluation where
  evaluationId : String
  substitutionId : String
  primaryRouteId : String
  alternativeRouteId : String
  geographicallyViable : Bool
  commerciallyViable : Bool
  portHandlingCapacity : FeasibilityStatus
  inlandRailCapacity : FeasibilityStatus
  arrivalBeforeCriticalInventoryDate : Bool
  estimatedTransitDays : ℤ
  deadlineDays : ℤ
  effectiveSubstitution : FeasibilityStatus
  feasibilityChecks : List RouteFeasibilityCheck
  failureReasons : List String
  summary : String

structure RouteSubstitutionCandidate where
  substitutionId : String := "sub-001"
  primaryRouteId : String
  alternativeRouteId : String
  quantityTons : FloatNumber := .finite 10000
  criticalInventoryExhaustionDays : ℤ := 30
  alternativeTransitDays : ℤ := 20
  inlandRailDays : ℤ := 5
  alternativeRouteCapacityTonsDay : FloatNumber := .finite 5000
  portHandlingCapacityTonsDay : FloatNumber := .finite 8000
  inlandRailCapacityRatio : FloatNumber := .finite 1
  vesselIceClass : Bool := false
  routeRequiresIceClass : Bool := false
  carrierAvailable : Bool := true
  insuranceAvailable : Bool := true
  communicationsHealthy : Bool := true
  navigationHealthy : Bool := true
  fuelBunkeringAvailable : Bool := true
  storageCapacityAvailable : Bool := true
  supplierAvailable : Bool := true

section Texts

/-- Commas after every three digits, counted from the last one. -/
def groupReversed : List Char → List Char
  | a :: b :: c :: d :: rest => a :: b :: c :: ',' :: groupReversed (d :: rest)
  | rest => rest

/-- A number without decimals, with its thousands grouped. -/
def grouped (q : ℚ) : String :=
  (if q < 0 then "-" else "") ++
    String.ofList (groupReversed (toString (roundHalfEven |q|).toNat).toList.reverse).reverse

end Texts

/-- The check that a section of the compiler fills in, with the blockers that it names. -/
structure Assessed where
  check : RouteFeasibilityCheck
  blockers : List String

theorem one_tenth_mem : (0 : ℚ) ≤ 1 / 10 ∧ (1 / 10 : ℚ) ≤ 1 := by norm_num

theorem four_tenths_mem : (0 : ℚ) ≤ 4 / 10 ∧ (4 / 10 : ℚ) ≤ 1 := by norm_num

theorem six_tenths_mem : (0 : ℚ) ≤ 6 / 10 ∧ (6 / 10 : ℚ) ≤ 1 := by norm_num

/-- A ratio between the two bounds is a score. -/
theorem ratio_mem {ratio : FloatNumber} (h : ¬ ratio.le (.finite (2 / 10)) = true)
    (h' : ratio.lt (.finite (7 / 10)) = true) : 0 ≤ ratio.value ∧ ratio.value ≤ 1 := by
  obtain ⟨-, hlow, hhigh⟩ :=
    FloatNumber.finite_of_not_le_of_lt (Bool.eq_false_iff.mpr h) h'
  constructor
  · linarith
  · linarith

/-- A section that blocks the route where its condition does not hold. -/
def required (holds : Bool) (checkName dimension blocker failing passing : String) : Assessed :=
  if holds then ⟨⟨checkName, dimension, .pass, Score.one, passing⟩, []⟩
  else ⟨⟨checkName, dimension, .fail, ⟨0, Score.zero_mem⟩, failing⟩, [blocker]⟩

/-- A section that only degrades the route. -/
def desired (holds : Bool) (checkName dimension : String) (score : Score)
    (degrading passing : String) : Assessed :=
  if holds then ⟨⟨checkName, dimension, .pass, Score.one, passing⟩, []⟩
  else ⟨⟨checkName, dimension, .degraded, score, degrading⟩, []⟩

namespace RouteSubstitutionCandidate
variable (c : RouteSubstitutionCandidate)

def geoViable : Bool := !(c.routeRequiresIceClass && !c.vesselIceClass)

def commViable : Bool := c.carrierAvailable && c.insuranceAvailable

def totalTransitDays : ℤ := c.alternativeTransitDays + c.inlandRailDays

def arrivalBeforeDeadline : Bool := c.totalTransitDays ≤ c.criticalInventoryExhaustionDays

def iceClassCompatibility : Assessed :=
  required c.geoViable "ice_class_compatibility" "physical"
    "Route requires Polar Ice Class vessel; assigned vessel lacks ice reinforcement"
    "Vessel lacks mandatory Polar/Baltic ice class notation"
    "Ice navigation constraints met or not applicable"

def carrierAvailability : Assessed :=
  required c.carrierAvailable "carrier_availability" "commercial"
    "No carrier capacity committed or available for alternate route"
    "Carriers diverted or unavailable" "Commercial carrier capacity confirmed"

def insuranceUnderwriting : Assessed :=
  required c.insuranceAvailable "insurance_underwriting" "commercial"
    "Marine war-risk insurance underwriters withdrawn; route uninsurable"
    "Insurance coverage unavailable" "War-risk and marine hull coverage active"

def portHandlingCapacity : Assessed :=
  let filled (status : FeasibilityStatus) (score : Score) : RouteFeasibilityCheck :=
    ⟨"port_handling_capacity", "logistics", status, score,
      "Port capacity: " ++ c.portHandlingCapacityTonsDay.text grouped ++ " tons/day"⟩
  if c.portHandlingCapacityTonsDay.le (.finite 0) then
    ⟨filled .fail ⟨0, Score.zero_mem⟩,
      ["Alternate destination port has zero handling throughput capacity"]⟩
  else if c.portHandlingCapacityTonsDay.lt (c.quantityTons.div 5) then
    ⟨filled .degraded ⟨6 / 10, six_tenths_mem⟩, []⟩
  else ⟨filled .pass Score.one, []⟩

def inlandRailCapacity : Assessed :=
  let filled (status : FeasibilityStatus) (score : Score) : RouteFeasibilityCheck :=
    ⟨"inland_rail_capacity", "logistics", status, score,
      "Inland transport fluidity ratio: " ++ c.inlandRailCapacityRatio.percent⟩
  if h : c.inlandRailCapacityRatio.le (.finite (2 / 10)) then
    ⟨filled .fail ⟨1 / 10, one_tenth_mem⟩,
      ["Inland rail/intermodal corridor severely constrained or blocked"]⟩
  else if h' : c.inlandRailCapacityRatio.lt (.finite (7 / 10)) then
    ⟨filled .degraded ⟨c.inlandRailCapacityRatio.value, ratio_mem h h'⟩, []⟩
  else ⟨filled .pass Score.one, []⟩

def communicationsIntegrity : Assessed :=
  desired c.communicationsHealthy "communications_integrity" "cyber_physical"
    ⟨4 / 10, four_tenths_mem⟩
    "SATCOM/terrestrial communications degraded along corridor"
    "Encrypted SATCOM and terrestrial backhaul verified"

def navigationIntegrity : Assessed :=
  desired c.navigationHealthy "navigation_integrity" "cyber_physical"
    ⟨4 / 10, four_tenths_mem⟩ "GNSS spoofing or PNT anomalies detected"
    "PNT and multi-constellation GNSS verified"

def fuelBunkeringAvailability : Assessed :=
  required c.fuelBunkeringAvailable "fuel_bunkering_availability" "logistics"
    "Bunkering fuel unavailable along alternate transit corridor"
    "Fuel bunkering unavailable" "Bunkering stations operational"

def storageCapacity : Assessed :=
  desired c.storageCapacityAvailable "storage_capacity" "inventory" Score.half
    "Destination terminal storage utilization near ceiling" "Terminal storage capacity confirmed"

def supplierAvailability : Assessed :=
  required c.supplierAvailable "supplier_availability" "upstream"
    "Origin supplier cannot fulfill volume on alternate route"
    "Supplier allocation unavailable" "Origin supplier contracted and ready"

def inventoryArrivalDeadline : Assessed :=
  required c.arrivalBeforeDeadline "arrival_before_deadline" "timeline"
    ("Total arrival lead time (" ++ toString c.totalTransitDays ++
      " days) exceeds critical inventory exhaustion deadline (" ++
      toString c.criticalInventoryExhaustionDays ++ " days) by " ++
      toString (c.totalTransitDays - c.criticalInventoryExhaustionDays) ++ " days")
    ("Arrives day " ++ toString c.totalTransitDays ++ ", after reserve exhaustion day " ++
      toString c.criticalInventoryExhaustionDays)
    ("Arrives day " ++ toString c.totalTransitDays ++ ", safely within reserve deadline " ++
      toString c.criticalInventoryExhaustionDays ++ " days")

/-- The sections in the order in which they are filled in. -/
def assessed : List Assessed :=
  [c.iceClassCompatibility, c.carrierAvailability, c.insuranceUnderwriting, c.portHandlingCapacity,
    c.inlandRailCapacity, c.communicationsIntegrity, c.navigationIntegrity,
    c.fuelBunkeringAvailability, c.storageCapacity, c.supplierAvailability,
    c.inventoryArrivalDeadline]

def checks : List RouteFeasibilityCheck := c.assessed.map Assessed.check

def blockers : List String := c.assessed.flatMap Assessed.blockers

def effectiveSubstitution : FeasibilityStatus :=
  let portStatus := c.portHandlingCapacity.check.status
  let railStatus := c.inlandRailCapacity.check.status
  if c.blockers ≠ [] ∨ c.geoViable = false ∨ c.commViable = false ∨
      c.arrivalBeforeDeadline = false ∨ portStatus = .fail ∨ railStatus = .fail then .fail
  else if portStatus = .degraded ∨ railStatus = .degraded ∨
      ∃ check ∈ c.checks, check.status = .degraded then .degraded
  else .pass

def summary : String :=
  if c.effectiveSubstitution = .pass ∨ c.effectiveSubstitution = .degraded then
    "Route substitution '" ++ c.alternativeRouteId ++ "' for '" ++ c.primaryRouteId ++
      "' is FEASIBLE (" ++ c.effectiveSubstitution.text ++ ")"
  else
    "Route substitution '" ++ c.alternativeRouteId ++ "' FAILED: " ++ toString c.blockers.length ++
      " critical blocker(s)"

end RouteSubstitutionCandidate

/-- The evaluation of a candidate, under an identifier that the caller draws. -/
def compileRouteSubstitution (evaluationId : String) (c : RouteSubstitutionCandidate) :
    SubstitutionEvaluation where
  evaluationId := evaluationId
  substitutionId := c.substitutionId
  primaryRouteId := c.primaryRouteId
  alternativeRouteId := c.alternativeRouteId
  geographicallyViable := c.geoViable
  commerciallyViable := c.commViable
  portHandlingCapacity := c.portHandlingCapacity.check.status
  inlandRailCapacity := c.inlandRailCapacity.check.status
  arrivalBeforeCriticalInventoryDate := c.arrivalBeforeDeadline
  estimatedTransitDays := c.totalTransitDays
  deadlineDays := c.criticalInventoryExhaustionDays
  effectiveSubstitution := c.effectiveSubstitution
  feasibilityChecks := c.checks
  failureReasons := c.blockers
  summary := c.summary

end ContinuityOS.Substitution
