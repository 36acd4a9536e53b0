import ContinuityOS.Domain
import ContinuityOS.Library.Dict
import Mathlib.Tactic

/-! # The recovery timeline

Recovery runs through six milestones. Each waits for the longest of its own lags after
the milestone before it.
-/
namespace ContinuityOS.Recovery
open Library

inductive RecoveryPhase where
  | incident | physicalReopening | commercialNormalization | logisticsNormalization
  | inventoryReplenishment | fullRestoration
deriving DecidableEq

def RecoveryPhase.value : RecoveryPhase → String
  | .incident => "T0_incident"
  | .physicalReopening => "T1_physical_reopening"
  | .commercialNormalization => "T2_commercial_normalization"
  | .logisticsNormalization => "T3_logistics_normalization"
  | .inventoryReplenishment => "T4_inventory_replenishment"
  | .fullRestoration => "T5_full_restoration"

def RecoveryPhase.all : List RecoveryPhase :=
  [.incident, .physicalReopening, .commercialNormalization, .logisticsNormalization,
    .inventoryReplenishment, .fullRestoration]

structure RecoveryMilestone where
  phase : RecoveryPhase
  description : String
  estimatedDays : ℕ
  dependencies : List String := []
  confidence : Score := Score.half
  estimated_le : estimatedDays ≤ 3650

/-- A lag of up to a year. -/
abbrev Lag := {days : ℕ // days ≤ 365}

structure RecoveryProfile where
  resourceRef : String
  incidentDescription : String
  physicalReopeningDays : Lag := ⟨0, by decide⟩
  communicationsRestorationDays : Lag := ⟨3, by decide⟩
  portBacklogDays : Lag := ⟨7, by decide⟩
  vesselRepositioningDays : Lag := ⟨14, by decide⟩
  crewAvailabilityDays : Lag := ⟨14, by decide⟩
  carrierReturnDays : Lag := ⟨21, by decide⟩
  insuranceNormalizationDays : Lag := ⟨30, by decide⟩
  supplierRestartDays : Lag := ⟨21, by decide⟩
  inventoryReplenishmentDays : Lag := ⟨45, by decide⟩
  equipmentAvailabilityDays : Lag := ⟨10, by decide⟩
  warehouseRecoveryDays : Lag := ⟨14, by decide⟩
  productionRestartDays : Lag := ⟨21, by decide⟩
  resource_length : 1 ≤ resourceRef.length ∧ resourceRef.length ≤ 256
  incident_length : 1 ≤ incidentDescription.length ∧ incidentDescription.length ≤ 512

structure RecoveryTimeline where
  timelineId : String
  resourceRef : String
  incidentDescription : String
  milestones : List RecoveryMilestone
  totalRecoveryDays : ℕ
  currentPhase : RecoveryPhase
  recoveryProgress : Score
  bottleneck : Option String
  summary : String
  isHealthy : Bool
  reopenedButNotHealthy : Bool
  independentFactors : Dict String ℕ

section Days
variable (profile : RecoveryProfile)

def t1Days : ℕ := profile.physicalReopeningDays.val

def t2Days : ℕ :=
  t1Days profile +
    max profile.insuranceNormalizationDays.val profile.carrierReturnDays.val

def t3Days : ℕ :=
  t2Days profile +
    max (max (max profile.vesselRepositioningDays.val profile.portBacklogDays.val)
      profile.crewAvailabilityDays.val) profile.equipmentAvailabilityDays.val

def t4Days : ℕ :=
  t3Days profile +
    max (max (max profile.inventoryReplenishmentDays.val profile.warehouseRecoveryDays.val)
      profile.supplierRestartDays.val) profile.productionRestartDays.val

/-- With a week for verification and confidence building. -/
def t5Days : ℕ := t4Days profile + 7

theorem t1Days_le : t1Days profile ≤ 365 := profile.physicalReopeningDays.property

theorem t2Days_le : t2Days profile ≤ 730 :=
  Nat.add_le_add (t1Days_le profile)
    (max_le profile.insuranceNormalizationDays.property profile.carrierReturnDays.property)

theorem t3Days_le : t3Days profile ≤ 1095 :=
  Nat.add_le_add (t2Days_le profile)
    (max_le (max_le (max_le profile.vesselRepositioningDays.property
      profile.portBacklogDays.property) profile.crewAvailabilityDays.property)
      profile.equipmentAvailabilityDays.property)

theorem t4Days_le : t4Days profile ≤ 1460 :=
  Nat.add_le_add (t3Days_le profile)
    (max_le (max_le (max_le profile.inventoryReplenishmentDays.property
      profile.warehouseRecoveryDays.property) profile.supplierRestartDays.property)
      profile.productionRestartDays.property)

theorem t5Days_le : t5Days profile ≤ 1467 := Nat.add_le_add_right (t4Days_le profile) 7

def milestonesOf : List RecoveryMilestone :=
  [{ phase := .incident
     description := profile.incidentDescription
     estimatedDays := 0
     confidence := Score.one
     estimated_le := by decide },
   { phase := .physicalReopening
     description := "Physical infrastructure reopened or restored"
     estimatedDays := t1Days profile
     dependencies := ["physical_access", "safety_clearance"]
     confidence := ⟨8 / 10, Score.eight_tenths_mem⟩
     estimated_le := (t1Days_le profile).trans (by decide) },
   { phase := .commercialNormalization
     description := "Insurance coverage restored, carriers return to service"
     estimatedDays := t2Days profile
     dependencies := ["insurance_underwriting", "carrier_contracts", "market_confidence"]
     confidence := ⟨6 / 10, by norm_num⟩
     estimated_le := (t2Days_le profile).trans (by decide) },
   { phase := .logisticsNormalization
     description := "Vessels repositioned, crew sourced, port backlog cleared, schedules resume"
     estimatedDays := t3Days profile
     dependencies := ["vessel_repositioning", "crew_availability", "port_backlog_clearance",
       "schedule_normalization", "equipment_restoration"]
     confidence := Score.half
     estimated_le := (t3Days_le profile).trans (by decide) },
   { phase := .inventoryReplenishment
     description :=
       "Strategic reserves rebuilt to policy-required levels and suppliers restarted"
     estimatedDays := t4Days profile
     dependencies := ["supply_flow", "supplier_restart", "warehouse_capacity",
       "production_capacity"]
     confidence := ⟨4 / 10, by norm_num⟩
     estimated_le := (t4Days_le profile).trans (by decide) },
   { phase := .fullRestoration
     description := "All resilience policies met, full operational confidence restored"
     estimatedDays := t5Days profile
     dependencies := ["policy_compliance", "operational_confidence"]
     confidence := ⟨35 / 100, by norm_num⟩
     estimated_le := (t5Days_le profile).trans (by decide) }]

/-- The transitions with their lengths; the last week is not among them. -/
def phaseDurations : List (RecoveryPhase × ℕ) :=
  [(.commercialNormalization, t2Days profile - t1Days profile),
    (.logisticsNormalization, t3Days profile - t2Days profile),
    (.inventoryReplenishment, t4Days profile - t3Days profile)]

/-- The longest transition, the first one of several. -/
def bottleneckPhase : RecoveryPhase × ℕ :=
  (phaseDurations profile).foldl (fun best p => if best.2 < p.2 then p else best)
    (.physicalReopening, t1Days profile)

def bottleneckText : String :=
  (bottleneckPhase profile).1.value ++ ": " ++ toString (bottleneckPhase profile).2 ++ " days"

def factorList : List (String × ℕ) :=
  [("physical_reopening_days", profile.physicalReopeningDays.val),
    ("communications_restoration_days", profile.communicationsRestorationDays.val),
    ("insurance_normalization_days", profile.insuranceNormalizationDays.val),
    ("carrier_return_days", profile.carrierReturnDays.val),
    ("port_backlog_days", profile.portBacklogDays.val),
    ("vessel_repositioning_days", profile.vesselRepositioningDays.val),
    ("crew_availability_days", profile.crewAvailabilityDays.val),
    ("supplier_restart_days", profile.supplierRestartDays.val),
    ("warehouse_recovery_days", profile.warehouseRecoveryDays.val),
    ("inventory_replenishment_days", profile.inventoryReplenishmentDays.val),
    ("production_restart_days", profile.productionRestartDays.val)]

end Days

/-- The milestone reached last in the order of the list. -/
def currentPhaseOf (days : ℤ) (milestones : List RecoveryMilestone) : RecoveryPhase :=
  milestones.foldl (fun current m => if (m.estimatedDays : ℤ) ≤ days then m.phase else current)
    .incident

def progressOf (totalDays : ℕ) (days : ℤ) : ℚ :=
  if 0 < totalDays then min 1 ((days : ℚ) / totalDays) else 0

def isHealthyOf (profile : RecoveryProfile) (days : ℤ) : Bool :=
  currentPhaseOf days (milestonesOf profile) = .fullRestoration ∨ (t5Days profile : ℤ) ≤ days

def summaryOf (profile : RecoveryProfile) (days : ℤ) : String :=
  "; ".intercalate
    (["Incident: " ++ profile.incidentDescription,
      "Physical reopening: day " ++ toString (t1Days profile),
      "Commercial normalization: day " ++ toString (t2Days profile),
      "Logistics normalization: day " ++ toString (t3Days profile),
      "Inventory replenishment: day " ++ toString (t4Days profile),
      "Full restoration: day " ++ toString (t5Days profile),
      "Bottleneck: " ++ bottleneckText profile,
      "System Healthy: " ++ if isHealthyOf profile days then "YES" else "NO"] ++
    if 0 < days then
      ["Current phase: " ++ (currentPhaseOf days (milestonesOf profile)).value ++ " (day " ++
        toString days ++ ")"]
    else [])

inductive RecoveryError where
  | progressOutOfRange (progress : ℚ)
deriving DecidableEq

def timelineOf (timelineId : String) (profile : RecoveryProfile) (days : ℤ) (progress : Score) :
    RecoveryTimeline where
  timelineId := timelineId
  resourceRef := profile.resourceRef
  incidentDescription := profile.incidentDescription
  milestones := milestonesOf profile
  totalRecoveryDays := t5Days profile
  currentPhase := currentPhaseOf days (milestonesOf profile)
  recoveryProgress := progress
  bottleneck := some (bottleneckText profile)
  summary := summaryOf profile days
  isHealthy := isHealthyOf profile days
  reopenedButNotHealthy := decide ((t1Days profile : ℤ) ≤ days) && !isHealthyOf profile days
  independentFactors := Dict.ofBindings (factorList profile)

/-- The progress is validated as a score when the timeline is built. -/
def modelRecovery (timelineId : String) (profile : RecoveryProfile) (days : ℤ) :
    Except RecoveryError RecoveryTimeline :=
  let progress := roundDigits 6 (progressOf (t5Days profile) days)
  if h : 0 ≤ progress ∧ progress ≤ 1 then .ok (timelineOf timelineId profile days ⟨progress, h⟩)
  else .error (.progressOutOfRange progress)

end ContinuityOS.Recovery
