import ContinuityOS.Domain
import ContinuityOS.Library.FirstHit

/-! # The inventory simulation

A quantity is consumed and replenished day by day, between zero and what the storage
holds. Thresholds are recorded on the first day they are reached.
-/
namespace ContinuityOS.Inventory
open Library

/-- A delay of up to a year. -/
abbrev Delay := {days : ℕ // days ≤ 365}

structure InventoryProfile where
  resourceId : String
  name : String
  startingQuantity : ℚ
  unit : String := "liters"
  normalConsumptionPerDay : ℚ
  degradedConsumptionPerDay : Option ℚ := none
  emergencyConsumptionPerDay : Option ℚ := none
  replenishmentPerDay : ℚ := 0
  replenishmentDelayDays : Delay := ⟨0, by decide⟩
  shipmentDelayDays : Delay := ⟨0, by decide⟩
  routeCapacityFactor : Score := Score.one
  substitutionFactor : Score := ⟨0, Score.zero_mem⟩
  minimumReserve : ℚ
  criticalThreshold : ℚ
  warningThreshold : Option ℚ := none
  storageCapacityLimit : Option ℚ := none
  alternateSupplierDailyRate : ℚ := 0
  alternateSupplierDelayDays : Delay := ⟨0, by decide⟩
  resource_length : 1 ≤ resourceId.length ∧ resourceId.length ≤ 128
  name_length : 1 ≤ name.length ∧ name.length ≤ 256
  unit_length : 1 ≤ unit.length ∧ unit.length ≤ 32
  starting_pos : 0 < startingQuantity
  consumption_pos : 0 < normalConsumptionPerDay
  replenishment_nonneg : 0 ≤ replenishmentPerDay
  reserve_nonneg : 0 ≤ minimumReserve
  critical_nonneg : 0 ≤ criticalThreshold
  alternate_nonneg : 0 ≤ alternateSupplierDailyRate

inductive InventoryStatus where
  | normal | warning | critical | exhausted
deriving DecidableEq

def InventoryStatus.value : InventoryStatus → String
  | .normal => "normal"
  | .warning => "warning"
  | .critical => "critical"
  | .exhausted => "exhausted"

structure InventoryDay where
  day : ℕ
  quantity : ℚ
  consumption : ℚ
  replenishment : ℚ
  status : InventoryStatus
deriving DecidableEq

structure InventoryResult where
  resourceId : String
  name : String
  startingQuantity : ℚ
  unit : String
  daysToWarning : Option ℕ
  daysToCritical : Option ℕ
  daysToExhaustion : Option ℕ
  daysToReplenishment : Option ℕ
  minimumInventoryDuringEvent : ℚ
  timeToRestoreReserve : Option ℕ
  assuredReplenishmentDays : ℤ
  finalQuantity : ℚ
  finalStatus : InventoryStatus
  dailyLog : List InventoryDay
  summary : String

/-- The conditions a simulation is run under. -/
structure SimulationFlags where
  degraded : Bool := false
  emergency : Bool := false
  disruptedReplenishment : Bool := false

section Rates
variable (profile : InventoryProfile) (flags : SimulationFlags)

def consumptionRate : ℚ :=
  match flags.emergency, profile.emergencyConsumptionPerDay, flags.degraded,
    profile.degradedConsumptionPerDay with
  | true, some rate, _, _ => rate
  | _, _, true, some rate => rate
  | _, _, _, _ => profile.normalConsumptionPerDay

/-- Substitution reduces what is consumed. -/
def effectiveConsumption : ℚ :=
  consumptionRate profile flags * (1 - profile.substitutionFactor.val)

def warningLevel : ℚ := profile.warningThreshold.getD (profile.minimumReserve * (3 / 2))

def effectiveReplenishmentStart : ℕ :=
  profile.replenishmentDelayDays.val + profile.shipmentDelayDays.val

/-- The alternate supplier delivers only when the primary one is disrupted. -/
def replenishmentOn (day : ℕ) : ℚ :=
  (if flags.disruptedReplenishment = false ∧ effectiveReplenishmentStart profile ≤ day ∧
      0 < profile.replenishmentPerDay then
    profile.replenishmentPerDay * profile.routeCapacityFactor.val else 0) +
  if flags.disruptedReplenishment = true ∧ 0 < profile.alternateSupplierDailyRate ∧
      profile.alternateSupplierDelayDays.val ≤ day then
    profile.alternateSupplierDailyRate else 0

/-- When the first replenishment is expected to arrive. -/
def assuredReplenishmentDays (simulationDays : ℤ) : ℤ :=
  if flags.disruptedReplenishment = false ∧ 0 < profile.replenishmentPerDay then
    profile.replenishmentDelayDays.val + profile.shipmentDelayDays.val
  else if 0 < profile.alternateSupplierDailyRate then profile.alternateSupplierDelayDays.val
  else simulationDays

def limited (limit : Option ℚ) (quantity : ℚ) : ℚ :=
  match limit with
  | none => quantity
  | some bound => min quantity bound

def nextQuantity (quantity : ℚ) (day : ℕ) : ℚ :=
  max 0 (limited profile.storageCapacityLimit
    (quantity - effectiveConsumption profile flags + replenishmentOn profile flags day))

def statusOf (quantity : ℚ) : InventoryStatus :=
  if quantity ≤ 0 then .exhausted
  else if quantity ≤ profile.criticalThreshold then .critical
  else if quantity ≤ warningLevel profile then .warning
  else .normal

end Rates

/-- What the loop over the days keeps. -/
structure SimulationState where
  quantity : ℚ
  daysToWarning : Option ℕ
  daysToCritical : Option ℕ
  daysToExhaustion : Option ℕ
  daysToReplenishment : Option ℕ
  minInventory : ℚ
  timeToRestoreReserve : Option ℕ
  droppedBelowReserve : Bool
  dailyLog : List InventoryDay

section Loop
variable (profile : InventoryProfile) (flags : SimulationFlags)

def initialState : SimulationState where
  quantity := profile.startingQuantity
  daysToWarning := none
  daysToCritical := none
  daysToExhaustion := none
  daysToReplenishment := none
  minInventory := profile.startingQuantity
  timeToRestoreReserve := none
  droppedBelowReserve := profile.startingQuantity < profile.minimumReserve
  dailyLog := []

def dayEntry (quantity : ℚ) (day : ℕ) : InventoryDay where
  day := day
  quantity := roundDigits 2 quantity
  consumption := roundDigits 2 (effectiveConsumption profile flags)
  replenishment := roundDigits 2 (replenishmentOn profile flags day)
  status := statusOf profile quantity

def simulateDay (state : SimulationState) (day : ℕ) : SimulationState :=
  let quantity := nextQuantity profile flags state.quantity day
  { quantity := quantity
    daysToWarning := recordFirst state.daysToWarning (quantity ≤ warningLevel profile) day
    daysToCritical := recordFirst state.daysToCritical (quantity ≤ profile.criticalThreshold) day
    daysToExhaustion := recordFirst state.daysToExhaustion (quantity ≤ 0) day
    daysToReplenishment :=
      recordFirst state.daysToReplenishment (0 < replenishmentOn profile flags day) day
    minInventory := if quantity < state.minInventory then quantity else state.minInventory
    timeToRestoreReserve :=
      if quantity < profile.minimumReserve then state.timeToRestoreReserve
      else recordFirst state.timeToRestoreReserve state.droppedBelowReserve day
    droppedBelowReserve := state.droppedBelowReserve || quantity < profile.minimumReserve
    dailyLog := state.dailyLog ++ [dayEntry profile flags quantity day] }

/-- The state after the first days. -/
def simulateLoop (days : ℕ) : SimulationState :=
  (List.range days).foldl (simulateDay profile flags) (initialState profile)

end Loop

section Summary

/-- Digits with a comma before every third from the right. -/
def groupThousands (digits : List Char) : List Char :=
  (([','].intercalate (digits.reverse.toChunks 3))).reverse

/-- A whole number with separators, ties to even. -/
def wholeText (q : ℚ) : String :=
  (if q < 0 then "-" else "") ++
    String.ofList (groupThousands (toString (roundHalfEven |q|).toNat).toList)

variable (profile : InventoryProfile) (flags : SimulationFlags) (simulationDays : ℤ)
  (state : SimulationState)

def finalDay : InventoryDay :=
  state.dailyLog.getLast?.getD
    { day := 0, quantity := state.quantity, consumption := 0, replenishment := 0
      status := .normal }

def dayPart (label : String) (day : Option ℕ) : List String :=
  (day.map fun d => label ++ toString d).toList

def summaryOf : String :=
  "; ".intercalate
    ([profile.name ++ ": " ++ wholeText profile.startingQuantity ++ " " ++ profile.unit,
      "consumption: " ++ wholeText (consumptionRate profile flags) ++ "/" ++ profile.unit ++ "/day",
      "assured replenishment: " ++
        toString (assuredReplenishmentDays profile flags simulationDays) ++ " days"] ++
    dayPart "warning at day " state.daysToWarning ++
    dayPart "critical at day " state.daysToCritical ++
    (match state.daysToExhaustion with
      | some day => ["exhausted at day " ++ toString day]
      | none => ["remaining after " ++ toString simulationDays ++ " days: " ++
          wholeText (finalDay state).quantity]) ++
    dayPart "reserve restored at day " state.timeToRestoreReserve)

end Summary

def simulateInventory (profile : InventoryProfile) (simulationDays : ℤ)
    (flags : SimulationFlags) : InventoryResult :=
  let state := simulateLoop profile flags simulationDays.toNat
  { resourceId := profile.resourceId
    name := profile.name
    startingQuantity := profile.startingQuantity
    unit := profile.unit
    daysToWarning := state.daysToWarning
    daysToCritical := state.daysToCritical
    daysToExhaustion := state.daysToExhaustion
    daysToReplenishment := state.daysToReplenishment
    minimumInventoryDuringEvent := roundDigits 2 state.minInventory
    timeToRestoreReserve := state.timeToRestoreReserve
    assuredReplenishmentDays := assuredReplenishmentDays profile flags simulationDays
    finalQuantity := roundDigits 2 (finalDay state).quantity
    finalStatus := (finalDay state).status
    dailyLog := state.dailyLog
    summary := summaryOf profile flags simulationDays state }

example : wholeText (1234567 / 2) = "617,284" := by
  with_unfolding_all decide

end ContinuityOS.Inventory
