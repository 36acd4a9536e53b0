import ContinuityOS.Inventory.Runs

/-! # When replenishment arrives

The indicator promises a first arrival from the rates and the delays alone. The loop also
multiplies by the capacity of the route, and calls on the alternate supplier only when
the primary one is disrupted.
-/
namespace ContinuityOS.Inventory
open Library

/-- The promised day is the day of the first arrival, and without one it lies past the
simulation. -/
def Assured (simulationDays : ℤ) (result : InventoryResult) : Prop :=
  (∀ day, result.daysToReplenishment = some day → result.assuredReplenishmentDays = day) ∧
    (result.daysToReplenishment = none → simulationDays ≤ result.assuredReplenishmentDays)

/-- The primary supply is promised over a route without capacity. -/
def PromisesBlockedRoute (profile : InventoryProfile) (flags : SimulationFlags)
    (simulationDays : ℤ) : Prop :=
  flags.disruptedReplenishment = false ∧ 0 < profile.replenishmentPerDay ∧
    profile.routeCapacityFactor.val = 0 ∧
    profile.replenishmentDelayDays.val + profile.shipmentDelayDays.val < simulationDays

/-- The alternate supply is promised although nothing is disrupted. -/
def PromisesIdleAlternate (profile : InventoryProfile) (flags : SimulationFlags)
    (simulationDays : ℤ) : Prop :=
  flags.disruptedReplenishment = false ∧ profile.replenishmentPerDay = 0 ∧
    0 < profile.alternateSupplierDailyRate ∧
    profile.alternateSupplierDelayDays.val < simulationDays

section Arrival
variable (profile : InventoryProfile) (flags : SimulationFlags)

theorem daysToReplenishment_eq (simulationDays : ℤ) :
    (simulateInventory profile simulationDays flags).daysToReplenishment =
      firstHit (fun day => 0 < replenishmentOn profile flags day) simulationDays.toNat :=
  (recorded profile flags simulationDays.toNat).replenishment

variable {profile flags} {simulationDays : ℤ}

/-- The first arrival of a supply that flows from the promised day on. -/
theorem assured_of_flow (start : ℕ)
    (hflow : ∀ day, 0 < replenishmentOn profile flags day ↔ start ≤ day)
    (hassured : assuredReplenishmentDays profile flags simulationDays = start) :
    Assured simulationDays (simulateInventory profile simulationDays flags) := by
  have harrival := daysToReplenishment_eq profile flags simulationDays
  simp only [hflow, firstHit_from] at harrival
  rw [Assured, harrival]
  change (∀ day, _ → assuredReplenishmentDays profile flags simulationDays = _) ∧
    (_ → simulationDays ≤ assuredReplenishmentDays profile flags simulationDays)
  rw [hassured]
  split_ifs with hstart
  · simp
  · refine ⟨by simp, fun _ => ?_⟩
    exact not_lt.mp fun hlt => hstart (Int.lt_toNat.mpr hlt)

/-- Where nothing arrives the promise has to lie past the simulation. -/
theorem assured_iff_of_idle (hidle : ∀ day, ¬ 0 < replenishmentOn profile flags day) :
    Assured simulationDays (simulateInventory profile simulationDays flags) ↔
      simulationDays ≤ assuredReplenishmentDays profile flags simulationDays := by
  have harrival := daysToReplenishment_eq profile flags simulationDays
  simp only [hidle, decide_false, firstHit_never] at harrival
  rw [Assured, harrival]
  simp [simulateInventory]

end Arrival

section Cases
variable {profile : InventoryProfile} {flags : SimulationFlags}

theorem replenishmentOn_primary (h : flags.disruptedReplenishment = false) (day : ℕ) :
    0 < replenishmentOn profile flags day ↔
      (0 < profile.replenishmentPerDay ∧ profile.routeCapacityFactor.val ≠ 0) ∧
        effectiveReplenishmentStart profile ≤ day := by
  have hfactor := profile.routeCapacityFactor.nonneg
  simp only [replenishmentOn, h, true_and, Bool.false_eq_true, false_and, if_false, add_zero]
  split_ifs with hflow
  · rw [mul_pos_iff_of_pos_left hflow.2, lt_iff_le_and_ne]
    simp [hflow, hfactor, ne_comm]
  · simp only [lt_irrefl, false_iff]
    rintro ⟨⟨hrate, -⟩, hstart⟩
    exact hflow ⟨hstart, hrate⟩

theorem replenishmentOn_alternate (h : flags.disruptedReplenishment = true) (day : ℕ) :
    0 < replenishmentOn profile flags day ↔
      0 < profile.alternateSupplierDailyRate ∧ profile.alternateSupplierDelayDays.val ≤ day := by
  simp only [replenishmentOn, h, true_and, Bool.true_eq_false, false_and, if_false, zero_add]
  split_ifs with hflow
  · exact iff_of_true hflow.1 hflow
  · exact iff_of_false (lt_irrefl 0) hflow

theorem assured_disrupted (h : flags.disruptedReplenishment = true) (simulationDays : ℤ) :
    Assured simulationDays (simulateInventory profile simulationDays flags) := by
  by_cases hrate : 0 < profile.alternateSupplierDailyRate
  · refine assured_of_flow profile.alternateSupplierDelayDays.val (fun day => ?_) ?_
    · simp [replenishmentOn_alternate h, hrate]
    · simp [assuredReplenishmentDays, h, hrate]
  · rw [assured_iff_of_idle fun day => by simp [replenishmentOn_alternate h, hrate]]
    simp [assuredReplenishmentDays, h, hrate]

theorem assured_undisrupted_iff (h : flags.disruptedReplenishment = false) (simulationDays : ℤ) :
    Assured simulationDays (simulateInventory profile simulationDays flags) ↔
      ¬ PromisesBlockedRoute profile flags simulationDays ∧
        ¬ PromisesIdleAlternate profile flags simulationDays := by
  rcases profile.replenishment_nonneg.eq_or_lt with hzero | hrate
  · -- no primary supply: nothing arrives, whatever the alternate rate
    have hidle : ∀ day, ¬ 0 < replenishmentOn profile flags day := by
      simp [replenishmentOn_primary h, ← hzero]
    rw [assured_iff_of_idle hidle]
    by_cases halternate : 0 < profile.alternateSupplierDailyRate
    · simp [assuredReplenishmentDays, PromisesBlockedRoute, PromisesIdleAlternate, h, ← hzero,
        halternate]
    · simp [assuredReplenishmentDays, PromisesBlockedRoute, PromisesIdleAlternate, h, ← hzero,
        halternate]
  · by_cases hfactor : profile.routeCapacityFactor.val = 0
    · have hidle : ∀ day, ¬ 0 < replenishmentOn profile flags day := by
        simp [replenishmentOn_primary h, hfactor]
      rw [assured_iff_of_idle hidle]
      simp [assuredReplenishmentDays, PromisesBlockedRoute, PromisesIdleAlternate, h, hrate,
        hrate.ne', hfactor]
    · refine iff_of_true ?_ ⟨fun hblocked => hfactor hblocked.2.2.1, fun hidle =>
        hrate.ne' hidle.2.1⟩
      refine assured_of_flow (effectiveReplenishmentStart profile) (fun day => ?_) ?_
      · simp [replenishmentOn_primary h, hrate, hfactor]
      · simp [assuredReplenishmentDays, effectiveReplenishmentStart, h, hrate]

end Cases

/-- The indicator agrees with the simulation exactly where it promises neither a supply
over a blocked route nor an alternate supplier that is not called. -/
theorem simulateInventory_assured_iff (profile : InventoryProfile) (simulationDays : ℤ)
    (flags : SimulationFlags) :
    Assured simulationDays (simulateInventory profile simulationDays flags) ↔
      ¬ PromisesBlockedRoute profile flags simulationDays ∧
        ¬ PromisesIdleAlternate profile flags simulationDays := by
  cases h : flags.disruptedReplenishment with
  | false => exact assured_undisrupted_iff h simulationDays
  | true =>
    refine iff_of_true (assured_disrupted h simulationDays) ⟨fun hblocked => ?_, fun hidle => ?_⟩
    · exact Bool.noConfusion (h.symm.trans hblocked.1)
    · exact Bool.noConfusion (h.symm.trans hidle.1)

theorem alternate_rate_nonneg : (0 : ℚ) ≤ 5 := by norm_num

/-- Fuel with an alternate supplier who could deliver after five days. -/
def alternateProfile : InventoryProfile :=
  { fuelProfile with
    alternateSupplierDailyRate := 5
    alternateSupplierDelayDays := ⟨5, by decide⟩
    alternate_nonneg := alternate_rate_nonneg }

/-- Without a disruption the alternate supplier is promised on day five and never comes. -/
theorem alternateProfile_not_assured :
    ¬ ∀ (profile : InventoryProfile) (simulationDays : ℤ) (flags : SimulationFlags),
      Assured simulationDays (simulateInventory profile simulationDays flags) := by
  intro h
  have hassured := (assured_undisrupted_iff rfl 90).mp (h alternateProfile 90 {})
  exact hassured.2 ⟨rfl, rfl, by norm_num [alternateProfile], by norm_num [alternateProfile]⟩

end ContinuityOS.Inventory
