import ContinuityOS.Inventory.Model

/-! # Runs of the inventory simulation

One day keeps the order of two quantities, so a run that starts with no less, is
replenished no less and consumes no more keeps no less on every day. The recorded days
are the first ones on which a threshold is reached.
-/
namespace ContinuityOS.Inventory
open Library

section OneRun
variable (profile : InventoryProfile) (flags : SimulationFlags)

theorem simulateLoop_succ (days : ℕ) :
    simulateLoop profile flags (days + 1) =
      simulateDay profile flags (simulateLoop profile flags days) days := by
  rw [simulateLoop, List.range_succ, List.foldl_append]
  rfl

/-- The quantity at the end of a day. -/
def quantityOn (day : ℕ) : ℚ := (simulateLoop profile flags (day + 1)).quantity

theorem nextQuantity_nonneg (quantity : ℚ) (day : ℕ) :
    0 ≤ nextQuantity profile flags quantity day := le_max_left _ _

theorem quantity_nonneg (days : ℕ) : 0 ≤ (simulateLoop profile flags days).quantity := by
  cases days with
  | zero => exact profile.starting_pos.le
  | succ days =>
    rw [simulateLoop_succ]
    exact nextQuantity_nonneg profile flags _ days

/-- What the loop has recorded, in terms of the quantities. -/
structure Recorded (days : ℕ) (state : SimulationState) : Prop where
  warning : state.daysToWarning =
    firstHit (fun day => quantityOn profile flags day ≤ warningLevel profile) days
  critical : state.daysToCritical =
    firstHit (fun day => quantityOn profile flags day ≤ profile.criticalThreshold) days
  exhaustion : state.daysToExhaustion =
    firstHit (fun day => quantityOn profile flags day ≤ 0) days
  replenishment : state.daysToReplenishment =
    firstHit (fun day => 0 < replenishmentOn profile flags day) days
  log : state.dailyLog =
    (List.range days).map fun day => dayEntry profile flags (quantityOn profile flags day) day

theorem recorded (days : ℕ) : Recorded profile flags days (simulateLoop profile flags days) := by
  induction days with
  | zero => exact ⟨rfl, rfl, rfl, rfl, rfl⟩
  | succ days ih =>
    have hquantity : nextQuantity profile flags (simulateLoop profile flags days).quantity days =
        quantityOn profile flags days := by
      rw [quantityOn, simulateLoop_succ]
      rfl
    rw [simulateLoop_succ]
    refine ⟨?_, ?_, ?_, ?_, ?_⟩
    · rw [firstHit_succ, ← ih.warning, ← hquantity]
      rfl
    · rw [firstHit_succ, ← ih.critical, ← hquantity]
      rfl
    · rw [firstHit_succ, ← ih.exhaustion, ← hquantity]
      rfl
    · rw [firstHit_succ, ← ih.replenishment]
      rfl
    · rw [List.range_succ, List.map_append, ← ih.log, List.map_singleton, ← hquantity]
      rfl

/-- Exhaustion is critical, so it is not recorded before the critical day. -/
theorem critical_le_exhaustion (simulationDays : ℤ) {day : ℕ}
    (h : (simulateInventory profile simulationDays flags).daysToExhaustion = some day) :
    ∃ day' ≤ day, (simulateInventory profile simulationDays flags).daysToCritical = some day' := by
  have hrun := recorded profile flags simulationDays.toNat
  have hcritical : (simulateInventory profile simulationDays flags).daysToCritical =
      firstHit (fun day => quantityOn profile flags day ≤ profile.criticalThreshold)
        simulationDays.toNat := hrun.critical
  have hexhaustion : (simulateInventory profile simulationDays flags).daysToExhaustion =
      firstHit (fun day => quantityOn profile flags day ≤ 0) simulationDays.toNat :=
    hrun.exhaustion
  rw [hexhaustion] at h
  rw [hcritical]
  refine firstHit_le (fun i _ hi => ?_) h
  rw [decide_eq_true_eq] at hi ⊢
  exact hi.trans profile.critical_nonneg

end OneRun

/-- Under the second profile and flags no less is kept and nothing arrives later. -/
structure NoWorse (first : InventoryProfile) (flags : SimulationFlags)
    (second : InventoryProfile) (flags' : SimulationFlags) : Prop where
  starting : first.startingQuantity ≤ second.startingQuantity
  storage : ∀ bound' ∈ second.storageCapacityLimit,
    ∃ bound ∈ first.storageCapacityLimit, bound ≤ bound'
  primary : first.replenishmentPerDay * first.routeCapacityFactor.val ≤
    second.replenishmentPerDay * second.routeCapacityFactor.val
  alternate : first.alternateSupplierDailyRate ≤ second.alternateSupplierDailyRate
  primaryDelay : effectiveReplenishmentStart second ≤ effectiveReplenishmentStart first
  alternateDelay : second.alternateSupplierDelayDays ≤ first.alternateSupplierDelayDays
  consumption : effectiveConsumption second flags' ≤ effectiveConsumption first flags
  warning : warningLevel first = warningLevel second
  critical : first.criticalThreshold = second.criticalThreshold
  disrupted : flags.disruptedReplenishment = flags'.disruptedReplenishment

section TwoRuns
variable {first second : InventoryProfile} {flags flags' : SimulationFlags}

theorem limited_mono {limit limit' : Option ℚ} {q q' : ℚ}
    (hlimit : ∀ bound' ∈ limit', ∃ bound ∈ limit, bound ≤ bound') (hq : q ≤ q') :
    limited limit q ≤ limited limit' q' := by
  have hle : limited limit q ≤ q := by
    cases limit with
    | none => exact le_rfl
    | some bound => exact min_le_left q bound
  cases limit' with
  | none => exact hle.trans hq
  | some bound' =>
    obtain ⟨bound, hbound, hbounds⟩ := hlimit bound' rfl
    cases hbound
    exact min_le_min hq hbounds

/-- A supply that is no smaller and comes no later delivers no less on any day. -/
theorem supplied_mono (active : Prop) [Decidable active] (day : ℕ) (rate : ℚ)
    {rate' amount amount' : ℚ} {start start' : ℕ} (hrate' : 0 ≤ rate') (hzero' : rate' = 0 → amount' = 0)
    (hamount' : 0 ≤ amount') (hamount : amount ≤ amount') (hstart : start' ≤ start) :
    (if active ∧ start ≤ day ∧ 0 < rate then amount else 0) ≤
      if active ∧ start' ≤ day ∧ 0 < rate' then amount' else 0 := by
  split_ifs with h h' h'
  · exact hamount
  · -- the second supply is off only where its rate is zero
    have hoff : ¬ 0 < rate' := fun hpos => h' ⟨h.1, hstart.trans h.2.1, hpos⟩
    exact hamount.trans_eq (hzero' (le_antisymm (not_lt.mp hoff) hrate'))
  · exact hamount'
  · exact le_rfl

variable (h : NoWorse first flags second flags')
include h

theorem replenishmentOn_mono (day : ℕ) :
    replenishmentOn first flags day ≤ replenishmentOn second flags' day := by
  unfold replenishmentOn
  rw [h.disrupted]
  refine add_le_add ?_ ?_
  · refine supplied_mono _ day _ second.replenishment_nonneg ?_ ?_ h.primary h.primaryDelay
    · intro hzero
      rw [hzero, zero_mul]
    · exact mul_nonneg second.replenishment_nonneg second.routeCapacityFactor.nonneg
  · have halternate := supplied_mono (flags'.disruptedReplenishment = true) day
      first.alternateSupplierDailyRate second.alternate_nonneg id second.alternate_nonneg
      h.alternate h.alternateDelay
    simpa only [and_comm, and_left_comm] using halternate

theorem nextQuantity_mono {q q' : ℚ} (hq : q ≤ q') (day : ℕ) :
    nextQuantity first flags q day ≤ nextQuantity second flags' q' day := by
  refine max_le_max le_rfl (limited_mono h.storage ?_)
  exact add_le_add (sub_le_sub hq h.consumption) (replenishmentOn_mono h day)

/-- From day to day the second run keeps no less. -/
theorem quantity_mono (days : ℕ) :
    (simulateLoop first flags days).quantity ≤ (simulateLoop second flags' days).quantity := by
  induction days with
  | zero => exact h.starting
  | succ days ih =>
    rw [simulateLoop_succ, simulateLoop_succ]
    exact nextQuantity_mono h ih days

/-- A threshold is reached no earlier in the second run. -/
theorem firstHit_quantity_mono (threshold : ℚ) {days day : ℕ}
    (hday : firstHit (fun i => quantityOn second flags' i ≤ threshold) days = some day) :
    ∃ day' ≤ day, firstHit (fun i => quantityOn first flags i ≤ threshold) days = some day' := by
  refine firstHit_le (fun i _ hi => ?_) hday
  rw [decide_eq_true_eq] at hi ⊢
  exact (quantity_mono h (i + 1)).trans hi

omit h

/-- Two runs of one length: the second keeps no less on every day and reaches every
threshold no earlier; and in every run the critical day is not after exhaustion. -/
theorem simulateInventory_mono (first second : InventoryProfile) (flags flags' : SimulationFlags)
    (h : NoWorse first flags second flags') (simulationDays : ℤ) :
    (∀ days ≤ simulationDays.toNat, 0 ≤ (simulateLoop first flags days).quantity ∧
      (simulateLoop first flags days).quantity ≤ (simulateLoop second flags' days).quantity) ∧
    List.Forall₂ (fun entry entry' => 0 ≤ entry.quantity ∧ entry.quantity ≤ entry'.quantity)
      (simulateInventory first simulationDays flags).dailyLog
      (simulateInventory second simulationDays flags').dailyLog ∧
    (∀ day, (simulateInventory second simulationDays flags').daysToWarning = some day →
      ∃ day' ≤ day, (simulateInventory first simulationDays flags).daysToWarning = some day') ∧
    (∀ day, (simulateInventory second simulationDays flags').daysToCritical = some day →
      ∃ day' ≤ day, (simulateInventory first simulationDays flags).daysToCritical = some day') ∧
    (∀ day, (simulateInventory second simulationDays flags').daysToExhaustion = some day →
      ∃ day' ≤ day, (simulateInventory first simulationDays flags).daysToExhaustion = some day') ∧
    ∀ (profile : InventoryProfile) (flags : SimulationFlags) (day : ℕ),
      (simulateInventory profile simulationDays flags).daysToExhaustion = some day →
      ∃ day' ≤ day, (simulateInventory profile simulationDays flags).daysToCritical = some day' := by
  have hfirst := recorded first flags simulationDays.toNat
  have hsecond := recorded second flags' simulationDays.toNat
  refine ⟨fun days _ => ⟨quantity_nonneg first flags days, quantity_mono h days⟩, ?_, ?_, ?_, ?_,
    fun profile flags day => critical_le_exhaustion profile flags simulationDays⟩
  · simp only [simulateInventory, hfirst.log, hsecond.log]
    rw [List.forall₂_map_left_iff, List.forall₂_map_right_iff, List.forall₂_same]
    intro day _
    exact ⟨roundDigits_nonneg 2 (quantity_nonneg first flags (day + 1)),
      roundDigits_mono 2 (quantity_mono h (day + 1))⟩
  · simp only [simulateInventory, hfirst.warning, hsecond.warning, h.warning]
    exact fun day => firstHit_quantity_mono h _
  · simp only [simulateInventory, hfirst.critical, hsecond.critical, h.critical]
    exact fun day => firstHit_quantity_mono h _
  · simp only [simulateInventory, hfirst.exhaustion, hsecond.exhaustion]
    exact fun day => firstHit_quantity_mono h _

/-- Fuel that lasts for ten days without supply. -/
def fuelProfile : InventoryProfile where
  resourceId := "fuel"
  name := "Fuel"
  startingQuantity := 100
  normalConsumptionPerDay := 10
  minimumReserve := 20
  criticalThreshold := 10
  resource_length := by decide
  name_length := by decide
  unit_length := by decide
  starting_pos := by norm_num
  consumption_pos := by norm_num
  replenishment_nonneg := le_rfl
  reserve_nonneg := by norm_num
  critical_nonneg := by norm_num
  alternate_nonneg := le_rfl

/-- More fuel, half of which is replenished. -/
def suppliedProfile : InventoryProfile :=
  { fuelProfile with
    startingQuantity := 120
    replenishmentPerDay := 5
    starting_pos := by norm_num
    replenishment_nonneg := by norm_num }

theorem suppliedProfile_noWorse : NoWorse fuelProfile {} suppliedProfile {} where
  starting := by norm_num [fuelProfile, suppliedProfile]
  storage := fun bound h => ⟨bound, h, le_rfl⟩
  primary := by norm_num [fuelProfile, suppliedProfile, Score.one]
  alternate := le_rfl
  primaryDelay := le_rfl
  alternateDelay := le_rfl
  consumption := le_rfl
  warning := rfl
  critical := rfl
  disrupted := rfl

theorem simulateInventory_mono_supplied :
    List.Forall₂ (fun entry entry' => 0 ≤ entry.quantity ∧ entry.quantity ≤ entry'.quantity)
      (simulateInventory fuelProfile 10 {}).dailyLog
      (simulateInventory suppliedProfile 10 {}).dailyLog :=
  (simulateInventory_mono fuelProfile suppliedProfile {} {} suppliedProfile_noWorse 10).2.1

end TwoRuns

end ContinuityOS.Inventory
