import ContinuityOS.Domain
import ContinuityOS.Library.Sorting

/-! # Wargames over horizons

Each horizon is evaluated on its own, in the order of the days. Stockpiles only run down, and
everything else at a horizon follows from how far they have run down, so a later horizon, more
pressure or less cushion never looks better.
-/
namespace ContinuityOS.Wargame
open Library

inductive DisruptionScenarioType where
  | maritimeBlockade | criticalMineralEmbargo | scadaCyberSabotage | subseaCableInterdiction
  | permafrostCorridorCollapse | extremeWildfireCascade
deriving DecidableEq

def DisruptionScenarioType.value : DisruptionScenarioType → String
  | .maritimeBlockade => "maritime_blockade"
  | .criticalMineralEmbargo => "critical_mineral_embargo"
  | .scadaCyberSabotage => "scada_cyber_sabotage"
  | .subseaCableInterdiction => "subsea_cable_interdiction"
  | .permafrostCorridorCollapse => "permafrost_corridor_collapse"
  | .extremeWildfireCascade => "extreme_wildfire_cascade"

structure StrategicMineralProfile where
  mineralId : String
  stockpileDaysRemainingBaseline : ℕ

def canadianCriticalMinerals : List StrategicMineralProfile :=
  [⟨"NICKEL", 90⟩, ⟨"LITHIUM", 60⟩, ⟨"COBALT", 45⟩, ⟨"RARE_EARTHS", 30⟩, ⟨"URANIUM", 180⟩,
    ⟨"CHROMITE", 40⟩, ⟨"NIOBIUM", 75⟩, ⟨"TITANIUM", 60⟩]

/-- From the best to the worst. -/
inductive WargameState where
  | operationalStable | severeDegradation | functionalCollapse
deriving DecidableEq

def WargameState.value : WargameState → String
  | .operationalStable => "OPERATIONAL_STABLE"
  | .severeDegradation => "SEVERE_DEGRADATION"
  | .functionalCollapse => "FUNCTIONAL_COLLAPSE"

def WargameState.rank : WargameState → ℕ
  | .operationalStable => 0
  | .severeDegradation => 1
  | .functionalCollapse => 2

structure WargameStageResult where
  dayHorizon : ℤ
  corridorState : WargameState
  natoReadinessScore : Score
  mineralDepletionPercentages : List (String × ℚ)
  estimatedEconomicLossCad : ℚ
  activeBottlenecks : List String

/-- A readiness above one is no score. -/
inductive WargameError where
  | invalidReadiness

structure WargameSimulationReport where
  scenarioType : DisruptionScenarioType
  targetCorridorId : String
  testedHorizonsDays : List ℤ
  stages : List WargameStageResult
  criticalFailureDay : Option ℤ
  executiveAssessment : String

section Stage
variable (pressure cushion : Score) (day : ℤ)

def burnRate : ℚ := 1 + pressure.val * (8 / 10) - cushion.val * (4 / 10)

def depletion (mineral : StrategicMineralProfile) : ℚ :=
  roundDigits 1 (min 100
    (day * burnRate pressure cushion / mineral.stockpileDaysRemainingBaseline * 100))

def criticalExhausted : List StrategicMineralProfile :=
  canadianCriticalMinerals.filter fun mineral => 95 ≤ depletion pressure cushion day mineral

def exhaustedCount : ℕ := (criticalExhausted pressure cushion day).length

def readiness : ℚ :=
  max (1 / 10) (1 - day / 180 * pressure.val *
    (1 + exhaustedCount pressure cushion day * (1 / 10)))

def stateOf (readiness : ℚ) : WargameState :=
  if readiness < 3 / 10 then .functionalCollapse
  else if readiness < 6 / 10 then .severeDegradation
  else .operationalStable

def dailyBurn : ℚ := 12500000

def economicLoss : ℚ :=
  day * dailyBurn * (1 + exhaustedCount pressure cushion day * (1 / 4))

def bottlenecks : List String :=
  if criticalExhausted pressure cushion day = [] then ["Nominal inventory buffer holding"]
  else (criticalExhausted pressure cushion day).map fun mineral =>
    mineral.mineralId ++ " stockpile depleted (" ++
      fixedPoint 1 (depletion pressure cushion day mineral) ++ "%)"

def stageAt : Except WargameError WargameStageResult :=
  if h : 0 ≤ roundDigits 3 (readiness pressure cushion day) ∧
      roundDigits 3 (readiness pressure cushion day) ≤ 1 then
    .ok
      { dayHorizon := day
        corridorState := stateOf (readiness pressure cushion day)
        natoReadinessScore := ⟨roundDigits 3 (readiness pressure cushion day), h⟩
        mineralDepletionPercentages := canadianCriticalMinerals.map fun mineral =>
          (mineral.mineralId, depletion pressure cushion day mineral)
        estimatedEconomicLossCad := roundDigits 2 (economicLoss pressure cushion day)
        activeBottlenecks := bottlenecks pressure cushion day }
  else .error .invalidReadiness

end Stage

/-- The loop over the sorted horizons, with the first day at which a stockpile is exhausted. -/
def stageLoop (pressure cushion : Score) :
    Option ℤ → List ℤ → Except WargameError (List WargameStageResult × Option ℤ)
  | critDay, [] => .ok ([], critDay)
  | critDay, day :: days => do
    let critDay := if criticalExhausted pressure cushion day ≠ [] ∧ critDay = none then some day
      else critDay
    let stage ← stageAt pressure cushion day
    let (stages, last) ← stageLoop pressure cushion critDay days
    return (stage :: stages, last)

/-- No day, and day zero, both read as later than every horizon. -/
def critDayText : Option ℤ → String
  | none => "180+"
  | some day => if day = 0 then "180+" else toString day

def executiveAssessment (scenarioType : DisruptionScenarioType) (corridorId : String)
    (pressure : Score) (critDay : Option ℤ) : String :=
  "Wargame simulation under " ++ scenarioType.value.toUpper ++ " on corridor '" ++ corridorId ++
    "'. Adversary disruption pressure: " ++ fixedPoint 2 pressure.val ++
    ". System withstands up to Day " ++ critDayText critDay ++
    " before strategic mineral exhaustion."

def defaultHorizons : List ℤ := [30, 60, 90, 180]

def runSimulation (scenarioType : DisruptionScenarioType) (corridorId : String)
    (horizonsDays : Option (List ℤ)) (pressure cushion : Score) :
    Except WargameError WargameSimulationReport := do
  let horizons := horizonsDays.getD defaultHorizons
  let (stages, critDay) ← stageLoop pressure cushion none (sortedBy id horizons)
  return { scenarioType := scenarioType
           targetCorridorId := corridorId
           testedHorizonsDays := horizons
           stages := stages
           criticalFailureDay := critDay
           executiveAssessment := executiveAssessment scenarioType corridorId pressure critDay }

/-- The stage shows a stockpile that is all but gone. -/
def Exhausted (stage : WargameStageResult) : Prop :=
  ∃ entry ∈ stage.mineralDepletionPercentages, 95 ≤ entry.2

instance (stage : WargameStageResult) : Decidable (Exhausted stage) :=
  inferInstanceAs (Decidable (∃ entry ∈ stage.mineralDepletionPercentages, 95 ≤ entry.2))

/-- Every figure of the second stage is as bad as that of the first, or worse. -/
structure NoBetter (first second : WargameStageResult) : Prop where
  state : first.corridorState.rank ≤ second.corridorState.rank
  readiness : second.natoReadinessScore ≤ first.natoReadinessScore
  depletion : List.Forall₂ (fun a b => a.1 = b.1 ∧ a.2 ≤ b.2)
    first.mineralDepletionPercentages second.mineralDepletionPercentages
  loss : first.estimatedEconomicLossCad ≤ second.estimatedEconomicLossCad

section Monotone
variable {pressure pressure' cushion cushion' : Score} {day day' : ℤ}

theorem burnRate_nonneg (pressure cushion : Score) : 0 ≤ burnRate pressure cushion := by
  have hpressure := pressure.nonneg
  have hcushion := cushion.le_one
  unfold burnRate
  linarith

theorem burnRate_mono (hpressure : pressure ≤ pressure') (hcushion : cushion' ≤ cushion) :
    burnRate pressure cushion ≤ burnRate pressure' cushion' := by
  have hp : pressure.val ≤ pressure'.val := hpressure
  have hc : cushion'.val ≤ cushion.val := hcushion
  unfold burnRate
  linarith

theorem depletion_mono (hnonneg : 0 ≤ day) (hday : day ≤ day') (hpressure : pressure ≤ pressure')
    (hcushion : cushion' ≤ cushion) (mineral : StrategicMineralProfile) :
    depletion pressure cushion day mineral ≤ depletion pressure' cushion' day' mineral := by
  have hcast : (day : ℚ) ≤ day' := Int.cast_le.mpr hday
  have hzero : (0 : ℚ) ≤ day := Int.cast_nonneg hnonneg
  have hburn : (day : ℚ) * burnRate pressure cushion ≤ day' * burnRate pressure' cushion' :=
    mul_le_mul hcast (burnRate_mono hpressure hcushion) (burnRate_nonneg pressure cushion)
      (hzero.trans hcast)
  refine roundDigits_mono 1 (min_le_min_left 100 ?_)
  exact mul_le_mul_of_nonneg_right (div_le_div_of_nonneg_right hburn (Nat.cast_nonneg _))
    (by norm_num)

theorem exhaustedCount_mono (hnonneg : 0 ≤ day) (hday : day ≤ day')
    (hpressure : pressure ≤ pressure') (hcushion : cushion' ≤ cushion) :
    exhaustedCount pressure cushion day ≤ exhaustedCount pressure' cushion' day' := by
  refine (List.monotone_filter_right _ fun mineral hmineral => ?_).length_le
  rw [decide_eq_true_eq] at hmineral ⊢
  exact hmineral.trans (depletion_mono hnonneg hday hpressure hcushion mineral)

theorem readiness_anti (hnonneg : 0 ≤ day) (hday : day ≤ day') (hpressure : pressure ≤ pressure')
    (hcushion : cushion' ≤ cushion) :
    readiness pressure' cushion' day' ≤ readiness pressure cushion day := by
  have hcast : (day : ℚ) ≤ day' := Int.cast_le.mpr hday
  have hzero : (0 : ℚ) ≤ day := Int.cast_nonneg hnonneg
  have hp : pressure.val ≤ pressure'.val := hpressure
  have hcount : (exhaustedCount pressure cushion day : ℚ) ≤
      exhaustedCount pressure' cushion' day' :=
    Nat.cast_le.mpr (exhaustedCount_mono hnonneg hday hpressure hcushion)
  have hpositive := pressure'.nonneg
  have hwear : (day : ℚ) / 180 * pressure.val ≤ day' / 180 * pressure'.val :=
    mul_le_mul (by linarith) hp pressure.nonneg (by linarith)
  have hproduct : (day : ℚ) / 180 * pressure.val *
      (1 + exhaustedCount pressure cushion day * (1 / 10)) ≤ day' / 180 * pressure'.val *
        (1 + exhaustedCount pressure' cushion' day' * (1 / 10)) :=
    mul_le_mul hwear (by linarith) (by positivity)
      (mul_nonneg (by linarith) hpositive)
  exact max_le_max_left (1 / 10) (by linarith)

theorem economicLoss_mono (hnonneg : 0 ≤ day) (hday : day ≤ day')
    (hpressure : pressure ≤ pressure') (hcushion : cushion' ≤ cushion) :
    economicLoss pressure cushion day ≤ economicLoss pressure' cushion' day' := by
  have hcast : (day : ℚ) ≤ day' := Int.cast_le.mpr hday
  have hzero : (0 : ℚ) ≤ day := Int.cast_nonneg hnonneg
  have hcount : (exhaustedCount pressure cushion day : ℚ) ≤
      exhaustedCount pressure' cushion' day' :=
    Nat.cast_le.mpr (exhaustedCount_mono hnonneg hday hpressure hcushion)
  have hburn : (0 : ℚ) ≤ dailyBurn := by norm_num [dailyBurn]
  have hdays : (day : ℚ) * dailyBurn ≤ day' * dailyBurn := mul_le_mul_of_nonneg_right hcast hburn
  exact mul_le_mul hdays (by linarith) (by positivity) (mul_nonneg (hzero.trans hcast) hburn)

theorem stateOf_anti {r r' : ℚ} (h : r' ≤ r) : (stateOf r).rank ≤ (stateOf r').rank := by
  unfold stateOf
  split_ifs <;> first | decide | (exfalso; linarith)

end Monotone

section Loop
variable {pressure cushion : Score} {day : ℤ} {days : List ℤ}

/-- From day zero on the readiness is a score, never below a tenth. -/
theorem readiness_bounds (pressure cushion : Score) (hnonneg : 0 ≤ day) :
    1 / 10 ≤ readiness pressure cushion day ∧ readiness pressure cushion day ≤ 1 := by
  have hzero : (0 : ℚ) ≤ day := Int.cast_nonneg hnonneg
  have hpressure := pressure.nonneg
  refine ⟨le_max_left _ _, max_le (by norm_num) ?_⟩
  have hwear : 0 ≤ (day : ℚ) / 180 * pressure.val *
      (1 + exhaustedCount pressure cushion day * (1 / 10)) := by positivity
  linarith

theorem stageAt_ok (pressure cushion : Score) (hnonneg : 0 ≤ day) :
    ∃ stage, stageAt pressure cushion day = .ok stage ∧
    stage.dayHorizon = day ∧
    stage.corridorState = stateOf (readiness pressure cushion day) ∧
    stage.natoReadinessScore.val = roundDigits 3 (readiness pressure cushion day) ∧
    stage.mineralDepletionPercentages = (canadianCriticalMinerals.map fun mineral =>
      (mineral.mineralId, depletion pressure cushion day mineral)) ∧
    stage.estimatedEconomicLossCad = roundDigits 2 (economicLoss pressure cushion day) := by
  obtain ⟨hlow, hhigh⟩ := readiness_bounds pressure cushion hnonneg
  have hscore : 0 ≤ roundDigits 3 (readiness pressure cushion day) ∧
      roundDigits 3 (readiness pressure cushion day) ≤ 1 :=
    ⟨roundDigits_nonneg 3 (by linarith), roundDigits_le_one 3 hhigh⟩
  refine ⟨_, dif_pos hscore, rfl, rfl, rfl, rfl, rfl⟩

/-- The later stage, under more pressure and with less cushion, is no better. -/
theorem noBetter_of_le {pressure' cushion' : Score} {day' : ℤ} {stage stage' : WargameStageResult}
    (h : stageAt pressure cushion day = .ok stage)
    (h' : stageAt pressure' cushion' day' = .ok stage') (hnonneg : 0 ≤ day) (hday : day ≤ day')
    (hpressure : pressure ≤ pressure') (hcushion : cushion' ≤ cushion) : NoBetter stage stage' := by
  obtain ⟨found, hfound, -, hstate, hready, hdepletion, hloss⟩ :=
    stageAt_ok pressure cushion hnonneg
  obtain ⟨found', hfound', -, hstate', hready', hdepletion', hloss'⟩ :=
    stageAt_ok pressure' cushion' (hnonneg.trans hday)
  cases Except.ok.inj (h.symm.trans hfound)
  cases Except.ok.inj (h'.symm.trans hfound')
  have hanti := readiness_anti hnonneg hday hpressure hcushion
  refine ⟨?_, ?_, ?_, ?_⟩
  · rw [hstate, hstate']
    exact stateOf_anti hanti
  · change stage'.natoReadinessScore.val ≤ stage.natoReadinessScore.val
    rw [hready, hready']
    exact roundDigits_mono 3 hanti
  · rw [hdepletion, hdepletion']
    refine List.forall₂_map_left_iff.mpr (List.forall₂_map_right_iff.mpr ?_)
    exact List.forall₂_same.mpr fun mineral _ =>
      ⟨rfl, depletion_mono hnonneg hday hpressure hcushion mineral⟩
  · rw [hloss, hloss']
    exact roundDigits_mono 2 (economicLoss_mono hnonneg hday hpressure hcushion)

theorem NoBetter.exhausted {first second : WargameStageResult} (h : NoBetter first second)
    (hfirst : Exhausted first) : Exhausted second := by
  obtain ⟨entry, hentry, hgone⟩ := hfirst
  obtain ⟨i, hi, rfl⟩ := List.mem_iff_getElem.mp hentry
  have hlength := h.depletion.length_eq
  have hworse := List.forall₂_iff_get.mp h.depletion
  exact ⟨_, List.getElem_mem (hlength ▸ hi), hgone.trans (hworse.2 i hi (hlength ▸ hi)).2⟩

theorem exhausted_iff {stage : WargameStageResult} (hnonneg : 0 ≤ day)
    (h : stageAt pressure cushion day = .ok stage) :
    Exhausted stage ↔ criticalExhausted pressure cushion day ≠ [] := by
  obtain ⟨found, hfound, -, -, -, hdepletion, -⟩ :=
    stageAt_ok pressure cushion hnonneg
  cases Except.ok.inj (h.symm.trans hfound)
  rw [Exhausted, hdepletion, criticalExhausted, ne_eq, List.filter_eq_nil_iff]
  simp

/-- The loop gives the stage of every day, and the first exhausted one where none was known. -/
theorem stageLoop_ok (pressure cushion : Score) (critDay : Option ℤ) (days : List ℤ)
    (hnonneg : ∀ day ∈ days, 0 ≤ day) :
    ∃ stages, stageLoop pressure cushion critDay days = .ok (stages,
        critDay.or ((stages.find? fun stage => decide (Exhausted stage)).map
          WargameStageResult.dayHorizon)) ∧
      List.Forall₂ (fun day stage => stageAt pressure cushion day = .ok stage) days stages := by
  induction days generalizing critDay with
  | nil => exact ⟨[], by rw [stageLoop, List.find?_nil, Option.map_none, Option.or_none], .nil⟩
  | cons day days ih =>
    rw [List.forall_mem_cons] at hnonneg
    obtain ⟨stage, hstage, hday, -⟩ :=
      stageAt_ok pressure cushion hnonneg.1
    have hexhausted := exhausted_iff hnonneg.1 hstage
    obtain ⟨stages, hloop, hstages⟩ := ih (if criticalExhausted pressure cushion day ≠ [] ∧
      critDay = none then some day else critDay) hnonneg.2
    refine ⟨stage :: stages, ?_, .cons hstage hstages⟩
    rw [stageLoop, hstage]
    simp only [bind, Except.bind, hloop, pure, Except.pure]
    congr 2
    by_cases hgone : Exhausted stage
    · rw [List.find?_cons_of_pos (p := fun stage => decide (Exhausted stage))
        (decide_eq_true hgone), Option.map_some, hday]
      cases critDay with
      | none => rw [if_pos ⟨hexhausted.mp hgone, rfl⟩, Option.some_or, Option.none_or]
      | some known => rw [if_neg fun h => Option.some_ne_none known h.2, Option.some_or,
          Option.some_or]
    · rw [List.find?_cons_of_neg (p := fun stage => decide (Exhausted stage))
        (by simpa using hgone), if_neg fun h => hgone (hexhausted.mpr h.1)]

end Loop

/-- The stages of some days, evaluated one by one. -/
def StagesOf (pressure cushion : Score) (days : List ℤ) (stages : List WargameStageResult) :
    Prop :=
  List.Forall₂ (fun day stage => stageAt pressure cushion day = .ok stage) days stages

def firstExhausted (stages : List WargameStageResult) : Option ℤ :=
  (stages.find? fun stage => decide (Exhausted stage)).map WargameStageResult.dayHorizon

section Stages
variable {pressure cushion : Score} {days : List ℤ} {stages : List WargameStageResult}

theorem StagesOf.mem (h : StagesOf pressure cushion days stages) :
    ∀ stage ∈ stages, ∃ day ∈ days, stageAt pressure cushion day = .ok stage := by
  induction h with
  | nil => exact List.forall_mem_nil _
  | @cons day stage days stages hstage _ ih =>
    refine List.forall_mem_cons.mpr ⟨⟨day, List.mem_cons_self, hstage⟩, fun other hmem => ?_⟩
    obtain ⟨day', hday', hother⟩ := ih other hmem
    exact ⟨day', List.mem_cons_of_mem day hday', hother⟩

theorem StagesOf.exists_mem (h : StagesOf pressure cushion days stages) :
    ∀ day ∈ days, ∃ stage ∈ stages, stageAt pressure cushion day = .ok stage := by
  induction h with
  | nil => exact List.forall_mem_nil _
  | @cons day stage days stages hstage _ ih =>
    refine List.forall_mem_cons.mpr ⟨⟨stage, List.mem_cons_self, hstage⟩, fun other hmem => ?_⟩
    obtain ⟨stage', hstage', hother⟩ := ih other hmem
    exact ⟨stage', List.mem_cons_of_mem stage hstage', hother⟩

theorem dayHorizon_eq {day : ℤ} {stage : WargameStageResult} (hnonneg : 0 ≤ day)
    (h : stageAt pressure cushion day = .ok stage) : stage.dayHorizon = day := by
  obtain ⟨found, hfound, hday, -⟩ := stageAt_ok pressure cushion hnonneg
  cases Except.ok.inj (h.symm.trans hfound)
  exact hday

theorem StagesOf.horizons (h : StagesOf pressure cushion days stages)
    (hnonneg : ∀ day ∈ days, 0 ≤ day) : stages.map WargameStageResult.dayHorizon = days := by
  induction h with
  | nil => rfl
  | cons hstage _ ih =>
    rw [List.forall_mem_cons] at hnonneg
    rw [List.map_cons, dayHorizon_eq hnonneg.1 hstage, ih hnonneg.2]

theorem StagesOf.pairwise (h : StagesOf pressure cushion days stages)
    (hnonneg : ∀ day ∈ days, 0 ≤ day) (hsorted : days.Pairwise (· ≤ ·)) :
    stages.Pairwise NoBetter := by
  induction h with
  | nil => exact List.Pairwise.nil
  | @cons day stage days stages hstage htail ih =>
    rw [List.forall_mem_cons] at hnonneg
    rw [List.pairwise_cons] at hsorted
    refine List.pairwise_cons.mpr ⟨fun other hmem => ?_, ih hnonneg.2 hsorted.2⟩
    obtain ⟨day', hday', hother⟩ := StagesOf.mem htail other hmem
    exact noBetter_of_le hstage hother hnonneg.1 (hsorted.1 day' hday') le_rfl le_rfl

theorem StagesOf.noBetter {pressure' cushion' : Score} {stages' : List WargameStageResult}
    (h : StagesOf pressure cushion days stages) (h' : StagesOf pressure' cushion' days stages')
    (hnonneg : ∀ day ∈ days, 0 ≤ day) (hpressure : pressure ≤ pressure')
    (hcushion : cushion' ≤ cushion) : List.Forall₂ NoBetter stages stages' := by
  induction h generalizing stages' with
  | nil =>
    cases h'
    exact .nil
  | cons hstage _ ih =>
    cases h' with
    | cons hstage' htail' =>
      rw [List.forall_mem_cons] at hnonneg
      exact .cons (noBetter_of_le hstage hstage' hnonneg.1 le_rfl hpressure hcushion)
        (ih htail' hnonneg.2)

/-- A stage shows an exhausted stockpile exactly from the first such day on. -/
theorem StagesOf.exhausted_iff (h : StagesOf pressure cushion days stages)
    (hnonneg : ∀ day ∈ days, 0 ≤ day) (hsorted : days.Pairwise (· ≤ ·))
    {stage : WargameStageResult} (hmem : stage ∈ stages) :
    Exhausted stage ↔ ∃ day ∈ firstExhausted stages, day ≤ stage.dayHorizon := by
  have hdays : stages.Pairwise fun a b => a.dayHorizon ≤ b.dayHorizon := by
    have hmap := hsorted
    rw [← h.horizons hnonneg] at hmap
    exact List.pairwise_map.mp hmap
  constructor
  · intro hgone
    cases hfind : stages.find? fun stage => decide (Exhausted stage) with
    | none =>
      have hnone := List.find?_eq_none.mp hfind stage hmem
      exact absurd hgone (by simpa using hnone)
    | some first =>
      obtain ⟨hfirst, before, after, rfl, hbefore⟩ := List.find?_eq_some_iff_append.mp hfind
      refine ⟨first.dayHorizon, by rw [firstExhausted, hfind]; rfl, ?_⟩
      rcases List.mem_append.mp hmem with hbad | hlater
      · exact absurd hgone (by simpa using hbefore stage hbad)
      · rcases List.mem_cons.mp hlater with rfl | hafter
        · exact le_rfl
        · exact (List.pairwise_cons.mp (List.pairwise_append.mp hdays).2.1).1 stage hafter
  · rintro ⟨day, hday, hle⟩
    obtain ⟨first, hfind, rfl⟩ := Option.map_eq_some_iff.mp hday
    have hfirst : Exhausted first := by simpa using List.find?_some hfind
    obtain ⟨d, hd, hstage⟩ := h.mem first (List.mem_of_find?_eq_some hfind)
    obtain ⟨d', hd', hstage'⟩ := h.mem stage hmem
    rw [dayHorizon_eq (hnonneg d hd) hstage, dayHorizon_eq (hnonneg d' hd') hstage'] at hle
    exact (noBetter_of_le hstage hstage' (hnonneg d hd) hle le_rfl le_rfl).exhausted hfirst

end Stages

/-- What a simulation over days from zero on gives. -/
structure Simulates (pressure cushion : Score) (horizons : List ℤ)
    (report : WargameSimulationReport) : Prop where
  stages : StagesOf pressure cushion (sortedBy id horizons) report.stages
  critical : report.criticalFailureDay = firstExhausted report.stages

theorem runSimulation_simulates (scenarioType : DisruptionScenarioType) (corridorId : String)
    (horizonsDays : Option (List ℤ)) (pressure cushion : Score)
    (hnonneg : ∀ day ∈ horizonsDays.getD defaultHorizons, 0 ≤ day) :
    ∃ report, runSimulation scenarioType corridorId horizonsDays pressure cushion = .ok report ∧
      Simulates pressure cushion (horizonsDays.getD defaultHorizons) report := by
  obtain ⟨stages, hloop, hstages⟩ := stageLoop_ok pressure cushion none
    (sortedBy id (horizonsDays.getD defaultHorizons))
    fun day hday => hnonneg day ((mem_sortedBy id _ day).mp hday)
  rw [Option.none_or] at hloop
  have hrun : runSimulation scenarioType corridorId horizonsDays pressure cushion = .ok
      { scenarioType := scenarioType
        targetCorridorId := corridorId
        testedHorizonsDays := horizonsDays.getD defaultHorizons
        stages := stages
        criticalFailureDay := firstExhausted stages
        executiveAssessment := executiveAssessment scenarioType corridorId pressure
          (firstExhausted stages) } := by
    rw [runSimulation, hloop]
    rfl
  exact ⟨_, hrun, hstages, rfl⟩

/-- Over days from zero on every simulation succeeds. Its stages are those of the horizons in
order, none better than one before it, and the readiness never falls below a tenth; a stage shows
an exhausted stockpile exactly from the critical day on; and under more pressure and with less
cushion no stage is better and the critical day comes no later. -/
theorem runSimulation_worsens (scenarioType : DisruptionScenarioType) (corridorId : String)
    (horizonsDays : Option (List ℤ)) (pressure cushion : Score)
    (hnonneg : ∀ day ∈ horizonsDays.getD defaultHorizons, 0 ≤ day) :
    ∃ report, runSimulation scenarioType corridorId horizonsDays pressure cushion = .ok report ∧
      report.stages.map WargameStageResult.dayHorizon =
        sortedBy id (horizonsDays.getD defaultHorizons) ∧
      report.stages.Pairwise NoBetter ∧
      (∀ stage ∈ report.stages, 1 / 10 ≤ stage.natoReadinessScore.val) ∧
      (∀ stage ∈ report.stages, Exhausted stage ↔
        ∃ day ∈ report.criticalFailureDay, day ≤ stage.dayHorizon) ∧
      ∀ pressure' cushion', pressure ≤ pressure' → cushion' ≤ cushion →
        ∃ report', runSimulation scenarioType corridorId horizonsDays pressure' cushion' =
            .ok report' ∧
          List.Forall₂ NoBetter report.stages report'.stages ∧
          ∀ day ∈ report.criticalFailureDay, ∃ day' ∈ report'.criticalFailureDay, day' ≤ day := by
  set horizons := horizonsDays.getD defaultHorizons with hhorizons
  have hdays : ∀ day ∈ sortedBy id horizons, 0 ≤ day :=
    fun day hday => hnonneg day ((mem_sortedBy id _ day).mp hday)
  have hsorted : (sortedBy id horizons).Pairwise (· ≤ ·) := pairwise_sortedBy id horizons
  obtain ⟨report, hreport, hsimulates⟩ := runSimulation_simulates scenarioType corridorId
    horizonsDays pressure cushion hnonneg
  rw [← hhorizons] at hsimulates
  refine ⟨report, hreport, hsimulates.stages.horizons hdays,
    hsimulates.stages.pairwise hdays hsorted, fun stage hmem => ?_, fun stage hmem => ?_,
    fun pressure' cushion' hpressure hcushion => ?_⟩
  · obtain ⟨day, hday, hstage⟩ := hsimulates.stages.mem stage hmem
    obtain ⟨found, hfound, -, -, hready, -⟩ :=
      stageAt_ok pressure cushion (hdays day hday)
    cases Except.ok.inj (hstage.symm.trans hfound)
    have htenth : roundDigits 3 (1 / 10) = 1 / 10 := by decide +kernel
    rw [hready, ← htenth]
    exact roundDigits_mono 3 (readiness_bounds pressure cushion (hdays day hday)).1
  · rw [hsimulates.critical]
    exact hsimulates.stages.exhausted_iff hdays hsorted hmem
  · obtain ⟨report', hreport', hsimulates'⟩ := runSimulation_simulates scenarioType corridorId
      horizonsDays pressure' cushion' hnonneg
    rw [← hhorizons] at hsimulates'
    refine ⟨report', hreport',
      hsimulates.stages.noBetter hsimulates'.stages hdays hpressure hcushion, fun day hday => ?_⟩
    rw [hsimulates.critical] at hday
    obtain ⟨first, hfind, rfl⟩ := Option.map_eq_some_iff.mp hday
    have hfirst : Exhausted first := by simpa using List.find?_some hfind
    obtain ⟨d, hd, hstage⟩ := hsimulates.stages.mem first (List.mem_of_find?_eq_some hfind)
    obtain ⟨stage', hmem', hstage'⟩ := hsimulates'.stages.exists_mem d hd
    have hgone := (noBetter_of_le hstage hstage' (hdays d hd) le_rfl hpressure hcushion).exhausted
      hfirst
    rw [hsimulates'.critical, dayHorizon_eq (hdays d hd) hstage,
      ← dayHorizon_eq (hdays d hd) hstage']
    exact (hsimulates'.stages.exhausted_iff hdays hsorted hmem').mp hgone

theorem runSimulation_worsens_sample : ∃ report,
    runSimulation .maritimeBlockade "ST-LAWRENCE-SEAWAY" none Score.half Score.half = .ok report ∧
      report.stages.map WargameStageResult.dayHorizon = sortedBy id defaultHorizons ∧
      report.stages.Pairwise NoBetter := by
  obtain ⟨report, hreport, hdays, hworse, -⟩ := runSimulation_worsens .maritimeBlockade
    "ST-LAWRENCE-SEAWAY" none Score.half Score.half (by decide)
  exact ⟨report, hreport, hdays, hworse⟩

end ContinuityOS.Wargame
