import ContinuityOS.Substitution.Model

/-! # The verdict on a route

Each section names a blocker exactly where its check fails, so the verdict is the worst status of
the checks. It improves with the candidate. The throughput of the alternative route is read by no
section, and a capacity that is no number neither fails nor degrades one.
-/
namespace ContinuityOS.Substitution
open Library

namespace FeasibilityStatus

/-- The worst of some statuses. -/
def worst (l : List FeasibilityStatus) : FeasibilityStatus := l.foldr min .pass

theorem fail_le (s : FeasibilityStatus) : fail ≤ s := by cases s <;> decide

theorem le_pass (s : FeasibilityStatus) : s ≤ pass := by cases s <;> decide

theorem pass_le_iff (s : FeasibilityStatus) : pass ≤ s ↔ s = pass := by cases s <;> decide

theorem le_worst_iff (s : FeasibilityStatus) (l : List FeasibilityStatus) :
    s ≤ worst l ↔ ∀ t ∈ l, s ≤ t := by
  induction l with
  | nil => exact iff_of_true (le_pass s) (by simp)
  | cons t l ih =>
    have hcons : worst (t :: l) = min t (worst l) := rfl
    rw [hcons, le_min_iff, ih, List.forall_mem_cons]

theorem worst_le_of_mem {s : FeasibilityStatus} {l : List FeasibilityStatus} (h : s ∈ l) :
    worst l ≤ s := (le_worst_iff (worst l) l).mp le_rfl s h

theorem worst_mem (l : List FeasibilityStatus) : worst l = pass ∨ worst l ∈ l := by
  induction l with
  | nil => exact Or.inl rfl
  | cons t l ih =>
    have hcons : worst (t :: l) = min t (worst l) := rfl
    rw [hcons]
    rcases min_choice t (worst l) with hmin | hmin
    · exact Or.inr (by simp [hmin])
    · rw [hmin]
      exact ih.imp_right (List.mem_cons_of_mem t)

theorem worst_eq_fail_iff (l : List FeasibilityStatus) : worst l = fail ↔ fail ∈ l := by
  constructor
  · intro h
    rcases worst_mem l with hpass | hmem
    · rw [h] at hpass
      cases hpass
    · rwa [h] at hmem
  · exact fun h => le_antisymm (worst_le_of_mem h) (fail_le _)

theorem worst_eq_pass_iff (l : List FeasibilityStatus) : worst l = pass ↔ ∀ s ∈ l, s = pass := by
  rw [← pass_le_iff, le_worst_iff]
  exact forall₂_congr fun s _ => pass_le_iff s

theorem worst_mono {l m : List FeasibilityStatus} (h : List.Forall₂ (· ≤ ·) l m) :
    worst l ≤ worst m := by
  induction h with
  | nil => exact le_rfl
  | cons hst _ ih => exact min_le_min hst ih

end FeasibilityStatus

open FeasibilityStatus

namespace Assessed

/-- The blockers and the status of a section agree. -/
def InStep (a : Assessed) : Prop := a.blockers ≠ [] ↔ a.check.status = .fail

end Assessed

section Sections
variable {holds : Bool} {checkName dimension blocker failing passing : String} {score : Score}

@[simp] theorem required_status :
    (required holds checkName dimension blocker failing passing).check.status =
      if holds then .pass else .fail := by
  cases holds <;> rfl

@[simp] theorem desired_status :
    (desired holds checkName dimension score failing passing).check.status =
      if holds then .pass else .degraded := by
  cases holds <;> rfl

theorem required_inStep : (required holds checkName dimension blocker failing passing).InStep := by
  cases holds <;> simp [Assessed.InStep, required]

theorem desired_inStep : (desired holds checkName dimension score failing passing).InStep := by
  cases holds <;> simp [Assessed.InStep, desired]

end Sections

/-- A status of two values improves with its condition. -/
theorem status_mono {worse better : FeasibilityStatus} {p q : Bool} (hle : worse ≤ better)
    (h : p = true → q = true) : (if p then better else worse) ≤ if q then better else worse := by
  cases p with
  | false => cases q <;> simp [hle]
  | true => simp [h rfl]

/-- A status of three values improves with its two conditions. -/
theorem threshold_mono {p q p' q' : Bool} (hfail : p' = true → p = true)
    (hdegraded : q' = true → q = true) :
    (if p then fail else if q then degraded else pass) ≤
      if p' then fail else if q' then degraded else pass := by
  cases p <;> cases p' <;> cases q <;> cases q' <;> first | decide | simp_all

namespace RouteSubstitutionCandidate

theorem portHandlingCapacity_status (c : RouteSubstitutionCandidate) :
    c.portHandlingCapacity.check.status =
      if c.portHandlingCapacityTonsDay.le (.finite 0) then .fail
      else if c.portHandlingCapacityTonsDay.lt (c.quantityTons.div 5) then .degraded
      else .pass := by
  unfold portHandlingCapacity
  split_ifs <;> rfl

theorem inlandRailCapacity_status (c : RouteSubstitutionCandidate) :
    c.inlandRailCapacity.check.status =
      if c.inlandRailCapacityRatio.le (.finite (2 / 10)) then .fail
      else if c.inlandRailCapacityRatio.lt (.finite (7 / 10)) then .degraded
      else .pass := by
  unfold inlandRailCapacity
  split_ifs <;> rfl

theorem portHandlingCapacity_inStep (c : RouteSubstitutionCandidate) :
    c.portHandlingCapacity.InStep := by
  unfold Assessed.InStep portHandlingCapacity
  split_ifs <;> simp

theorem inlandRailCapacity_inStep (c : RouteSubstitutionCandidate) :
    c.inlandRailCapacity.InStep := by
  unfold Assessed.InStep inlandRailCapacity
  split_ifs <;> simp

theorem assessed_inStep (c : RouteSubstitutionCandidate) : ∀ a ∈ c.assessed, a.InStep := by
  simp only [assessed, List.forall_mem_cons]
  exact ⟨required_inStep, required_inStep, required_inStep, c.portHandlingCapacity_inStep,
    c.inlandRailCapacity_inStep, desired_inStep, desired_inStep, required_inStep, desired_inStep,
    required_inStep, required_inStep, by simp⟩

/-- The statuses of the checks. -/
def statuses (c : RouteSubstitutionCandidate) : List FeasibilityStatus :=
  c.checks.map RouteFeasibilityCheck.status

theorem mem_statuses (c : RouteSubstitutionCandidate) (s : FeasibilityStatus) :
    s ∈ c.statuses ↔ ∃ check ∈ c.checks, check.status = s := List.mem_map

/-- The statuses of the checks by what they read. -/
theorem statuses_eq (c : RouteSubstitutionCandidate) :
    c.statuses = [if c.geoViable then .pass else .fail,
      if c.carrierAvailable then .pass else .fail, if c.insuranceAvailable then .pass else .fail,
      c.portHandlingCapacity.check.status, c.inlandRailCapacity.check.status,
      if c.communicationsHealthy then .pass else .degraded,
      if c.navigationHealthy then .pass else .degraded,
      if c.fuelBunkeringAvailable then .pass else .fail,
      if c.storageCapacityAvailable then .pass else .degraded,
      if c.supplierAvailable then .pass else .fail,
      if c.arrivalBeforeDeadline then .pass else .fail] := by
  simp only [statuses, checks, assessed, List.map_cons, List.map_nil, iceClassCompatibility,
    carrierAvailability, insuranceUnderwriting, communicationsIntegrity, navigationIntegrity,
    fuelBunkeringAvailability, storageCapacity, supplierAvailability, inventoryArrivalDeadline,
    required_status, desired_status]

theorem blockers_ne_nil_iff (c : RouteSubstitutionCandidate) :
    c.blockers ≠ [] ↔ .fail ∈ c.statuses := by
  have hstep := c.assessed_inStep
  simp only [blockers, ne_eq, List.flatMap_eq_nil_iff, not_forall, statuses, checks, List.map_map,
    List.mem_map, Function.comp_apply]
  constructor
  · rintro ⟨a, ha, hblocked⟩
    exact ⟨a, ha, (hstep a ha).mp hblocked⟩
  · rintro ⟨a, ha, hfail⟩
    exact ⟨a, ha, (hstep a ha).mpr hfail⟩

/-- What else fails the verdict is a failing check too. -/
theorem fail_mem_statuses (c : RouteSubstitutionCandidate)
    (h : c.geoViable = false ∨ c.commViable = false ∨ c.arrivalBeforeDeadline = false ∨
      c.portHandlingCapacity.check.status = .fail ∨ c.inlandRailCapacity.check.status = .fail) :
    .fail ∈ c.statuses := by
  rw [mem_statuses]
  simp only [checks, assessed, List.map_cons, List.map_nil, List.exists_mem_cons_iff,
    List.not_mem_nil, false_and, exists_false, or_false]
  rcases h with hgeo | hcomm | harrival | hport | hrail
  · simp [iceClassCompatibility, hgeo]
  · rcases Bool.and_eq_false_iff.mp hcomm with hcarrier | hinsurance
    · simp [carrierAvailability, hcarrier]
    · simp [insuranceUnderwriting, hinsurance]
  · simp [inventoryArrivalDeadline, harrival]
  · simp [hport]
  · simp [hrail]

/-- The verdict is the worst status of the checks. -/
theorem effectiveSubstitution_eq_worst (c : RouteSubstitutionCandidate) :
    c.effectiveSubstitution = worst c.statuses := by
  have hport : c.portHandlingCapacity.check.status ∈ c.statuses := by simp [statuses, checks, assessed]
  have hrail : c.inlandRailCapacity.check.status ∈ c.statuses := by simp [statuses, checks, assessed]
  unfold effectiveSubstitution
  simp only [← mem_statuses]
  split_ifs with hfail hdegraded
  · have hmem : .fail ∈ c.statuses := hfail.elim c.blockers_ne_nil_iff.mp c.fail_mem_statuses
    exact ((worst_eq_fail_iff _).mpr hmem).symm
  · have hnone : .fail ∉ c.statuses := fun hmem =>
      hfail (Or.inl (c.blockers_ne_nil_iff.mpr hmem))
    have hmem : .degraded ∈ c.statuses := by
      rcases hdegraded with heq | heq | hmem
      · exact heq ▸ hport
      · exact heq ▸ hrail
      · exact hmem
    have hle := worst_le_of_mem hmem
    have hne : worst c.statuses ≠ .fail := fun h => hnone ((worst_eq_fail_iff _).mp h)
    cases hworst : worst c.statuses with
    | fail => exact absurd hworst hne
    | degraded => rfl
    | pass =>
      rw [hworst] at hle
      exact absurd hle (by decide)
  · refine ((worst_eq_pass_iff _).mpr fun s hs => ?_).symm
    cases s with
    | fail => exact absurd (Or.inl (c.blockers_ne_nil_iff.mpr hs)) hfail
    | degraded => exact absurd (Or.inr (Or.inr hs)) hdegraded
    | pass => rfl

/-- The second candidate is at least as good in everything and asks for no more. -/
structure AtLeastAsGood (c d : RouteSubstitutionCandidate) : Prop where
  quantityTons : d.quantityTons.le c.quantityTons = true
  exhaustionDays : c.criticalInventoryExhaustionDays ≤ d.criticalInventoryExhaustionDays
  transitDays : d.alternativeTransitDays ≤ c.alternativeTransitDays
  railDays : d.inlandRailDays ≤ c.inlandRailDays
  routeCapacity :
    c.alternativeRouteCapacityTonsDay.le d.alternativeRouteCapacityTonsDay = true
  portCapacity : c.portHandlingCapacityTonsDay.le d.portHandlingCapacityTonsDay = true
  railRatio : c.inlandRailCapacityRatio.le d.inlandRailCapacityRatio = true
  vesselIceClass : c.vesselIceClass = true → d.vesselIceClass = true
  requiresIceClass : d.routeRequiresIceClass = true → c.routeRequiresIceClass = true
  carrier : c.carrierAvailable = true → d.carrierAvailable = true
  insurance : c.insuranceAvailable = true → d.insuranceAvailable = true
  communications : c.communicationsHealthy = true → d.communicationsHealthy = true
  navigation : c.navigationHealthy = true → d.navigationHealthy = true
  fuel : c.fuelBunkeringAvailable = true → d.fuelBunkeringAvailable = true
  storage : c.storageCapacityAvailable = true → d.storageCapacityAvailable = true
  supplier : c.supplierAvailable = true → d.supplierAvailable = true

section Better
variable {c d : RouteSubstitutionCandidate} (h : AtLeastAsGood c d)
include h

theorem AtLeastAsGood.geoViable (hc : c.geoViable = true) : d.geoViable = true := by
  simp only [RouteSubstitutionCandidate.geoViable, Bool.not_eq_true', Bool.and_eq_false_iff,
    Bool.not_eq_false'] at hc ⊢
  rcases hc with hopen | hclass
  · refine Or.inl (Bool.eq_false_iff.mpr fun hrequires => ?_)
    rw [h.requiresIceClass hrequires] at hopen
    cases hopen
  · exact Or.inr (h.vesselIceClass hclass)

theorem AtLeastAsGood.arrival (hc : c.arrivalBeforeDeadline = true) :
    d.arrivalBeforeDeadline = true := by
  have hintime : c.totalTransitDays ≤ c.criticalInventoryExhaustionDays := of_decide_eq_true hc
  have hdays : d.totalTransitDays ≤ c.totalTransitDays := add_le_add h.transitDays h.railDays
  exact decide_eq_true ((hdays.trans hintime).trans h.exhaustionDays)

theorem AtLeastAsGood.portStatus :
    c.portHandlingCapacity.check.status ≤ d.portHandlingCapacity.check.status := by
  have hclosed : d.portHandlingCapacityTonsDay.le (.finite 0) = true →
      c.portHandlingCapacityTonsDay.le (.finite 0) = true := FloatNumber.le_trans h.portCapacity
  have hshort : d.portHandlingCapacityTonsDay.lt (d.quantityTons.div 5) = true →
      c.portHandlingCapacityTonsDay.lt (c.quantityTons.div 5) = true := fun hlt =>
    FloatNumber.lt_of_lt_of_le (FloatNumber.lt_of_le_of_lt h.portCapacity hlt)
      (FloatNumber.div_le_div (by norm_num) h.quantityTons)
  rw [portHandlingCapacity_status, portHandlingCapacity_status]
  exact threshold_mono hclosed hshort

theorem AtLeastAsGood.railStatus :
    c.inlandRailCapacity.check.status ≤ d.inlandRailCapacity.check.status := by
  rw [inlandRailCapacity_status, inlandRailCapacity_status]
  exact threshold_mono (FloatNumber.le_trans h.railRatio) (FloatNumber.lt_of_le_of_lt h.railRatio)

theorem AtLeastAsGood.statuses : List.Forall₂ (· ≤ ·) c.statuses d.statuses := by
  have hfail : FeasibilityStatus.fail ≤ .pass := fail_le _
  have hdegraded : FeasibilityStatus.degraded ≤ .pass := le_pass _
  simp only [statuses_eq, List.forall₂_cons, List.forall₂_nil_left_iff]
  exact ⟨status_mono hfail h.geoViable, status_mono hfail h.carrier, status_mono hfail h.insurance,
    h.portStatus, h.railStatus, status_mono hdegraded h.communications,
    status_mono hdegraded h.navigation, status_mono hfail h.fuel, status_mono hdegraded h.storage,
    status_mono hfail h.supplier, status_mono hfail h.arrival, trivial⟩

end Better

/-- The verdict of a candidate that is at least as good is at least as good. -/
theorem effectiveSubstitution_mono {c d : RouteSubstitutionCandidate} (h : AtLeastAsGood c d) :
    c.effectiveSubstitution ≤ d.effectiveSubstitution := by
  rw [effectiveSubstitution_eq_worst, effectiveSubstitution_eq_worst]
  exact worst_mono h.statuses

end RouteSubstitutionCandidate

open RouteSubstitutionCandidate

/-- The verdict fails exactly with a failing check and exactly with a blocker, passes exactly where
every check passes, and improves with the candidate. -/
theorem compileRouteSubstitution_consistent (evaluationId : String)
    (c : RouteSubstitutionCandidate) :
    let e := compileRouteSubstitution evaluationId c
    (e.effectiveSubstitution = .fail ↔ ∃ check ∈ e.feasibilityChecks, check.status = .fail) ∧
      ((∃ check ∈ e.feasibilityChecks, check.status = .fail) ↔ e.failureReasons ≠ []) ∧
      (e.effectiveSubstitution = .pass ↔ ∀ check ∈ e.feasibilityChecks, check.status = .pass) ∧
      ∀ evaluationId' d, AtLeastAsGood c d →
        e.effectiveSubstitution ≤ (compileRouteSubstitution evaluationId' d).effectiveSubstitution := by
  have hworst := c.effectiveSubstitution_eq_worst
  have hfail := c.mem_statuses .fail
  have hpass : (∀ s ∈ c.statuses, s = .pass) ↔ ∀ check ∈ c.checks, check.status = .pass := by
    rw [statuses, List.forall_mem_map]
  refine ⟨?_, hfail.symm.trans c.blockers_ne_nil_iff.symm, ?_,
    fun _ d h => effectiveSubstitution_mono h⟩
  · rw [← worst_eq_fail_iff, ← hworst] at hfail
    exact hfail
  · rw [← worst_eq_pass_iff, ← hworst] at hpass
    exact hpass

def sampleCandidate : RouteSubstitutionCandidate where
  primaryRouteId := "suez"
  alternativeRouteId := "cape"

theorem compileRouteSubstitution_consistent_sample :
    (compileRouteSubstitution "e1" { sampleCandidate with navigationHealthy := false }
        ).effectiveSubstitution ≤
      (compileRouteSubstitution "e2" sampleCandidate).effectiveSubstitution :=
  (compileRouteSubstitution_consistent "e1" { sampleCandidate with navigationHealthy := false }
      ).2.2.2 "e2" sampleCandidate
    ⟨by decide +kernel, le_rfl, le_rfl, le_rfl, by decide +kernel, by decide +kernel,
      by decide +kernel, id, id, id, id, id, fun _ => rfl, id,
      id, id⟩

section Throughput

/-- Nothing that the compiler documents is failing or degraded. -/
structure Unimpaired (c : RouteSubstitutionCandidate) : Prop where
  supplier : c.supplierAvailable = true
  iceClass : c.routeRequiresIceClass = true → c.vesselIceClass = true
  throughput : FloatNumber.lt (.finite 0) c.alternativeRouteCapacityTonsDay = true
  port : FloatNumber.lt (.finite 0) c.portHandlingCapacityTonsDay = true ∧
    (c.quantityTons.div 5).le c.portHandlingCapacityTonsDay = true
  rail : FloatNumber.le (.finite (7 / 10)) c.inlandRailCapacityRatio = true
  communications : c.communicationsHealthy = true
  navigation : c.navigationHealthy = true
  fuel : c.fuelBunkeringAvailable = true
  storage : c.storageCapacityAvailable = true
  carrier : c.carrierAvailable = true
  insurance : c.insuranceAvailable = true
  deadline : c.alternativeTransitDays + c.inlandRailDays ≤ c.criticalInventoryExhaustionDays

/-- A verdict other than a failure needs throughput, and a pass needs every dimension. -/
structure Gated (evaluationId : String) (c : RouteSubstitutionCandidate) : Prop where
  throughput : (compileRouteSubstitution evaluationId c).effectiveSubstitution = .pass ∨
    (compileRouteSubstitution evaluationId c).effectiveSubstitution = .degraded →
      FloatNumber.lt (.finite 0) c.alternativeRouteCapacityTonsDay = true
  unimpaired : (compileRouteSubstitution evaluationId c).effectiveSubstitution = .pass →
    Unimpaired c

/-- One of the conditions that block the route. -/
def Blocked (c : RouteSubstitutionCandidate) : Prop :=
  (c.routeRequiresIceClass = true ∧ c.vesselIceClass = false) ∨ c.carrierAvailable = false ∨
    c.insuranceAvailable = false ∨ c.portHandlingCapacityTonsDay.le (.finite 0) = true ∨
    c.inlandRailCapacityRatio.le (.finite (2 / 10)) = true ∨ c.fuelBunkeringAvailable = false ∨
    c.supplierAvailable = false ∨
    c.criticalInventoryExhaustionDays < c.alternativeTransitDays + c.inlandRailDays

/-- One of the conditions that degrade the route. -/
def Strained (c : RouteSubstitutionCandidate) : Prop :=
  c.portHandlingCapacityTonsDay.lt (c.quantityTons.div 5) = true ∨
    c.inlandRailCapacityRatio.lt (.finite (7 / 10)) = true ∨ c.communicationsHealthy = false ∨
    c.navigationHealthy = false ∨ c.storageCapacityAvailable = false

/-- What the two capacity sections compare are numbers. -/
def ComparesNumbers (c : RouteSubstitutionCandidate) : Prop :=
  c.portHandlingCapacityTonsDay ≠ .nan ∧ c.quantityTons ≠ .nan ∧ c.inlandRailCapacityRatio ≠ .nan

theorem geoViable_eq_false_iff (c : RouteSubstitutionCandidate) :
    c.geoViable = false ↔ c.routeRequiresIceClass = true ∧ c.vesselIceClass = false := by
  simp [geoViable]

theorem arrivalBeforeDeadline_eq_false_iff (c : RouteSubstitutionCandidate) :
    c.arrivalBeforeDeadline = false ↔
      c.criticalInventoryExhaustionDays < c.alternativeTransitDays + c.inlandRailDays :=
  decide_eq_false_iff_not.trans not_le

section Threshold
variable {p q : Bool}

theorem threshold_eq_fail_iff :
    (if p then fail else if q then degraded else pass) = fail ↔ p = true := by
  cases p <;> cases q <;> decide

theorem threshold_eq_pass_iff :
    (if p then fail else if q then degraded else pass) = pass ↔ p = false ∧ q = false := by
  cases p <;> cases q <;> decide

end Threshold

theorem effectiveSubstitution_eq_fail_iff (c : RouteSubstitutionCandidate) :
    c.effectiveSubstitution = .fail ↔ Blocked c := by
  have hrequired : ∀ b : Bool, .fail = (if b then FeasibilityStatus.pass else .fail) ↔ b = false := by
    decide
  have hdesired : ∀ b : Bool, .fail ≠ if b then FeasibilityStatus.pass else .degraded := by decide
  have hport := portHandlingCapacity_status c ▸ threshold_eq_fail_iff
  have hrail := inlandRailCapacity_status c ▸ threshold_eq_fail_iff
  rw [c.effectiveSubstitution_eq_worst, worst_eq_fail_iff, statuses_eq, Blocked,
    ← geoViable_eq_false_iff, ← hport, ← hrail, ← arrivalBeforeDeadline_eq_false_iff]
  simp only [List.mem_cons, List.not_mem_nil, hrequired, hdesired, false_or, or_false,
    eq_comm (a := FeasibilityStatus.fail)]

/-- The verdict passes exactly where nothing blocks or degrades the route. -/
theorem effectiveSubstitution_eq_pass_iff (c : RouteSubstitutionCandidate) :
    c.effectiveSubstitution = .pass ↔ ¬ Blocked c ∧ ¬ Strained c := by
  have hrequired : ∀ b : Bool, (if b then FeasibilityStatus.pass else .fail) = .pass ↔ b = true := by
    decide
  have hdesired : ∀ b : Bool,
      (if b then FeasibilityStatus.pass else .degraded) = .pass ↔ b = true := by
    decide
  rw [c.effectiveSubstitution_eq_worst, worst_eq_pass_iff, statuses_eq, Blocked, Strained,
    ← geoViable_eq_false_iff, ← arrivalBeforeDeadline_eq_false_iff]
  simp only [List.forall_mem_cons, hrequired, hdesired, portHandlingCapacity_status,
    inlandRailCapacity_status, threshold_eq_pass_iff, not_or, Bool.not_eq_false,
    Bool.not_eq_true]
  tauto

/-- A route that nothing blocks or degrades is unimpaired exactly with some throughput, and where
what is compared are numbers. -/
theorem unimpaired_iff_of_not {c : RouteSubstitutionCandidate} (hblocked : ¬ Blocked c)
    (hstrained : ¬ Strained c) : Unimpaired c ↔
      FloatNumber.lt (.finite 0) c.alternativeRouteCapacityTonsDay = true ∧ ComparesNumbers c := by
  simp only [Blocked, Strained, not_or, Bool.not_eq_false, Bool.not_eq_true, not_and,
    not_lt] at hblocked hstrained
  obtain ⟨hice, hcarrier, hinsurance, hclosed, -, hfuel, hsupplier, hdeadline⟩ := hblocked
  obtain ⟨hshort, hslow, hcommunications, hnavigation, hstorage⟩ := hstrained
  constructor
  · intro h
    obtain ⟨-, hquantity, hport⟩ := (FloatNumber.le_iff _ _).mp h.port.2
    obtain ⟨-, -, hrail⟩ := (FloatNumber.le_iff _ _).mp h.rail
    exact ⟨h.throughput, hport, fun hnan => hquantity ((FloatNumber.div_eq_nan_iff _ _).mpr hnan),
      hrail⟩
  · rintro ⟨hthroughput, hport, hquantity, hrail⟩
    have hquantity : c.quantityTons.div 5 ≠ .nan := fun hnan =>
      hquantity ((FloatNumber.div_eq_nan_iff _ _).mp hnan)
    exact ⟨hsupplier, hice, hthroughput,
      ⟨(FloatNumber.positive_iff _).mpr ⟨hclosed, hport⟩,
        FloatNumber.le_of_not_lt hquantity hport hshort⟩,
      FloatNumber.le_of_not_lt (by simp) hrail hslow, hcommunications, hnavigation, hfuel, hstorage,
      hcarrier, hinsurance, hdeadline⟩

/-- Throughput gates the verdict exactly where the route is blocked for another reason, or has some
throughput and is degraded or compares numbers. -/
theorem gated_iff (evaluationId : String) (c : RouteSubstitutionCandidate) :
    Gated evaluationId c ↔ Blocked c ∨
      FloatNumber.lt (.finite 0) c.alternativeRouteCapacityTonsDay = true ∧
        (Strained c ∨ ComparesNumbers c) := by
  have hverdict : (compileRouteSubstitution evaluationId c).effectiveSubstitution =
      c.effectiveSubstitution := rfl
  by_cases hblocked : Blocked c
  · have hfail := (effectiveSubstitution_eq_fail_iff c).mpr hblocked
    refine iff_of_true ⟨?_, ?_⟩ (Or.inl hblocked)
    · rw [hverdict, hfail]
      rintro (h | h) <;> cases h
    · rw [hverdict, hfail]
      rintro ⟨⟩
  · have hopen : c.effectiveSubstitution = .pass ∨ c.effectiveSubstitution = .degraded := by
      cases heffective : c.effectiveSubstitution with
      | fail => exact absurd ((effectiveSubstitution_eq_fail_iff c).mp heffective) hblocked
      | degraded => exact Or.inr rfl
      | pass => exact Or.inl rfl
    have hpass := effectiveSubstitution_eq_pass_iff c
    constructor
    · intro h
      refine Or.inr ⟨h.throughput hopen, ?_⟩
      by_cases hstrained : Strained c
      · exact Or.inl hstrained
      · exact Or.inr ((unimpaired_iff_of_not hblocked hstrained).mp
          (h.unimpaired (hpass.mpr ⟨hblocked, hstrained⟩))).2
    · rintro (hblocked' | ⟨hthroughput, hrest⟩)
      · exact absurd hblocked' hblocked
      · refine ⟨fun _ => hthroughput, fun heffective => ?_⟩
        have hstrained := (hpass.mp heffective).2
        exact (unimpaired_iff_of_not hblocked hstrained).mpr
          ⟨hthroughput, hrest.resolve_left hstrained⟩

/-- A route that carries nothing a day passes. -/
theorem not_gated_closed_route :
    ¬ ∀ evaluationId c, Gated evaluationId c := by
  intro h
  have hgated := h "e1" { sampleCandidate with alternativeRouteCapacityTonsDay := .finite 0 }
  have hpositive := hgated.throughput (Or.inl (by decide +kernel))
  exact absurd hpositive (by decide +kernel)

end Throughput

end ContinuityOS.Substitution
