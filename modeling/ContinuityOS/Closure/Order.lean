import ContinuityOS.Closure.Layers
import ContinuityOS.Library.DecisionList

/-! # Order and completeness of the effective state

The derivation tests the trust layer for `degraded` but, on its own, never for
`unavailable`. A trust layer that is unavailable while every other layer is
nominal therefore falls through to `opened`. Everywhere else the effective state
never improves when the inputs worsen, and it shows every reason code.
-/
namespace ContinuityOS.Closure
open Library

/-- The states in the order in which the derivation returns them. -/
def decisionOrder : List CorridorState :=
  [.physicallyClosed, .functionallyClosed, .openButUninsurable, .openButNoCarrierCapacity,
    .openButNavigationUntrusted, .openButCommunicationsDegraded, .openButServiceDependent,
    .recoveryBacklogged, .openCapacityConstrained, .openDegraded, .opened]

def place (s : CorridorState) : ℕ := decisionOrder.idxOf s

/-- The tests of the derivation, as tests on the inputs. -/
def firings (inp : ClosureInput) : List Bool :=
  [!inp.physicallyAccessible,
    !inp.navigationAvailable || !inp.communicationsAvailable ||
      decide (Uninsurable inp ∧ NoCarrier inp ∧ TrustUnavailable inp),
    decide (Uninsurable inp),
    decide (NoCarrier inp),
    decide (inp.navigationTrust.val < 5 / 10),
    decide (inp.communicationsTrust.val < 5 / 10),
    inp.escortDependent && !inp.escortAvailable,
    inp.recoveryBacklogActive,
    decide (inp.physicalCapacityRatio.val ≤ 2 / 10),
    decide (OperationalReason inp ∨ inp.commercialViability.val ≤ 2 / 10 ∨
      (¬ TrustUnavailable inp ∧ TrustReason inp))]

/-- The second input is no better than the first in any respect. -/
structure Worsened (a b : ClosureInput) : Prop where
  physicallyAccessible : a.physicallyAccessible = false → b.physicallyAccessible = false
  physicalCapacityRatio : b.physicalCapacityRatio.val ≤ a.physicalCapacityRatio.val
  navigationAvailable : a.navigationAvailable = false → b.navigationAvailable = false
  navigationTrust : b.navigationTrust.val ≤ a.navigationTrust.val
  communicationsAvailable : a.communicationsAvailable = false → b.communicationsAvailable = false
  communicationsTrust : b.communicationsTrust.val ≤ a.communicationsTrust.val
  escortAvailable : a.escortAvailable = false → b.escortAvailable = false
  escortDependent : a.escortDependent = true → b.escortDependent = true
  weatherSafe : a.weatherSafe = false → b.weatherSafe = false
  insuranceAvailable : a.insuranceAvailable = false → b.insuranceAvailable = false
  insuranceCoverage : b.insuranceCoverage.val ≤ a.insuranceCoverage.val
  carrierCapacityAvailable :
    a.carrierCapacityAvailable = false → b.carrierCapacityAvailable = false
  carrierCapacityRatio : b.carrierCapacityRatio.val ≤ a.carrierCapacityRatio.val
  commercialViability : b.commercialViability.val ≤ a.commercialViability.val
  dataIntegrity : b.dataIntegrity.val ≤ a.dataIntegrity.val
  observationConfidence : b.observationConfidence.val ≤ a.observationConfidence.val
  sourceDiversity : b.sourceDiversity ≤ a.sourceDiversity
  recoveryBacklogActive : a.recoveryBacklogActive = true → b.recoveryBacklogActive = true

theorem effectiveState_eq (inp : ClosureInput) :
    (assessClosure inp).effectiveState =
      decisionOrder.getD (firstTrue (firings inp)) .opened := by
  simp only [assessClosure, deriveEffectiveState, physical_unavailable_iff,
    operational_unavailable_iff, commercial_unavailable_iff, trust_unavailable_iff,
    commercial_reasonCodes, operational_reasonCodes, mem_commercialReasons_uninsurable,
    mem_commercialReasons_noCarrier, mem_operationalReasons_navigation,
    mem_operationalReasons_communications, mem_operationalReasons_service,
    mem_recovery_reasons, Option.any_some, physical_degraded_iff, operational_degraded_iff,
    commercial_degraded_iff, trust_degraded_iff, recovery_degraded_iff,
    if_neg (trust_not_unknown inp), decide_eq_true_eq]
  simp only [firings, decisionOrder, getD_firstTrue_cons, Bool.or_eq_true, Bool.and_eq_true,
    Bool.not_eq_true', decide_eq_true_eq]
  refine ite_congr rfl (fun _ => rfl) fun h0 => ?_
  refine ite_congr (by simp only [and_assoc, or_assoc]) (fun _ => rfl) fun h1 => ?_
  refine ite_congr rfl (fun _ => rfl) fun h2 => ?_
  refine ite_congr rfl (fun _ => rfl) fun h3 => ?_
  refine ite_congr rfl (fun _ => rfl) fun _ => ?_
  refine ite_congr rfl (fun _ => rfl) fun _ => ?_
  refine ite_congr rfl (fun _ => rfl) fun _ => ?_
  refine ite_congr rfl (fun _ => rfl) fun h7 => ?_
  refine ite_congr (by simp [h0]) (fun _ => rfl) fun _ => ?_
  refine ite_congr ?_ (fun _ => rfl) fun _ => rfl
  simp only [not_or, Bool.not_eq_false] at h1
  simp [h1, h2, h3, h7]

theorem place_effectiveState (inp : ClosureInput) :
    place (assessClosure inp).effectiveState = firstTrue (firings inp) := by
  have hplace : ∀ i : Fin 11, place (decisionOrder.getD i .opened) = i := by decide
  have hlen : firstTrue (firings inp) ≤ 10 := firstTrue_le_length (firings inp)
  rw [effectiveState_eq]
  exact hplace ⟨firstTrue (firings inp), by omega⟩

theorem opened_iff_no_firing (inp : ClosureInput) :
    (assessClosure inp).effectiveState = .opened ↔
      firstTrue (firings inp) = (firings inp).length := by
  have hget : ∀ i : Fin 11, decisionOrder.getD i .opened = .opened ↔ (i : ℕ) = 10 := by decide
  have hlen : firstTrue (firings inp) ≤ 10 := firstTrue_le_length (firings inp)
  rw [effectiveState_eq]
  exact hget ⟨firstTrue (firings inp), by omega⟩

theorem opened_iff (inp : ClosureInput) :
    (assessClosure inp).effectiveState = .opened ↔
      OthersNominal inp ∧ (TrustUnavailable inp ∨ ¬ TrustReason inp) := by
  rw [opened_iff_no_firing, firstTrue_eq_length_iff]
  simp only [firings, List.forall_mem_cons, List.not_mem_nil, false_implies, implies_true,
    Bool.or_eq_false_iff, Bool.not_eq_false', decide_eq_false_iff_not, OthersNominal]
  constructor
  · rintro ⟨hphys, ⟨⟨hnav, hcom⟩, -⟩, hu, hn, -, -, -, hrec, hcap, hdeg, -⟩
    simp only [not_or, not_le, not_and] at hcap hdeg
    exact ⟨⟨hphys, hcap, hnav, hcom, hdeg.1, hu, hn, hdeg.2.1, hrec⟩,
      or_iff_not_imp_left.mpr hdeg.2.2⟩
  · rintro ⟨⟨hphys, hcap, hnav, hcom, hop, hu, hn, hvia, hrec⟩, htrust⟩
    have hops := hop
    simp only [OperationalReason, not_or, Bool.not_eq_false] at hops
    refine ⟨hphys, ⟨⟨hnav, hcom⟩, fun h => hu h.1⟩, hu, hn, hops.1, hops.2.1, ?_, hrec,
      not_le.mpr hcap, ?_, trivial⟩
    · simp [hops.2.2.1]
    · rintro (h | h | h)
      · exact hop h
      · exact absurd h (not_le.mpr hvia)
      · exact htrust.elim h.1 (fun hr => hr h.2)

theorem reasonCodes_eq_nil_iff (inp : ClosureInput) :
    (assessClosure inp).reasonCodes = [] ↔ OthersNominal inp ∧ ¬ TrustReason inp := by
  simp only [assessClosure, List.append_eq_nil_iff, physical_reasons_iff, operational_reasonCodes,
    operationalReasons_eq_nil, commercial_reasonCodes, commercialReasons_eq_nil,
    trust_reasonCodes, trustReasons_eq_nil, recovery_reasons_iff, OthersNominal]
  tauto

def AllAvailable (c : ClosureAssessment) : Prop :=
  c.physicalState.state = .available ∧ c.operationalState.state = .available ∧
    c.commercialState.state = .available ∧ c.trustState.state = .available ∧
    c.recoveryState.state = .available

theorem allAvailable_iff (inp : ClosureInput) :
    AllAvailable (assessClosure inp) ↔ (assessClosure inp).reasonCodes = [] := by
  simp only [AllAvailable, assessClosure, physical_available_iff, operational_available_iff,
    commercial_available_iff, trust_available_iff, recovery_available_iff,
    List.append_eq_nil_iff, and_assoc]

/-- The effective state shows every reason code, except when the trust layer is
unavailable and no other layer has a reason. -/
theorem opened_iff_no_reasons_iff (inp : ClosureInput) :
    (((assessClosure inp).effectiveState = .opened ↔ (assessClosure inp).reasonCodes = []) ∧
      ((assessClosure inp).reasonCodes = [] ↔ AllAvailable (assessClosure inp))) ↔
    ¬ (TrustUnavailable inp ∧ OthersNominal inp) := by
  rw [opened_iff, allAvailable_iff, reasonCodes_eq_nil_iff]
  simp only [and_true]
  constructor
  · rintro h ⟨htrust, hothers⟩
    exact (h.mp ⟨hothers, Or.inl htrust⟩).2 (trustReason_of_unavailable inp htrust)
  · intro h
    constructor
    · rintro ⟨hothers, htrust | hreason⟩
      · exact absurd ⟨htrust, hothers⟩ h
      · exact ⟨hothers, hreason⟩
    · rintro ⟨hothers, hreason⟩
      exact ⟨hothers, Or.inr hreason⟩

def lowIntegrity : ClosureInput where
  resourceRef := "corridor"
  dataIntegrity := ⟨1 / 5, by norm_num⟩

theorem opened_with_reasons :
    ¬ ∀ inp : ClosureInput, (assessClosure inp).effectiveState = .opened ↔
      (assessClosure inp).reasonCodes = [] := by
  intro h
  have hopened : (assessClosure lowIntegrity).effectiveState = .opened := by with_unfolding_all decide
  have hreasons : (assessClosure lowIntegrity).reasonCodes = [.dataIntegrityLow] := by
    with_unfolding_all decide
  rw [h, hreasons] at hopened
  exact absurd hopened (by simp)

section Worsening
variable {a b : ClosureInput}

theorem Worsened.uninsurable (h : Worsened a b) (ha : Uninsurable a) : Uninsurable b :=
  ha.imp h.insuranceAvailable h.insuranceCoverage.trans

theorem Worsened.noCarrier (h : Worsened a b) (ha : NoCarrier a) : NoCarrier b :=
  ha.imp h.carrierCapacityAvailable h.carrierCapacityRatio.trans

theorem Worsened.trustUnavailable (h : Worsened a b) (ha : TrustUnavailable a) :
    TrustUnavailable b :=
  ha.imp h.dataIntegrity.trans_lt h.observationConfidence.trans_lt

theorem Worsened.trustReason (h : Worsened a b) (ha : TrustReason a) : TrustReason b :=
  ha.imp h.dataIntegrity.trans_lt
    (Or.imp h.observationConfidence.trans_lt h.sourceDiversity.trans_lt)

theorem Worsened.operationalReason (h : Worsened a b) (ha : OperationalReason a) :
    OperationalReason b :=
  ha.imp h.navigationTrust.trans_lt
    (Or.imp h.communicationsTrust.trans_lt (Or.imp h.escortAvailable h.weatherSafe))

/-- Nominal layers after a worsening were nominal before it. -/
theorem Worsened.othersNominal (h : Worsened a b) (hb : OthersNominal b) : OthersNominal a := by
  obtain ⟨hphys, hcap, hnav, hcom, hop, hu, hn, hvia, hrec⟩ := hb
  refine ⟨?_, hcap.trans_le h.physicalCapacityRatio, ?_, ?_, mt h.operationalReason hop,
    mt h.uninsurable hu, mt h.noCarrier hn, hvia.trans_le h.commercialViability, ?_⟩
  · exact Bool.eq_true_of_not_eq_false fun ha => by simp [h.physicallyAccessible ha] at hphys
  · exact Bool.eq_true_of_not_eq_false fun ha => by simp [h.navigationAvailable ha] at hnav
  · exact Bool.eq_true_of_not_eq_false fun ha => by simp [h.communicationsAvailable ha] at hcom
  · exact Bool.eq_false_of_not_eq_true fun ha => by simp [h.recoveryBacklogActive ha] at hrec

/-- Every test but the last fires again after a worsening. -/
theorem Worsened.firings (h : Worsened a b) {i : ℕ} (hi : i < 9)
    (ha : (firings a)[i]? = some true) : (firings b)[i]? = some true := by
  interval_cases i <;>
    simp only [Closure.firings, List.getElem?_cons_zero, List.getElem?_cons_succ,
      Option.some.injEq, Bool.or_eq_true, Bool.and_eq_true, Bool.not_eq_true',
      decide_eq_true_eq] at ha ⊢
  · exact h.physicallyAccessible ha
  · exact ha.imp (Or.imp h.navigationAvailable h.communicationsAvailable)
      (And.imp h.uninsurable (And.imp h.noCarrier h.trustUnavailable))
  · exact h.uninsurable ha
  · exact h.noCarrier ha
  · exact h.navigationTrust.trans_lt ha
  · exact h.communicationsTrust.trans_lt ha
  · exact ha.imp h.escortDependent h.escortAvailable
  · exact h.recoveryBacklogActive ha
  · exact h.physicalCapacityRatio.trans ha

/-- A worsened input whose state is not open is no later in the order. -/
theorem Worsened.place_le_of_not_opened (h : Worsened a b)
    (hb : (assessClosure b).effectiveState ≠ .opened) :
    place (assessClosure b).effectiveState ≤ place (assessClosure a).effectiveState := by
  rw [Ne, opened_iff_no_firing] at hb
  have hlt := (firstTrue_le_length _).lt_of_ne hb
  have hlen : (Closure.firings b).length = (Closure.firings a).length := rfl
  rw [place_effectiveState, place_effectiveState]
  apply firstTrue_le hlen
  intro i hi
  rcases lt_or_ge i 9 with hlt9 | hge
  · exact ⟨i, le_rfl, h.firings hlt9 hi⟩
  · have hten : (Closure.firings b).length = 10 := rfl
    exact ⟨firstTrue (Closure.firings b), by omega, getElem?_firstTrue hlt⟩

/-- The effective state never improves when the inputs worsen, except when a
degraded trust layer becomes unavailable while no other layer has a reason. -/
theorem effectiveState_never_improves_iff (h : Worsened a b) :
    place (assessClosure b).effectiveState ≤ place (assessClosure a).effectiveState ↔
      ¬ (TrustUnavailable b ∧ OthersNominal b ∧ ¬ TrustUnavailable a ∧ TrustReason a) := by
  by_cases hb : (assessClosure b).effectiveState = .opened
  · obtain ⟨hothers, htrust⟩ := (opened_iff b).mp hb
    have ha : place (assessClosure b).effectiveState ≤ place (assessClosure a).effectiveState ↔
        (assessClosure a).effectiveState = .opened := by
      have hlen := firstTrue_le_length (Closure.firings a)
      have heq : (Closure.firings b).length = (Closure.firings a).length := rfl
      rw [opened_iff_no_firing] at hb ⊢
      rw [place_effectiveState, place_effectiveState]
      omega
    rw [ha, opened_iff]
    constructor
    · rintro ⟨-, hopen⟩ ⟨-, -, hna, hra⟩
      exact hopen.elim hna (fun hr => hr hra)
    · intro hcond
      refine ⟨h.othersNominal hothers, ?_⟩
      by_cases hra : TrustReason a
      · have hub : TrustUnavailable b := htrust.resolve_right (fun hr => hr (h.trustReason hra))
        exact Or.inl (by_contra fun hna => hcond ⟨hub, hothers, hna, hra⟩)
      · exact Or.inr hra
  · simp only [h.place_le_of_not_opened hb, true_iff]
    rintro ⟨hub, hothers, -⟩
    exact hb ((opened_iff b).mpr ⟨hothers, Or.inl hub⟩)

end Worsening

def middlingIntegrity : ClosureInput where
  resourceRef := "corridor"
  dataIntegrity := ⟨2 / 5, by norm_num⟩

theorem middlingIntegrity_worsened : Worsened middlingIntegrity lowIntegrity := by
  constructor <;> first | exact id | exact le_rfl | norm_num [middlingIntegrity, lowIntegrity]

theorem effectiveState_improves :
    ¬ ∀ a b : ClosureInput, Worsened a b →
      place (assessClosure b).effectiveState ≤ place (assessClosure a).effectiveState := by
  intro h
  have hle := h _ _ middlingIntegrity_worsened
  have hlow : (assessClosure lowIntegrity).effectiveState = .opened := by with_unfolding_all decide
  have hmid : (assessClosure middlingIntegrity).effectiveState = .openDegraded := by
    with_unfolding_all decide
  rw [hlow, hmid] at hle
  exact absurd hle (by decide)

theorem effectiveState_never_improves_iff_middling :
    place (assessClosure lowIntegrity).effectiveState ≤
      place (assessClosure middlingIntegrity).effectiveState ↔
    ¬ (TrustUnavailable lowIntegrity ∧ OthersNominal lowIntegrity ∧
      ¬ TrustUnavailable middlingIntegrity ∧ TrustReason middlingIntegrity) :=
  effectiveState_never_improves_iff middlingIntegrity_worsened

end ContinuityOS.Closure
