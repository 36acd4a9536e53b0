import ContinuityOS.Closure.Model

/-! # What each closure layer reports

One lemma for each level and each list of reason codes, in terms of the inputs.
-/
namespace ContinuityOS.Closure

@[simp] theorem mem_reasonIf (test : Bool) (code c : ReasonCode) :
    c ∈ reasonIf test code ↔ test = true ∧ c = code := by
  cases test <;> simp [reasonIf]

@[simp] theorem reasonIf_eq_nil (test : Bool) (code : ReasonCode) :
    reasonIf test code = [] ↔ test = false := by
  cases test <;> simp [reasonIf]

section Layers
variable (inp : ClosureInput)

def Uninsurable : Prop := inp.insuranceAvailable = false ∨ inp.insuranceCoverage.val ≤ 1 / 10

def NoCarrier : Prop :=
  inp.carrierCapacityAvailable = false ∨ inp.carrierCapacityRatio.val ≤ 1 / 10

def TrustUnavailable : Prop :=
  inp.dataIntegrity.val < 3 / 10 ∨ inp.observationConfidence.val < 3 / 10

def TrustReason : Prop :=
  inp.dataIntegrity.val < 5 / 10 ∨ inp.observationConfidence.val < 5 / 10 ∨ inp.sourceDiversity < 2

/-- Some operational reason that leaves navigation and communications available. -/
def OperationalReason : Prop :=
  inp.navigationTrust.val < 5 / 10 ∨ inp.communicationsTrust.val < 5 / 10 ∨
    inp.escortAvailable = false ∨ inp.weatherSafe = false

/-- No layer other than trust has a reason. -/
def OthersNominal : Prop :=
  inp.physicallyAccessible = true ∧ 2 / 10 < inp.physicalCapacityRatio.val ∧
    inp.navigationAvailable = true ∧ inp.communicationsAvailable = true ∧
    ¬ OperationalReason inp ∧ ¬ Uninsurable inp ∧ ¬ NoCarrier inp ∧
    2 / 10 < inp.commercialViability.val ∧ inp.recoveryBacklogActive = false

instance : Decidable (Uninsurable inp) := inferInstanceAs (Decidable (_ ∨ _))

instance : Decidable (NoCarrier inp) := inferInstanceAs (Decidable (_ ∨ _))

instance : Decidable (TrustUnavailable inp) := inferInstanceAs (Decidable (_ ∨ _))

instance : Decidable (TrustReason inp) := inferInstanceAs (Decidable (_ ∨ _))

instance : Decidable (OperationalReason inp) := inferInstanceAs (Decidable (_ ∨ _))

instance : Decidable (OthersNominal inp) := inferInstanceAs (Decidable (_ ∧ _))

theorem physical_unavailable_iff :
    (assessPhysical inp).state = .unavailable ↔ inp.physicallyAccessible = false := by
  unfold assessPhysical
  split_ifs <;> simp_all

theorem physical_degraded_iff :
    (assessPhysical inp).state = .degraded ↔
      inp.physicallyAccessible = true ∧ inp.physicalCapacityRatio.val ≤ 2 / 10 := by
  unfold assessPhysical
  split_ifs <;> simp_all

theorem physical_reasons_iff :
    (assessPhysical inp).reasonCodes = [] ↔
      inp.physicallyAccessible = true ∧ 2 / 10 < inp.physicalCapacityRatio.val := by
  unfold assessPhysical
  split_ifs <;> simp_all

theorem physical_available_iff :
    (assessPhysical inp).state = .available ↔ (assessPhysical inp).reasonCodes = [] := by
  unfold assessPhysical
  split_ifs <;> simp

theorem operationalReasons_eq_nil :
    operationalReasons inp = [] ↔ inp.navigationAvailable = true ∧
      inp.communicationsAvailable = true ∧ ¬ OperationalReason inp := by
  simp only [operationalReasons, OperationalReason, List.append_eq_nil_iff, reasonIf_eq_nil]
  cases inp.navigationAvailable <;> cases inp.communicationsAvailable <;>
    cases inp.escortAvailable <;> cases inp.weatherSafe <;> simp

theorem mem_operationalReasons_navigation :
    .navigationUntrusted ∈ operationalReasons inp ↔ inp.navigationTrust.val < 5 / 10 := by
  simp [operationalReasons]

theorem mem_operationalReasons_communications :
    .communicationsDegraded ∈ operationalReasons inp ↔
      inp.communicationsTrust.val < 5 / 10 := by
  simp [operationalReasons]

theorem mem_operationalReasons_service :
    .serviceDependent ∈ operationalReasons inp ↔
      inp.escortDependent = true ∧ inp.escortAvailable = false := by
  simp [operationalReasons]

theorem operational_reasonCodes :
    (assessOperational inp).reasonCodes = operationalReasons inp := by
  simp only [assessOperational]
  split_ifs with h1 h2
  · rfl
  · rfl
  · exact (not_not.mp h2).symm

theorem operational_unavailable_iff :
    (assessOperational inp).state = .unavailable ↔
      inp.navigationAvailable = false ∨ inp.communicationsAvailable = false := by
  simp only [assessOperational]
  split_ifs with h1 h2
  · simpa using h1
  · simpa using h1
  · simpa using h1

theorem operational_degraded_iff :
    (assessOperational inp).state = .degraded ↔ inp.navigationAvailable = true ∧
      inp.communicationsAvailable = true ∧ OperationalReason inp := by
  have hr := operationalReasons_eq_nil inp
  simp only [assessOperational]
  simp only [Bool.or_eq_true, Bool.not_eq_true'] at *
  split_ifs with h1 h2
  · simp only [false_iff]
    rintro ⟨hn, hc, -⟩
    simp [hn, hc] at h1
  · simp only [not_or, Bool.not_eq_false] at h1
    simp only [true_iff]
    exact ⟨h1.1, h1.2, by_contra fun ho => h2 (hr.mpr ⟨h1.1, h1.2, ho⟩)⟩
  · simp only [false_iff]
    rintro ⟨-, -, ho⟩
    exact (hr.mp (not_not.mp h2)).2.2 ho

theorem operational_available_iff :
    (assessOperational inp).state = .available ↔ (assessOperational inp).reasonCodes = [] := by
  have hr := operationalReasons_eq_nil inp
  simp only [assessOperational]
  split_ifs with h1 h2
  · simp only [false_iff, hr]
    rintro ⟨hn, hc, -⟩
    simp [hn, hc] at h1
  · simp [h2]
  · simp

theorem mem_commercialReasons_uninsurable :
    .uninsurable ∈ commercialReasons inp ↔ Uninsurable inp := by
  simp [commercialReasons, Uninsurable]

theorem mem_commercialReasons_noCarrier :
    .noCarrierCapacity ∈ commercialReasons inp ↔ NoCarrier inp := by
  simp [commercialReasons, NoCarrier]

theorem commercialReasons_eq_nil :
    commercialReasons inp = [] ↔
      ¬ Uninsurable inp ∧ ¬ NoCarrier inp ∧ 2 / 10 < inp.commercialViability.val := by
  simp only [commercialReasons, Uninsurable, NoCarrier, List.append_eq_nil_iff, reasonIf_eq_nil]
  cases inp.insuranceAvailable <;> cases inp.carrierCapacityAvailable <;> simp [and_assoc]

theorem commercial_reasonCodes :
    (assessCommercial inp).reasonCodes = commercialReasons inp := by
  simp only [assessCommercial]
  split_ifs with h1 h2
  · rfl
  · rfl
  · exact (not_not.mp h2).symm

theorem commercial_unavailable_iff :
    (assessCommercial inp).state = .unavailable ↔ Uninsurable inp ∧ NoCarrier inp := by
  rw [← mem_commercialReasons_uninsurable, ← mem_commercialReasons_noCarrier]
  simp only [assessCommercial]
  split_ifs with h1 h2
  · simp [h1]
  · simp [h1]
  · simp [h1]

theorem commercial_degraded_iff :
    (assessCommercial inp).state = .degraded ↔ ¬ (Uninsurable inp ∧ NoCarrier inp) ∧
      (Uninsurable inp ∨ NoCarrier inp ∨ inp.commercialViability.val ≤ 2 / 10) := by
  have hr := commercialReasons_eq_nil inp
  have hu := mem_commercialReasons_uninsurable inp
  have hn := mem_commercialReasons_noCarrier inp
  simp only [assessCommercial, ← not_lt]
  split_ifs with h1 h2
  · rw [hu, hn] at h1
    simp [h1]
  · rw [hu, hn] at h1
    rw [Ne, hr] at h2
    simp only [true_iff]
    tauto
  · rw [Ne, not_not, hr] at h2
    simp only [false_iff]
    tauto

theorem commercial_available_iff :
    (assessCommercial inp).state = .available ↔ (assessCommercial inp).reasonCodes = [] := by
  simp only [assessCommercial]
  split_ifs with h1 h2
  · simp only [false_iff]
    exact List.ne_nil_of_mem h1.1
  · simp [h2]
  · simp

theorem trustReasons_eq_nil : trustReasons inp = [] ↔ ¬ TrustReason inp := by
  simp [trustReasons, TrustReason]

theorem trust_reasonCodes : (assessTrust inp).reasonCodes = trustReasons inp := by
  simp only [assessTrust]
  split_ifs with h1 h2
  · rfl
  · rfl
  · exact (not_not.mp h2).symm

theorem trust_unavailable_iff :
    (assessTrust inp).state = .unavailable ↔ TrustUnavailable inp := by
  simp only [assessTrust, TrustUnavailable]
  split_ifs with h1 h2
  · simp [h1]
  · simp [h1]
  · simp [h1]

theorem trust_degraded_iff :
    (assessTrust inp).state = .degraded ↔ ¬ TrustUnavailable inp ∧ TrustReason inp := by
  have hr := trustReasons_eq_nil inp
  simp only [assessTrust, TrustUnavailable]
  split_ifs with h1 h2
  · simp [h1]
  · rw [Ne, hr, not_not] at h2
    simp [h1, h2]
  · rw [Ne, not_not, hr] at h2
    simp [h2]

theorem trustReason_of_unavailable (h : TrustUnavailable inp) : TrustReason inp := by
  rcases h with h | h
  · exact Or.inl (h.trans (by norm_num))
  · exact Or.inr (Or.inl (h.trans (by norm_num)))

theorem trust_available_iff :
    (assessTrust inp).state = .available ↔ (assessTrust inp).reasonCodes = [] := by
  have hr := trustReasons_eq_nil inp
  simp only [assessTrust]
  split_ifs with h1 h2
  · simp only [false_iff, hr, not_not]
    exact trustReason_of_unavailable inp h1
  · simp [h2]
  · simp

theorem trust_not_unknown : (assessTrust inp).state ≠ .unknown := by
  simp only [assessTrust]
  split_ifs <;> simp

theorem recovery_degraded_iff :
    (assessRecovery inp).state = .degraded ↔ inp.recoveryBacklogActive = true := by
  unfold assessRecovery
  split_ifs <;> simp_all

theorem mem_recovery_reasons :
    .recoveryBacklogged ∈ (assessRecovery inp).reasonCodes ↔ inp.recoveryBacklogActive = true := by
  unfold assessRecovery
  split_ifs <;> simp_all

theorem recovery_reasons_iff :
    (assessRecovery inp).reasonCodes = [] ↔ inp.recoveryBacklogActive = false := by
  unfold assessRecovery
  split_ifs <;> simp_all

theorem recovery_available_iff :
    (assessRecovery inp).state = .available ↔ (assessRecovery inp).reasonCodes = [] := by
  unfold assessRecovery
  split_ifs <;> simp

end Layers

end ContinuityOS.Closure
