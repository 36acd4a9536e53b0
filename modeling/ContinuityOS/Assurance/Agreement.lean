import ContinuityOS.Assurance.Decoding

/-! # When the two decoders agree

On a well-formed document both decoders succeed. A section agrees exactly when each of its
camelCase keys is redundant, and the policies agree exactly when all sections do.
-/
namespace ContinuityOS.Assurance
open Library

section Specification
variable {V : Type} (c : Conversions V)

abbrev FieldList (V : Type) := List ((α : Type) × DocField V α)

def toleranceFields : FieldList V :=
  [⟨_, corridorLoss c⟩, ⟨_, portLoss c⟩, ⟨_, communicationProviderLoss c⟩,
    ⟨_, navigationSourceLoss c⟩, ⟨_, observationSourceLoss c⟩]

def evidenceFields : FieldList V :=
  [⟨_, minimumIndependentOperationalSources c⟩, ⟨_, minimumIndependentNavigationSources c⟩,
    ⟨_, minimumIndependentEnvironmentalSources c⟩]

def commercialFields : FieldList V := [⟨_, minimumCarrierOptions c⟩, ⟨_, insuranceRequired c⟩]

def inventoryFields : FieldList V :=
  [⟨_, minimumReserveDays c⟩, ⟨_, minimumAssuredReplenishmentCycles c⟩]

def recoveryFields : FieldList V :=
  [⟨_, verifyCarrierReturn c⟩, ⟨_, verifyBacklogClearance c⟩, ⟨_, verifyReserveRestoration c⟩]

/-- The sections that the helper recognises, with their fields. -/
def documentFields : List (String × FieldList V) :=
  [("tolerate", toleranceFields c), ("evidence", evidenceFields c),
    ("commercial", commercialFields c), ("inventory", inventoryFields c),
    ("recovery", recoveryFields c)]

/-- The objective stands under either of two names. -/
def objectiveFields : List (String × FieldList V) :=
  [("continuityObjective", [⟨_, objectiveMinimum c⟩]),
    ("continuity_objective", [⟨_, objectiveMinimum c⟩])]

/-- Every key is one that the helper recognises, and every value is in range. -/
structure WellFormed (doc : Document V) : Prop where
  sections : ∀ key ∈ doc.keys, ∃ s ∈ objectiveFields c ++ documentFields c, key = s.1
  fields : ∀ s ∈ objectiveFields c ++ documentFields c, ∀ raw ∈ doc.get? s.1,
    ∀ key ∈ raw.keys, ∃ f ∈ s.2, key = f.2.camel ∨ key = f.2.snake
  inRange : ∀ s ∈ objectiveFields c ++ documentFields c, ∀ raw ∈ doc.get? s.1,
    ∀ f ∈ s.2, f.2.InRange raw

/-- Every camelCase key says what the snake_case key beside it, or the default, says. -/
structure CamelKeysRedundant (doc : Document V) : Prop where
  objective : ∀ raw ∈ doc.get? "continuityObjective", raw.entries ≠ [] →
    (objectiveMinimum c).getSnake raw (objectiveMinimum c).fallback =
      (objectiveMinimum c).getSnake ((doc.get? "continuity_objective").getD Dict.empty)
        (objectiveMinimum c).fallback
  fields : ∀ s ∈ documentFields c, ∀ raw ∈ doc.get? s.1, ∀ f ∈ s.2, f.2.CamelRedundant raw

end Specification

section Agreement
variable {V : Type} (c : Conversions V)

/-- Both decoders accept, and give the same value exactly under the condition. -/
def Agrees {α : Type} (model camel : Option α) (condition : Prop) : Prop :=
  ∃ a b, model = some a ∧ camel = some b ∧ (b = a ↔ condition)

theorem DocField.agrees {α : Type} {f : DocField V α} {raw : Dict String V} (h : f.InRange raw)
    {default : α} (hdefault : default = f.fallback) :
    Agrees (f.getSnake raw default) (f.getPreferred raw) (f.CamelRedundant raw) := by
  subst hdefault
  have hsnake : ∃ a, f.getSnake raw f.fallback = some a := by
    unfold getSnake
    cases hget : raw.get? f.snake with
    | none => exact ⟨_, rfl⟩
    | some v => exact Option.ne_none_iff_exists'.mp (h.2 v hget)
  obtain ⟨a, ha⟩ := hsnake
  cases hget : raw.get? f.camel with
  | none =>
    have hpreferred : f.getPreferred raw = some a := by rw [getPreferred, hget, ha]
    refine ⟨a, a, ha, hpreferred, ?_⟩
    simp [CamelRedundant, hget]
  | some v =>
    obtain ⟨b, hb⟩ := Option.ne_none_iff_exists'.mp (h.1 v hget)
    have hpreferred : f.getPreferred raw = some b := by
      rw [getPreferred, hget]
      exact hb
    refine ⟨a, b, ha, hpreferred, ?_⟩
    simp [CamelRedundant, hget, ha, hb]

variable {c} {raw : Dict String V}

theorem agrees_tolerance (h : ∀ f ∈ toleranceFields c, f.2.InRange raw) :
    Agrees (modelTolerance c raw) (camelTolerance c raw)
      (∀ f ∈ toleranceFields c, f.2.CamelRedundant raw) := by
  simp only [toleranceFields, List.forall_mem_cons] at h ⊢
  obtain ⟨h1, h2, h3, h4, h5, -⟩ := h
  obtain ⟨a1, b1, ha1, hb1, e1⟩ := DocField.agrees h1 rfl
  obtain ⟨a2, b2, ha2, hb2, e2⟩ := DocField.agrees h2 rfl
  obtain ⟨a3, b3, ha3, hb3, e3⟩ := DocField.agrees h3 rfl
  obtain ⟨a4, b4, ha4, hb4, e4⟩ := DocField.agrees h4 rfl
  obtain ⟨a5, b5, ha5, hb5, e5⟩ := DocField.agrees h5 rfl
  refine ⟨⟨a1, a2, a3, a4, a5⟩, ⟨b1, b2, b3, b4, b5⟩, ?_, ?_, ?_⟩
  · simp only [modelTolerance, Option.bind_eq_bind, Option.bind_eq_some_iff]
    exact ⟨a1, ha1, a2, ha2, a3, ha3, a4, ha4, a5, ha5, rfl⟩
  · simp [camelTolerance, hb1, hb2, hb3, hb4, hb5]
  · simp [e1, e2, e3, e4, e5]

theorem agrees_evidence (h : ∀ f ∈ evidenceFields c, f.2.InRange raw) :
    Agrees (modelEvidence c raw) (camelEvidence c raw)
      (∀ f ∈ evidenceFields c, f.2.CamelRedundant raw) := by
  simp only [evidenceFields, List.forall_mem_cons] at h ⊢
  obtain ⟨h1, h2, h3, -⟩ := h
  obtain ⟨a1, b1, ha1, hb1, e1⟩ := DocField.agrees h1 rfl
  obtain ⟨a2, b2, ha2, hb2, e2⟩ := DocField.agrees h2 rfl
  obtain ⟨a3, b3, ha3, hb3, e3⟩ := DocField.agrees h3 rfl
  refine ⟨⟨a1, a2, a3⟩, ⟨b1, b2, b3⟩, ?_, ?_, ?_⟩
  · simp only [modelEvidence, Option.bind_eq_bind, Option.bind_eq_some_iff]
    exact ⟨a1, ha1, a2, ha2, a3, ha3, rfl⟩
  · simp [camelEvidence, hb1, hb2, hb3]
  · simp [e1, e2, e3]

theorem agrees_commercial (h : ∀ f ∈ commercialFields c, f.2.InRange raw) :
    Agrees (modelCommercial c raw) (camelCommercial c raw)
      (∀ f ∈ commercialFields c, f.2.CamelRedundant raw) := by
  simp only [commercialFields, List.forall_mem_cons] at h ⊢
  obtain ⟨h1, h2, -⟩ := h
  obtain ⟨a1, b1, ha1, hb1, e1⟩ := DocField.agrees h1 rfl
  obtain ⟨a2, b2, ha2, hb2, e2⟩ := DocField.agrees h2 rfl
  refine ⟨⟨a1, a2⟩, ⟨b1, b2⟩, ?_, ?_, ?_⟩
  · simp only [modelCommercial, Option.bind_eq_bind, Option.bind_eq_some_iff]
    exact ⟨a1, ha1, a2, ha2, rfl⟩
  · simp [camelCommercial, hb1, hb2]
  · simp [e1, e2]

theorem agrees_inventory (h : ∀ f ∈ inventoryFields c, f.2.InRange raw) :
    Agrees (modelInventory c raw) (camelInventory c raw)
      (∀ f ∈ inventoryFields c, f.2.CamelRedundant raw) := by
  simp only [inventoryFields, List.forall_mem_cons] at h ⊢
  obtain ⟨h1, h2, -⟩ := h
  obtain ⟨a1, b1, ha1, hb1, e1⟩ := DocField.agrees h1 rfl
  obtain ⟨a2, b2, ha2, hb2, e2⟩ := DocField.agrees h2 rfl
  refine ⟨⟨a1, a2⟩, ⟨b1, b2⟩, ?_, ?_, ?_⟩
  · simp only [modelInventory, Option.bind_eq_bind, Option.bind_eq_some_iff]
    exact ⟨a1, ha1, a2, ha2, rfl⟩
  · simp [camelInventory, hb1, hb2]
  · simp [e1, e2]

theorem agrees_recovery (h : ∀ f ∈ recoveryFields c, f.2.InRange raw) :
    Agrees (modelRecovery c raw) (camelRecovery c raw)
      (∀ f ∈ recoveryFields c, f.2.CamelRedundant raw) := by
  simp only [recoveryFields, List.forall_mem_cons] at h ⊢
  obtain ⟨h1, h2, h3, -⟩ := h
  obtain ⟨a1, b1, ha1, hb1, e1⟩ := DocField.agrees h1 rfl
  obtain ⟨a2, b2, ha2, hb2, e2⟩ := DocField.agrees h2 rfl
  obtain ⟨a3, b3, ha3, hb3, e3⟩ := DocField.agrees h3 rfl
  refine ⟨⟨a1, a2, a3⟩, ⟨b1, b2, b3⟩, ?_, ?_, ?_⟩
  · simp only [modelRecovery, Option.bind_eq_bind, Option.bind_eq_some_iff]
    exact ⟨a1, ha1, a2, ha2, a3, ha3, rfl⟩
  · simp [camelRecovery, hb1, hb2, hb3]
  · simp [e1, e2, e3]

theorem agrees_sectionOr {σ : Type} {model camel : Dict String V → Option σ}
    {condition : Dict String V → Prop} (default : σ) (raw : Option (Dict String V))
    (h : ∀ r ∈ raw, Agrees (model r) (camel r) (condition r)) :
    Agrees (sectionOr model default raw) (sectionOr camel default raw)
      (∀ r ∈ raw, condition r) := by
  cases raw with
  | none => exact ⟨default, default, rfl, rfl, by simp⟩
  | some r => simpa [sectionOr] using h r rfl

theorem getD_nonemptySection (raw : Option (Dict String V)) :
    (nonemptySection raw).getD Dict.empty = raw.getD Dict.empty := by
  cases raw with
  | none => rfl
  | some r =>
    obtain ⟨entries, hentries⟩ := r
    cases entries with
    | nil => rfl
    | cons b entries => rfl

theorem sectionOr_modelObjective (raw : Option (Dict String V)) :
    sectionOr (modelObjective c) {} raw = modelObjective c (raw.getD Dict.empty) := by
  cases raw <;> rfl

/-- The helper reads the camelCase section unless it is absent or empty. -/
theorem camelObjective_eq (doc : Document V) :
    camelObjective c doc = modelObjective c
      ((nonemptySection (doc.get? "continuityObjective")).getD
        ((doc.get? "continuity_objective").getD Dict.empty)) := by
  unfold camelObjective
  split_ifs with hsome
  · rw [Option.getD_or, getD_nonemptySection]
  · rw [Bool.or_eq_true, not_or, Option.not_isSome_iff_eq_none, Option.not_isSome_iff_eq_none]
      at hsome
    rw [hsome.1, hsome.2]
    rfl

theorem modelObjective_inRange {raw : Dict String V} (h : (objectiveMinimum c).InRange raw) :
    ∃ minimum, (objectiveMinimum c).getSnake raw (objectiveMinimum c).fallback = some minimum ∧
      modelObjective c raw = some ⟨minimum⟩ := by
  obtain ⟨minimum, _, hminimum, -⟩ := DocField.agrees h rfl
  refine ⟨minimum, hminimum, ?_⟩
  simp only [modelObjective, Option.bind_eq_bind, Option.bind_eq_some_iff]
  exact ⟨minimum, hminimum, rfl⟩

/-- The objective agrees when the camelCase section is empty or says nothing new. -/
theorem agrees_objective {doc : Document V} (h : WellFormed c doc) :
    Agrees (sectionOr (modelObjective c) {} (doc.get? "continuity_objective"))
      (camelObjective c doc)
      (∀ raw ∈ doc.get? "continuityObjective", raw.entries ≠ [] →
        (objectiveMinimum c).getSnake raw (objectiveMinimum c).fallback =
          (objectiveMinimum c).getSnake ((doc.get? "continuity_objective").getD Dict.empty)
            (objectiveMinimum c).fallback) := by
  have hrange := h.inRange
  simp only [objectiveFields, List.cons_append, List.forall_mem_cons] at hrange
  have hsnake : (objectiveMinimum c).InRange
      ((doc.get? "continuity_objective").getD Dict.empty) := by
    cases hget : doc.get? "continuity_objective" with
    | none => simp [DocField.InRange]
    | some raw => exact (hrange.2.1 raw hget).1
  obtain ⟨a, ha, hmodel⟩ := modelObjective_inRange hsnake
  rw [sectionOr_modelObjective, camelObjective_eq, hmodel]
  cases hget : doc.get? "continuityObjective" with
  | none => exact ⟨⟨a⟩, ⟨a⟩, rfl, hmodel, by simp⟩
  | some raw =>
    obtain ⟨b, hb, hcamel⟩ := modelObjective_inRange (hrange.1 raw hget).1
    by_cases hnil : raw.entries = []
    · have hempty : nonemptySection (some raw) = none := by simp [nonemptySection, hnil]
      rw [hempty]
      exact ⟨⟨a⟩, ⟨a⟩, rfl, hmodel, by simp [hnil]⟩
    · have hnonempty : nonemptySection (some raw) = some raw := by simp [nonemptySection, hnil]
      rw [hnonempty]
      exact ⟨⟨a⟩, ⟨b⟩, rfl, hcamel, by simp [hnil, ha, hb]⟩

end Agreement

/-- The decoders agree exactly on the documents whose camelCase keys are redundant. -/
theorem fromCamelOrSnake_eq_modelValidate_iff {V : Type} (c : Conversions V) (doc : Document V)
    (h : WellFormed c doc) :
    modelValidate c doc = fromCamelOrSnake c doc ↔ CamelKeysRedundant c doc := by
  have hsection : ∀ s ∈ documentFields c, ∀ raw ∈ doc.get? s.1, ∀ f ∈ s.2, f.2.InRange raw :=
    fun s hs => h.inRange s (List.mem_append_right _ hs)
  simp only [documentFields, List.forall_mem_cons] at hsection
  obtain ⟨h1, h2, h3, h4, h5, -⟩ := hsection
  obtain ⟨a0, b0, ha0, hb0, e0⟩ := agrees_objective h
  obtain ⟨a1, b1, ha1, hb1, e1⟩ := agrees_sectionOr {} (doc.get? "tolerate")
    fun raw hraw => agrees_tolerance (h1 raw hraw)
  obtain ⟨a2, b2, ha2, hb2, e2⟩ := agrees_sectionOr {} (doc.get? "evidence")
    fun raw hraw => agrees_evidence (h2 raw hraw)
  obtain ⟨a3, b3, ha3, hb3, e3⟩ := agrees_sectionOr {} (doc.get? "commercial")
    fun raw hraw => agrees_commercial (h3 raw hraw)
  obtain ⟨a4, b4, ha4, hb4, e4⟩ := agrees_sectionOr {} (doc.get? "inventory")
    fun raw hraw => agrees_inventory (h4 raw hraw)
  obtain ⟨a5, b5, ha5, hb5, e5⟩ := agrees_sectionOr {} (doc.get? "recovery")
    fun raw hraw => agrees_recovery (h5 raw hraw)
  have hmodel : modelValidate c doc = some ⟨a0, a1, a2, a3, a4, a5⟩ := by
    simp [modelValidate, ha0, ha1, ha2, ha3, ha4, ha5]
  have hcamel : fromCamelOrSnake c doc = some ⟨b0, b1, b2, b3, b4, b5⟩ := by
    simp [fromCamelOrSnake, hb0, hb1, hb2, hb3, hb4, hb5]
  rw [hmodel, hcamel, eq_comm, Option.some.injEq, AssurancePolicySpec.mk.injEq, e0, e1, e2, e3,
    e4, e5]
  constructor
  · rintro ⟨hobjective, hfields⟩
    refine ⟨hobjective, ?_⟩
    simpa [documentFields] using hfields
  · rintro ⟨hobjective, hfields⟩
    refine ⟨hobjective, ?_⟩
    simpa [documentFields] using hfields

/-- Documents whose values are integers. -/
def integerConversions : Conversions ℤ where
  toInt := some
  toBool n := if n = 0 then some false else if n = 1 then some true else none
  toNumber n := some n

/-- A loss tolerance of three corridors, under the camelCase name. -/
def camelDocument : Document ℤ := Dict.empty.set "tolerate" (Dict.empty.set "corridorLoss" 3)

theorem camelDocument_wellFormed : WellFormed integerConversions camelDocument where
  sections := by decide
  fields := by decide
  inRange := by
    simp [objectiveFields, documentFields, toleranceFields, camelDocument, Dict.get?_set,
      DocField.InRange, corridorLoss, portLoss, communicationProviderLoss, navigationSourceLoss,
      observationSourceLoss, Conversions.ranged, integerConversions]

theorem fromCamelOrSnake_eq_modelValidate_iff_witness :
    modelValidate integerConversions camelDocument =
      fromCamelOrSnake integerConversions camelDocument ↔
      CamelKeysRedundant integerConversions camelDocument :=
  fromCamelOrSnake_eq_modelValidate_iff _ _ camelDocument_wellFormed

theorem modelValidate_ne_fromCamelOrSnake :
    ¬ ∀ (V : Type) (c : Conversions V) (doc : Document V), WellFormed c doc →
      modelValidate c doc = fromCamelOrSnake c doc := by
  intro h
  have heq := h ℤ integerConversions camelDocument camelDocument_wellFormed
  revert heq
  with_unfolding_all decide

end ContinuityOS.Assurance
