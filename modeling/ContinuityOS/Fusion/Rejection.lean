import ContinuityOS.Fusion.Summary
import ContinuityOS.Library.Fallible

/-! # How fusion rejects its input

A value error is what the service turns into a client error. The first observation
whose source does not validate decides the error of the whole assessment.
-/
namespace ContinuityOS.Fusion
open Library

/-- A failed lookup is a key error and an unhashable value a type error. -/
def AssessError.isValueError : AssessError → Bool
  | .missingKey _ => false
  | .unhashableJudgment => false
  | _ => true

/-- An assessment, or the rejection the caller expects. -/
def Answered {α : Type} (result : Except AssessError α) : Prop :=
  (∃ a, result = .ok a) ∨ ∃ e, result = .error e ∧ e.isValueError = true

/-- The source may assert the class, but no table gives the class of the metric, or
the judgment an analyst states is a list or a map. -/
def Uncovered (o : Observation) : Prop :=
  ∃ source, getSource o.sourceId = some source ∧ o.sourceTrust = source.trust ∧
    o.assertionClass ∈ source.allowedAssertions ∧
    (metricAssertions o.metric = none ∨
      metricAssertions o.metric = some o.assertionClass ∧ o.sourceTrust = .analystAssessment ∧
        o.metadata.get? "judgment_type" = some .collection)

/-- An uncovered observation comes before any invalid source. -/
def ReachesUncovered (observations : List Observation) : Prop :=
  ∃ before o after, observations = before ++ o :: after ∧
    (∀ p ∈ before, validateObservationSource p = .ok ()) ∧ Uncovered o

section Results
variable {α : Type}

theorem answered_ok (a : α) : Answered (.ok a : Except AssessError α) := Or.inl ⟨a, rfl⟩

theorem answered_error_iff (e : AssessError) :
    Answered (.error e : Except AssessError α) ↔ e.isValueError = true := by
  simp [Answered]

end Results

section Validation
variable (o : Observation)

theorem answered_validateAnalystMetadata (metadata : Dict String MetadataValue) :
    Answered (validateAnalystMetadata metadata) ↔
      metadata.get? "judgment_type" ≠ some .collection := by
  unfold validateAnalystMetadata
  split
  next h => simp [h, answered_error_iff, AssessError.isValueError]
  next judgment h =>
    simp only [h, ne_eq, Option.some.injEq, reduceCtorEq, not_false_eq_true, iff_true]
    split_ifs
    · split
      · split_ifs
        · exact (answered_error_iff _).mpr rfl
        · exact answered_ok ()
      · exact (answered_error_iff _).mpr rfl
    · exact (answered_error_iff _).mpr rfl
  next hcollection _ => simpa [answered_error_iff, AssessError.isValueError] using hcollection

/-- Validation fails otherwise than by a value error on uncovered observations only. -/
theorem answered_validateObservationSource :
    Answered (validateObservationSource o) ↔ ¬ Uncovered o := by
  unfold validateObservationSource Uncovered
  cases hsource : getSource o.sourceId with
  | none => simp [answered_error_iff, AssessError.isValueError]
  | some source =>
    by_cases htrust : o.sourceTrust = source.trust
    case neg => simp [htrust, answered_error_iff, AssessError.isValueError]
    by_cases hclass : o.assertionClass ∈ source.allowedAssertions
    case neg => simp [htrust, hclass, answered_error_iff, AssessError.isValueError]
    cases hmetric : metricAssertions o.metric with
    | none => simp [htrust, hclass, answered_error_iff, AssessError.isValueError]
    | some assertion =>
      by_cases hassertion : o.assertionClass = assertion
      case neg =>
        simp [htrust, hclass, hassertion, Ne.symm hassertion, answered_error_iff,
          AssessError.isValueError]
      by_cases hanalyst : source.trust = .analystAssessment
      case neg =>
        rw [hassertion] at hclass
        simp [htrust, hclass, hassertion, hanalyst, answered_ok]
      simp only [htrust, hassertion, hanalyst]
      simp [hassertion ▸ hclass, answered_validateAnalystMetadata, hanalyst]

end Validation

section Screen
variable (now : Instant) (observations : List Observation) (e : AssessError)

/-- After the sources are validated the screen does not fail. -/
theorem screen_eq_error : screen now observations = .error e ↔
    forM observations validateObservationSource = .error e := by
  induction observations with
  | nil => simp [screen]
  | cons o l ih =>
    rw [List.forM_cons]
    cases hvalid : validateObservationSource o with
    | error e' => simp [screen, screenOne, hvalid]
    | ok u =>
      obtain ⟨excluded, hone, -⟩ := screenOne_of_valid now hvalid
      rw [ok_bind, ← ih, screen, hone, ok_bind]
      cases screen now l with
      | error e' => simp
      | ok result => cases excluded <;> simp

theorem answered_screen_iff :
    Answered (screen now observations) ↔ ¬ ReachesUncovered observations := by
  cases hscreen : screen now observations with
  | ok result =>
    refine iff_of_true (answered_ok result) ?_
    rintro ⟨before, o, after, rfl, -, huncovered⟩
    have hvalid := valid_of_screen now hscreen o (by simp)
    exact (answered_validateObservationSource o).mp (hvalid ▸ answered_ok ()) huncovered
  | error e =>
    have hchecks := (screen_eq_error now observations e).mp hscreen
    obtain ⟨before, o, after, hsplit, hbefore, ho⟩ := forM_eq_error_iff.mp hchecks
    rw [answered_error_iff]
    constructor
    · rintro hvalue ⟨before', o', after', rfl, hbefore', huncovered⟩
      cases hvalid : validateObservationSource o' with
      | ok u =>
        exact (answered_validateObservationSource o').mp (hvalid ▸ answered_ok u) huncovered
      | error e' =>
        -- both are the first error of the same run
        rw [forM_append_error hbefore' hvalid] at hchecks
        obtain rfl := Except.error.inj hchecks
        exact (answered_validateObservationSource o').mp
          (hvalid ▸ (answered_error_iff _).mpr hvalue) huncovered
    · intro hreach
      rw [← answered_error_iff (α := Unit), ← ho, answered_validateObservationSource]
      exact fun huncovered => hreach ⟨before, o, after, hsplit, hbefore, huncovered⟩

end Screen

section Assess
variable (freshness : Freshness) (assessmentId corridorId : String) (now : Instant)
  (observations : List Observation)

/-- Fusion answers with an assessment or a value error exactly on the lists where no
uncovered observation is reached. -/
theorem assess_answered_iff :
    Answered (assess freshness assessmentId corridorId now observations) ↔
      ¬ ReachesUncovered observations := by
  rw [← answered_screen_iff now]
  unfold assess
  split_ifs with hnil
  · subst hnil
    exact iff_of_true ((answered_error_iff _).mpr rfl) (answered_ok _)
  · cases hscreen : screen now observations with
    | error e => simp [bind, Except.bind, answered_error_iff]
    | ok result =>
      obtain ⟨valid, caveats⟩ := result
      refine iff_of_true ?_ (answered_ok _)
      simp only [bind, Except.bind]
      split_ifs
      · exact (answered_error_iff _).mpr rfl
      · obtain ⟨caveats', hscreen'⟩ := screen_of_valid now (valid_of_screen now hscreen)
        rw [hscreen] at hscreen'
        obtain ⟨rfl, -⟩ := Prod.mk.inj (Except.ok.inj hscreen')
        rw [fuse_eq freshness assessmentId corridorId now caveats fun o ho =>
          metricAssertions_of_valid (valid_of_screen now hscreen o (List.mem_of_mem_filter ho))]
        exact answered_ok _

end Assess

/-- An operator reports the link margin of its aircraft. -/
def linkMarginReading : Observation where
  observationId := "link"
  sourceId := "operator-telemetry"
  sourceTrust := .authenticatedOperator
  assertionClass := .liveCapacity
  metric := .uavLinkMargin
  value := 12
  unit := "dB"
  observedAt := 0
  confidence := Score.one
  validValue := by decide
  ordered := ordered_none_zero

/-- The link margin has no assertion class, so it ends in a key error. -/
theorem linkMargin_not_answered :
    ¬ ∀ (freshness : Freshness) (assessmentId corridorId : String) (now : Instant)
      (observations : List Observation),
      Answered (assess freshness assessmentId corridorId now observations) := by
  intro h
  have hmissing : assess (fun _ _ _ => ⟨1, by norm_num⟩) "assessment" "corridor" 0
      [linkMarginReading] = .error (.missingKey .uavLinkMargin) := by
    rfl
  have hanswered := h (fun _ _ _ => ⟨1, by norm_num⟩) "assessment" "corridor" 0 [linkMarginReading]
  rw [hmissing, answered_error_iff] at hanswered
  cases hanswered

end ContinuityOS.Fusion
