import ContinuityOS.Service.Acceptance

/-! # Retries of failed telemetry

The sequence is claimed before the record and the response are written. When one of the later
writes fails, the claim stays, and the same request is a replay.
-/
namespace ContinuityOS.Service
open Library Handler

/-- The submission when no write fails any more. -/
def Submission.cleared (q : Submission) : Submission := { q with fates := {} }

/-- When a granted submission raises, nothing has changed, and sending it again is accepted and
recorded once. -/
def Submission.Retryable (p : Platform) (codec : ResponseCodec TelemetryResponse) (q : Submission)
    (s : ServiceState) : Prop :=
  ∀ context observation members, q.Grants p s context observation members →
    ∀ e, (ingest p codec q s).1 = .error e →
      (ingest p codec q s).2 = s ∧
      ∃ response, (ingest p codec q.cleared (ingest p codec q s).2).1 = .ok response ∧
        response.accepted = true ∧
        (ingest p codec q.cleared (ingest p codec q s).2).2.ledger =
          s.ledger ++ [observationRecord p observation]

/-- The record is appended, and the response saved if there is a key to save it under. -/
def Submission.WritesReturn (q : Submission) : Prop :=
  q.fates.append = .returns ∧ (q.key = none ∨ q.fates.save = .returns)

section Retries
variable {p : Platform} {codec : ResponseCodec TelemetryResponse} {q : Submission}
  {s : ServiceState} {context : IdempotencyContext} {observation : OperatorObservation}
  {members : Members}

/-- A record that cannot be appended leaves the claim behind. -/
theorem ingest_store_of_append (codec : ResponseCodec TelemetryResponse)
    (h : q.Grants p s context observation members)
    (happend : q.fates.append ≠ .returns) :
    (ingest p codec q s).2.store = .parsed (.object members) := by
  obtain ⟨hrun, hstore⟩ := appendObservation_fails p observation happend
    ⟨.parsed (.object members), s.ledger⟩
  rw [ingest_granted h, bind_error_run hrun, hstore]

/-- An observation that could not be recorded is a replay when it is sent again. -/
theorem retry_refused (h : q.Grants p s context observation members)
    (happend : q.fates.append ≠ .returns) :
    (ingest p codec q.cleared (ingest p codec q s).2).1 = .error replayRejected := by
  have hstore := ingest_store_of_append codec h happend
  have hstored := ingest_claimed h codec
  have hreaches : q.cleared.Reaches p (ingest p codec q s).2 context := by
    obtain ⟨request, hrequest, hcontext, hcached⟩ := h.reaches
    refine ⟨request, hrequest, ?_, hcached⟩
    rw [hstore, ← hcontext, idempotencyContext, idempotencyContext]
    simp only [h.getIdempotent]
  rw [ingest_refused hreaches h.observes rfl (claimSequence_refused hstored le_rfl)]

end Retries

/-- A submission can be retried exactly when its claim is not granted, or the writes after the
claim return. -/
theorem retryable_iff (p : Platform) (codec : ResponseCodec TelemetryResponse) (q : Submission)
    (s : ServiceState) :
    q.Retryable p codec s ↔
      ((∃ context observation members, q.Grants p s context observation members) →
        q.WritesReturn) := by
  constructor
  · rintro hretry ⟨context, observation, members, hgrants⟩
    by_contra hfails
    obtain ⟨e, he⟩ := ingest_fails hgrants codec hfails
    obtain ⟨hsame, -⟩ := hretry context observation members hgrants e he
    exact ingest_changes hgrants codec (congrArg ServiceState.store hsame)
  · intro hreturns context observation members hgrants e he
    obtain ⟨happend, hsave⟩ := hreturns ⟨context, observation, members, hgrants⟩
    obtain ⟨store, hrun, -⟩ := ingest_accepts hgrants codec happend hsave
    rw [hrun] at he
    cases he

/-- A correctly signed observation whose record cannot be appended. -/
def unrecordedSubmission : Submission :=
  sampleSubmission none "T" "A" 1 { append := .failsBefore }

theorem ingest_not_retryable :
    ¬ ∀ (p : Platform) (codec : ResponseCodec TelemetryResponse) (q : Submission)
      (s : ServiceState), q.Retryable p codec s := by
  intro h
  have hfirst : ∃ context o members,
      unrecordedSubmission.Grants samplePlatform ⟨.missing, []⟩ context o members ∧
        o.tenantId = "T" ∧ o.assetId = "A" ∧ o.sequence = 1 :=
    sample_grants _ (by decide) rfl (by decide) (by decide) (by decide) []
  obtain ⟨context, o, members, hgrants, -⟩ := hfirst
  let codec := sampleCodec none "T" "A" 1
  have hfails : unrecordedSubmission.fates.append ≠ .returns := by
    simp [unrecordedSubmission, sampleSubmission]
  obtain ⟨e, he⟩ := ingest_fails hgrants codec fun hreturns => hfails hreturns.1
  obtain ⟨-, response, hanswer, -⟩ := h samplePlatform codec unrecordedSubmission
    ⟨.missing, []⟩ context o members hgrants e he
  rw [retry_refused hgrants hfails] at hanswer
  cases hanswer

end ContinuityOS.Service
