import ContinuityOS.Service.Acceptance

/-! # Authentication of telemetry

A stored response answers a request before its signature is looked at. Every response that is
stored for telemetry is one that accepts, so requests whose signature fails are accepted
exactly when a response is stored for them.
-/
namespace ContinuityOS.Service
open Library Handler

section Events

/-- The spaces in which the other handlers keep their responses. -/
def otherSpaces : List String :=
  ["public_snapshot", "public_indicators", "assess", "regression", "graph-analyze", "compile",
    "verify-reserve", "decision-packets", "strategic-analyze", "cap-alerts"]

/-- The calls that the other handlers make of the store. -/
def Call.FromOtherHandlers : Call → Prop
  | .claimSequence _ _ _ => False
  | .saveIdempotent space _ _ _ => space ∈ otherSpaces
  | .setValue name _ _ => name = "strategic" ∨ name = "strategic_alerts"
  | .getIdempotent _ _ _ => True
  | .getValue _ _ => True

inductive TelemetryEvent where
  | submit (q : Submission)
  | other (e : Event)

variable (p : Platform) (codec : ResponseCodec TelemetryResponse)

def telemetryStep (s : ServiceState) : TelemetryEvent → ServiceState
  | .submit q => (ingest p codec q s).2
  | .other e => { s with store := applyEvent p.int s.store e }

def runTelemetry (s : ServiceState) (events : List TelemetryEvent) : ServiceState :=
  events.foldl (telemetryStep p codec) s

/-- The accepting response to the submission is read back from its text. -/
def Submission.ReadsBack (q : Submission) : Prop :=
  ∀ body observation, canonicalBody p q = .ok body →
    validatedObservation p q q.payload body = .ok observation →
    codec.ReadsBack ⟨true, observation⟩

/-- Submissions are read back, and other events are calls of other handlers. -/
def TelemetryEvent.Admissible : TelemetryEvent → Prop
  | .submit q => q.ReadsBack p codec
  | .other e => e.call.FromOtherHandlers

/-- The signature of the submission verifies for its own time and canonical body. -/
def Submission.Verifies (q : Submission) : Prop :=
  ∃ secret body, p.operatorWebhookSecret = some secret ∧ canonicalBody p q = .ok body ∧
    verifyOperatorSignature p body q.timestamp q.signature secret q.seconds = .ok ()

/-- Every response that is stored for telemetry accepts. -/
def StoredAccepted (s : ServiceState) : Prop :=
  ∀ key fingerprint text,
    s.store.getIdempotent "operator-observations" key fingerprint = .ok (some text) →
    ∃ response, codec.cachedResponse text = .ok response ∧ response.accepted = true

end Events

section Steps
variable {p : Platform} {codec : ResponseCodec TelemetryResponse} {q : Submission}
  {s : ServiceState}

theorem authenticObservation_verifies {secret : String} {payload : Members} {body : List UInt8}
    {observation : OperatorObservation}
    (h : authenticObservation p q secret payload body = .ok observation) :
    verifyOperatorSignature p body q.timestamp q.signature secret q.seconds = .ok () := by
  obtain ⟨_, hverify, -⟩ := bind_eq_ok.mp h
  exact hverify

theorem validatedObservation_verifies {body : List UInt8} {observation : OperatorObservation}
    (hbody : canonicalBody p q = .ok body)
    (h : validatedObservation p q q.payload body = .ok observation) : q.Verifies p := by
  unfold validatedObservation at h
  cases hsecret : p.operatorWebhookSecret with
  | none => simp [hsecret] at h
  | some secret =>
    cases hauthentic : authenticObservation p q secret q.payload body with
    | error e => simp [hsecret, hauthentic] at h
    | ok o => exact ⟨secret, body, hsecret, hbody, authenticObservation_verifies hauthentic⟩

/-- The signature plays no part in what a submission finds stored. -/
theorem storedIn_signature {text signature : String} :
    Submission.StoredIn p { q with signature := signature } s text ↔ q.StoredIn p s text := Iff.rfl

/-- What is accepted without a stored response has been verified. -/
theorem acceptSubmission_verifies {context : IdempotencyContext} {response : TelemetryResponse}
    (h : (acceptSubmission p q codec context s).1 = .ok response) : q.Verifies p := by
  unfold acceptSubmission at h
  cases hbody : canonicalBody p q with
  | error e =>
    rw [hbody, lift_error_bind] at h
    cases h
  | ok body =>
    rw [hbody, lift_ok_bind, acceptOperatorPayload] at h
    cases hvalidated : validatedObservation p q q.payload body with
    | error e =>
      rw [hvalidated, lift_error_bind] at h
      cases h
    | ok observation => exact validatedObservation_verifies hbody hvalidated

/-- A submission that is answered without its signature verifying is answered from the store. -/
theorem ingest_unverified {response : TelemetryResponse}
    (h : (ingest p codec q s).1 = .ok response) (hverifies : ¬ q.Verifies p) :
    ∃ text, q.StoredIn p s text := by
  rcases ingest_cases p codec q s with ⟨e, he⟩ | ⟨text, hstored, -⟩ | ⟨context, -, hrun⟩
  · rw [he] at h
    cases h
  · exact ⟨text, hstored⟩
  · rw [hrun] at h
    exact absurd (acceptSubmission_verifies h) hverifies

theorem storedAccepted_of_lookup {t : ServiceState} (hs : StoredAccepted codec s)
    (hlookup : ∀ key fingerprint, t.store.getIdempotent "operator-observations" key fingerprint =
      s.store.getIdempotent "operator-observations" key fingerprint) : StoredAccepted codec t := by
  intro key fingerprint text htext
  exact hs key fingerprint text ((hlookup key fingerprint).symm.trans htext)

/-- A saved response is found under its own key only. -/
theorem storedAccepted_save {members : Members} {space key fingerprint text : String}
    (hs : StoredAccepted codec s)
    (hsave : s.store.saveIdempotent space key fingerprint text = .ok members)
    (htext : (∃ k, recordKey space key = recordKey "operator-observations" k) →
      ∃ response, codec.cachedResponse text = .ok response ∧ response.accepted = true) :
    StoredAccepted codec { s with store := .parsed (.object members) } := by
  intro key' fingerprint' text' hget
  rw [StateFile.getIdempotent_saveIdempotent hsave] at hget
  split_ifs at hget with hkey hfingerprint
  · cases hget
    exact htext ⟨key', hkey⟩
  · exact hs key' fingerprint' text' hget

theorem claimObservation_keeps (observation : OperatorObservation) :
    Keeps (StoredAccepted codec) (claimObservation p q observation) := by
  apply keeps_replaceStore
  intro s members hs hclaim
  obtain ⟨state, sequences, hread, -, -, rfl⟩ := StateFile.claimSequence_writes hclaim
  exact storedAccepted_of_lookup hs fun key fingerprint =>
    StateFile.getIdempotent_assign hread (by decide) _ _ _ _

theorem appendObservation_keeps (observation : OperatorObservation) :
    Keeps (StoredAccepted codec) (appendObservation p q observation) := by
  intro s hs
  unfold appendObservation
  cases q.fates.append <;> exact hs

theorem saveObservation_keeps {observation : OperatorObservation}
    (hread : codec.ReadsBack ⟨true, observation⟩) (context : IdempotencyContext) :
    Keeps (StoredAccepted codec) (saveObservation codec q context ⟨true, observation⟩) := by
  unfold saveObservation
  split
  · refine Keeps.bind (keeps_replaceStore ?_ _) fun _ _ => keeps_pure _
    intro s members hs hsave
    obtain ⟨saved, hsaved, hsome⟩ := map_eq_ok.mp hsave
    cases hsome
    exact storedAccepted_save hs hsaved fun _ => ⟨_, codec.cachedResponse_dump hread, rfl⟩
  · exact keeps_pure _

theorem ingest_keeps_accepted (hread : q.ReadsBack p codec) :
    Keeps (StoredAccepted codec) (ingest p codec q) := by
  apply keeps_ingest
  intro body observation hbody hobservation
  exact
    { claim := claimObservation_keeps observation
      append := appendObservation_keeps observation
      save := fun context _ =>
        saveObservation_keeps (hread body observation hbody hobservation) context }

/-- No other space has records that telemetry finds. -/
theorem recordKey_otherSpaces {space : String} (h : space ∈ otherSpaces) (key key' : String) :
    recordKey space key ≠ recordKey "operator-observations" key' := by
  have hcolon : ':' ∉ space.toList ∧ space ≠ "operator-observations" := by
    revert h
    simp only [otherSpaces, List.mem_cons, List.not_mem_nil, or_false]
    rintro (rfl | rfl | rfl | rfl | rfl | rfl | rfl | rfl | rfl | rfl) <;> decide
  intro heq
  exact hcolon.2 (recordKey_inj hcolon.1 (by decide) heq).1

/-- Calls of other handlers leave the stored telemetry responses alone. -/
theorem applyEvent_keeps_accepted {e : Event} (h : e.call.FromOtherHandlers)
    (hs : StoredAccepted codec s) :
    StoredAccepted codec { s with store := applyEvent p.int s.store e } := by
  rcases applyEvent_cases p.int s.store e with hsame | ⟨members, hmembers, happly⟩
  · rw [hsame]
    exact hs
  · rw [happly]
    obtain ⟨call, fate⟩ := e
    cases call with
    | claimSequence tenantId assetId sequence => exact absurd h id
    | saveIdempotent space key fingerprint response =>
      obtain ⟨saved, hsaved, hsome⟩ := bind_eq_ok.mp hmembers
      cases hsome
      exact storedAccepted_save hs hsaved fun ⟨k, hk⟩ =>
        absurd hk (recordKey_otherSpaces h key k)
    | getIdempotent space key fingerprint =>
      obtain ⟨_, -, hnone⟩ := bind_eq_ok.mp hmembers
      cases hnone
    | getValue name key =>
      obtain ⟨_, -, hnone⟩ := bind_eq_ok.mp hmembers
      cases hnone
    | setValue name key value =>
      obtain ⟨saved, hsaved, hsome⟩ := bind_eq_ok.mp hmembers
      cases hsome
      obtain ⟨state, found, hread, -, rfl⟩ := StateFile.setValue_writes hsaved
      have hname : name ≠ "idempotency" := by
        rcases h with rfl | rfl <;> decide
      exact storedAccepted_of_lookup hs fun key fingerprint =>
        StateFile.getIdempotent_assign hread hname _ _ _ _

theorem telemetryStep_keeps_accepted {e : TelemetryEvent} (h : e.Admissible p codec)
    (hs : StoredAccepted codec s) : StoredAccepted codec (telemetryStep p codec s e) := by
  cases e with
  | submit q => exact ingest_keeps_accepted h s hs
  | other e => exact applyEvent_keeps_accepted h hs

theorem runTelemetry_keeps_accepted {events : List TelemetryEvent}
    (h : ∀ e ∈ events, e.Admissible p codec) (hs : StoredAccepted codec s) :
    StoredAccepted codec (runTelemetry p codec s events) := by
  induction events generalizing s with
  | nil => exact hs
  | cons e events ih =>
    rw [List.forall_mem_cons] at h
    exact ih h.2 (telemetryStep_keeps_accepted h.1 hs)

theorem storedAccepted_missing (ledger : List LedgerRecord) :
    StoredAccepted codec ⟨.missing, ledger⟩ := by
  intro key fingerprint text htext
  cases htext

end Steps

/-- In every state that a run reaches, a submission is accepted only with a signature that
verifies, exactly when its signature verifies or no response is stored for it. -/
theorem ingest_authentic_iff (p : Platform) (codec : ResponseCodec TelemetryResponse)
    (ledger : List LedgerRecord) (events : List TelemetryEvent)
    (hevents : ∀ e ∈ events, e.Admissible p codec) (q : Submission) :
    (∀ response, (ingest p codec q (runTelemetry p codec ⟨.missing, ledger⟩ events)).1 =
        .ok response → response.accepted = true → q.Verifies p) ↔
      q.Verifies p ∨
        ∀ text, ¬ q.StoredIn p (runTelemetry p codec ⟨.missing, ledger⟩ events) text := by
  have hinvariant : StoredAccepted codec (runTelemetry p codec ⟨.missing, ledger⟩ events) :=
    runTelemetry_keeps_accepted hevents (storedAccepted_missing ledger)
  constructor
  · intro hauthentic
    by_contra hcondition
    rw [not_or, not_forall_not] at hcondition
    obtain ⟨hverifies, text, hstored⟩ := hcondition
    obtain ⟨request, key, -, -, -, hget⟩ := id hstored
    obtain ⟨response, hcached, haccepted⟩ := hinvariant key request.fingerprint text hget
    apply hverifies
    apply hauthentic response _ haccepted
    rw [ingest_stored hstored, hcached]
  · rintro (hverifies | hunstored) response hanswer _
    · exact hverifies
    · by_contra hverifies
      obtain ⟨text, hstored⟩ := ingest_unverified hanswer hverifies
      exact hunstored text hstored

section Samples

/-- A keyed observation with its signature. -/
def keyedSubmission : Submission := sampleSubmission (some "k1") "T" "A" 1

/-- The same request without the signature. -/
def unsignedSubmission : Submission := { keyedSubmission with signature := "" }

def keyedCodec : ResponseCodec TelemetryResponse := sampleCodec (some "k1") "T" "A" 1

theorem keyedSubmission_admissible :
    ∀ e ∈ [TelemetryEvent.submit keyedSubmission], e.Admissible samplePlatform keyedCodec := by
  intro e he
  obtain rfl : e = .submit keyedSubmission := List.mem_singleton.mp he
  intro body observation hbody hobservation
  exact sampleCodec_readsBack _ ⟨body, hbody, hobservation⟩

theorem unsignedSubmission_not_verifies : ¬ unsignedSubmission.Verifies samplePlatform := by
  rintro ⟨secret, body, -, -, hverify⟩
  have hlength := verifyOperatorSignature_length hverify
  exact absurd hlength (by decide)

theorem ingest_authentic_iff_witness :
    (∀ response, (ingest samplePlatform keyedCodec unsignedSubmission
        (runTelemetry samplePlatform keyedCodec ⟨.missing, []⟩ [.submit keyedSubmission])).1 =
        .ok response → response.accepted = true → unsignedSubmission.Verifies samplePlatform) ↔
      unsignedSubmission.Verifies samplePlatform ∨
        ∀ text, ¬ unsignedSubmission.StoredIn samplePlatform
          (runTelemetry samplePlatform keyedCodec ⟨.missing, []⟩ [.submit keyedSubmission]) text :=
  ingest_authentic_iff samplePlatform keyedCodec [] [.submit keyedSubmission]
    keyedSubmission_admissible unsignedSubmission

/-- Once the signed request is accepted, the unsigned one is answered with its response. -/
theorem ingest_unauthentic :
    ¬ ∀ (p : Platform) (codec : ResponseCodec TelemetryResponse) (ledger : List LedgerRecord)
      (events : List TelemetryEvent), (∀ e ∈ events, e.Admissible p codec) →
      ∀ (q : Submission) (response : TelemetryResponse),
        (ingest p codec q (runTelemetry p codec ⟨.missing, ledger⟩ events)).1 = .ok response →
        response.accepted = true → q.Verifies p := by
  intro h
  have hfirst : ∃ context o members,
      keyedSubmission.Grants samplePlatform ⟨.missing, []⟩ context o members ∧
        o.tenantId = "T" ∧ o.assetId = "A" ∧ o.sequence = 1 :=
    sample_grants {} (by decide) rfl (by decide) (by decide) (by decide) []
  obtain ⟨context, o, members, hgrants, -⟩ := hfirst
  obtain ⟨store, hrun, hstored⟩ := ingest_accepts hgrants keyedCodec rfl (Or.inr rfl)
  have hread : keyedCodec.ReadsBack ⟨true, o⟩ := sampleCodec_readsBack _ hgrants.observes
  have hreplay : unsignedSubmission.StoredIn samplePlatform
      ⟨store, [] ++ [observationRecord samplePlatform o]⟩ (keyedCodec.dump ⟨true, o⟩) :=
    storedIn_signature.mpr (hstored (by simp [keyedSubmission, Submission.key, sampleSubmission]))
  have hafter : runTelemetry samplePlatform keyedCodec ⟨.missing, []⟩ [.submit keyedSubmission] =
      ⟨store, [] ++ [observationRecord samplePlatform o]⟩ := by
    rw [runTelemetry, List.foldl_cons, List.foldl_nil, telemetryStep, hrun]
  have hanswer : (ingest samplePlatform keyedCodec unsignedSubmission
      (runTelemetry samplePlatform keyedCodec ⟨.missing, []⟩ [.submit keyedSubmission])).1 =
      .ok ⟨true, o⟩ := by
    rw [hafter, ingest_stored hreplay, keyedCodec.cachedResponse_dump hread]
  exact unsignedSubmission_not_verifies (h samplePlatform keyedCodec [] [.submit keyedSubmission]
    keyedSubmission_admissible unsignedSubmission ⟨true, o⟩ hanswer rfl)

end Samples

end ContinuityOS.Service
