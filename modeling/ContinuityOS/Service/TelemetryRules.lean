import ContinuityOS.Service.Telemetry

/-! # Rules for telemetry endpoints

Both endpoints are one handler: look up, answer from the store, or else accept. What the parts
of accepting keep or couple, the endpoints keep or couple.
-/
namespace ContinuityOS.Service
open Library Handler

section Parts
variable (p : Platform) (q : Submission)

def canonicalBody : Except HttpError (List UInt8) :=
  match q.content with
  | .operatorObservation payload => serialized p (.object payload)
  | .cloudEvent event => serialized p event.modelDump

/-- What an endpoint looks up among the stored responses. -/
def lookedUp : Except HttpError Request :=
  match q.content with
  | .operatorObservation _ => .ok q.request
  | .cloudEvent event =>
    if event.type ∈ supportedCloudEventTypes then do
      let body ← serialized p event.modelDump
      return ⟨some (eventKey q.request event), body, q.request.query⟩
    else .error unsupportedType

def Submission.key : Option String :=
  match q.content with
  | .operatorObservation _ => q.request.idempotencyKey
  | .cloudEvent event => some (eventKey q.request event)

/-- What an endpoint does with a submission that no response is stored for. -/
def acceptSubmission (codec : ResponseCodec TelemetryResponse) (context : IdempotencyContext) :
    Handler TelemetryResponse := do
  let body ← lift (canonicalBody p q)
  acceptOperatorPayload p codec q q.payload body context

/-- A response is stored under the key and the fingerprint of the submission. -/
def Submission.StoredIn (s : ServiceState) (text : String) : Prop :=
  ∃ request key, lookedUp p q = .ok request ∧ request.idempotencyKey = some key ∧
    validKey key = true ∧
    s.store.getIdempotent "operator-observations" key request.fingerprint = .ok (some text)

/-- The submission is looked up and nothing is stored for it. -/
def Submission.Reaches (s : ServiceState) (context : IdempotencyContext) : Prop :=
  ∃ request, lookedUp p q = .ok request ∧
    idempotencyContext s.store request "operator-observations" = .ok context ∧
    context.cached = none

end Parts

section Rules
variable {p : Platform} {codec : ResponseCodec TelemetryResponse} {q : Submission}

theorem lookedUp_key {request : Request} (h : lookedUp p q = .ok request) :
    request.idempotencyKey = q.key := by
  unfold lookedUp at h
  unfold Submission.key
  cases hcontent : q.content with
  | operatorObservation payload =>
    rw [hcontent] at h
    cases h
    rfl
  | cloudEvent event =>
    simp only [hcontent] at h
    split_ifs at h
    obtain ⟨body, -, hrequest⟩ := bind_eq_ok.mp h
    cases hrequest
    rfl

/-- Both endpoints as one handler. -/
theorem ingest_eq (p : Platform) (codec : ResponseCodec TelemetryResponse) (q : Submission) :
    ingest p codec q = (do
      let request ← lift (lookedUp p q)
      let context ← lookupIdempotency request "operator-observations"
      match context.cached with
      | some text => lift (codec.cachedResponse text)
      | none => acceptSubmission p q codec context) := by
  cases hcontent : q.content with
  | operatorObservation payload =>
    have hrequest : lookedUp p q = .ok q.request := by rw [lookedUp, hcontent]
    have haccept : ∀ context, acceptSubmission p q codec context = (do
        let body ← lift (serialized p (.object payload))
        acceptOperatorPayload p codec q payload body context) := by
      intro context
      rw [acceptSubmission, canonicalBody, Submission.payload, hcontent]
    rw [ingest, hcontent, hrequest, lift_ok_bind]
    refine bind_congr fun context => ?_
    cases context.cached with
    | some text => rfl
    | none => exact (haccept context).symm
  | cloudEvent event =>
    have haccept : ∀ context, acceptSubmission p q codec context = (do
        let body ← lift (serialized p event.modelDump)
        acceptOperatorPayload p codec q event.data body context) := by
      intro context
      rw [acceptSubmission, canonicalBody, Submission.payload, hcontent]
    have hingest : ingest p codec q = ingestCloudevent p codec q event := by rw [ingest, hcontent]
    rw [hingest, ingestCloudevent, lookedUp, hcontent]
    by_cases htype : event.type ∈ supportedCloudEventTypes
    · simp only [if_pos htype]
      cases hbody : serialized p event.modelDump with
      | ok body =>
        rw [lift_ok_bind, ok_bind, pure_eq_ok, lift_ok_bind]
        refine bind_congr fun context => ?_
        cases context.cached with
        | some text => rfl
        | none =>
          rw [haccept context, hbody]
          rfl
      | error e => rfl
    · simp only [if_neg htype]
      rfl

/-- An endpoint rejects a submission at once, answers it from the store, or tries to accept it. -/
theorem ingest_cases (p : Platform) (codec : ResponseCodec TelemetryResponse) (q : Submission)
    (s : ServiceState) :
    (∃ e, ingest p codec q s = (.error e, s)) ∨
    (∃ text, q.StoredIn p s text ∧ ingest p codec q s = (codec.cachedResponse text, s)) ∨
    ∃ context, q.Reaches p s context ∧ ingest p codec q s = acceptSubmission p q codec context s := by
  rw [ingest_eq]
  cases hrequest : lookedUp p q with
  | error e => exact Or.inl ⟨e, rfl⟩
  | ok request =>
    rw [lift_ok_bind]
    rcases idempotencyContext_cases s.store request "operator-observations" with
      ⟨e, he⟩ | hnone | ⟨key, cached, hkey, hvalid, hget, hcontext⟩
    · exact Or.inl ⟨e, bind_run_error (lookupIdempotency_run_error he) _⟩
    · right; right
      exact ⟨_, ⟨request, hrequest, hnone, rfl⟩, bind_run (lookupIdempotency_run hnone) _⟩
    · cases cached with
      | some text =>
        right; left
        refine ⟨text, ⟨request, key, hrequest, hkey, hvalid, hget⟩, ?_⟩
        rw [bind_run (lookupIdempotency_run hcontext)]
        exact lift_run _ _
      | none =>
        right; right
        exact ⟨_, ⟨request, hrequest, hcontext, rfl⟩, bind_run (lookupIdempotency_run hcontext) _⟩

theorem ingest_stored {s : ServiceState} {text : String} (h : q.StoredIn p s text) :
    ingest p codec q s = (codec.cachedResponse text, s) := by
  obtain ⟨request, key, hrequest, hkey, hvalid, hget⟩ := h
  rw [ingest_eq, hrequest, lift_ok_bind,
    bind_run (lookupIdempotency_run (idempotencyContext_eq hkey hvalid hget))]
  exact lift_run _ _

theorem ingest_reaches {s : ServiceState} {context : IdempotencyContext}
    (h : q.Reaches p s context) :
    ingest p codec q s = acceptSubmission p q codec context s := by
  obtain ⟨request, hrequest, hcontext, hcached⟩ := h
  rw [ingest_eq, hrequest, lift_ok_bind, bind_run (lookupIdempotency_run hcontext), hcached]

/-- The context of a request names its key, if it names one. -/
theorem answers_lookup {request : Request} {space : String} {context : IdempotencyContext}
    (h : Answers (lookupIdempotency request space) context) :
    ∀ key, context.key = some key → request.idempotencyKey = some key := by
  obtain ⟨s, hs⟩ := h
  rw [lookupIdempotency, lift_run] at hs
  rcases idempotencyContext_cases s.store request space with
    ⟨e, he⟩ | hnone | ⟨key, cached, hkey, -, -, hcontext⟩
  · rw [he] at hs
    cases hs
  · rw [hnone] at hs
    cases hs
    simp
  · rw [hcontext] at hs
    cases hs
    intro key' hkey'
    rwa [hkey]

theorem key_of_lookup {request : Request} {context : IdempotencyContext}
    (hrequest : lookedUp p q = .ok request)
    (hcontext : Answers (lookupIdempotency request "operator-observations") context) :
    ∀ key, context.key = some key → q.key = some key := by
  intro key hkey
  rw [← lookedUp_key hrequest]
  exact answers_lookup hcontext key hkey

/-- The parts of accepting keep a property, for the observations and keys at hand. -/
structure AcceptKeeps (I : ServiceState → Prop) (p : Platform)
    (codec : ResponseCodec TelemetryResponse) (q : Submission)
    (observation : OperatorObservation) : Prop where
  claim : Keeps I (claimObservation p q observation)
  append : Keeps I (appendObservation p q observation)
  save : ∀ context : IdempotencyContext, (∀ key, context.key = some key → q.key = some key) →
    Keeps I (saveObservation codec q context ⟨true, observation⟩)

theorem keeps_ingest {I : ServiceState → Prop}
    (h : ∀ body observation, canonicalBody p q = .ok body →
      validatedObservation p q q.payload body = .ok observation →
      AcceptKeeps I p codec q observation) : Keeps I (ingest p codec q) := by
  rw [ingest_eq]
  refine Keeps.bind (keeps_lift _) fun request hrequest => ?_
  refine Keeps.bind (keeps_lookup _ _) fun context hcontext => ?_
  cases context.cached with
  | some text => exact keeps_lift _
  | none =>
    refine Keeps.bind (keeps_lift _) fun body hbody => ?_
    refine Keeps.bind (keeps_lift _) fun observation hobservation => ?_
    have hparts := h body observation (answers_lift hbody) (answers_lift hobservation)
    refine Keeps.bind hparts.claim fun claimed _ => ?_
    cases claimed with
    | false => exact keeps_raise _
    | true =>
      have hkey := key_of_lookup (answers_lift hrequest) hcontext
      exact Keeps.bind hparts.append fun _ _ =>
        Keeps.bind (hparts.save context hkey) fun _ _ => keeps_pure _

end Rules

end ContinuityOS.Service
