import ContinuityOS.Service.TelemetryChecks
import ContinuityOS.Service.TelemetryRules

/-! # Acceptance of telemetry

Once the sequence of a valid submission is claimed, the number stays stored whatever follows;
the submission is accepted when the writes after the claim return, and fails when one of them
does.
-/
namespace ContinuityOS.Service
open Library Handler

section Claims
variable {r : IntReading} {file : StateFile} {tenantId assetId : String} {sequence stored : ℤ}

/-- A number that is not above the stored one is refused. -/
theorem claimSequence_refused
    (h : storedSequence r (recordKey tenantId assetId) file = some stored)
    (hle : sequence ≤ stored) : file.claimSequence r tenantId assetId sequence = .ok none := by
  unfold storedSequence at h
  cases hread : file.readUnlocked with
  | error e => simp [sequenceTable, hread, present, Bindings.lookup] at h
  | ok state =>
    rw [sequenceTable_readUnlocked hread, ← sectionOf] at h
    cases hsection : sectionOf state "telemetry_sequences" with
    | object sequences =>
      rw [hsection] at h
      obtain ⟨found, hfound, hint⟩ := Option.bind_eq_some_iff.mp h
      simp [StateFile.claimSequence, hread, hsection, asObject, hfound, hint, hle]
    | _ => simp [hsection] at h

end Claims

section Acceptance
variable {p : Platform} {codec : ResponseCodec TelemetryResponse} {q : Submission}
  {s : ServiceState} {context : IdempotencyContext} {observation : OperatorObservation}
  {members : Members}

/-- The observation of a submission is valid. -/
def Submission.Observes (p : Platform) (q : Submission) (observation : OperatorObservation) : Prop :=
  ∃ body, canonicalBody p q = .ok body ∧
    validatedObservation p q q.payload body = .ok observation

/-- A submission reaches its sequence claim, and the claim is granted. -/
structure Submission.Grants (p : Platform) (q : Submission) (s : ServiceState)
    (context : IdempotencyContext) (observation : OperatorObservation) (members : Members) :
    Prop where
  reaches : q.Reaches p s context
  observes : q.Observes p observation
  returns : q.fates.claim = .returns
  claims : s.store.claimSequence p.int observation.tenantId observation.assetId
    observation.sequence = .ok (some members)

theorem replaceStore_granted {call : StateFile → Except StateError (Option Members)}
    (h : call s.store = .ok (some members)) :
    replaceStore .returns call s = (.ok true, ⟨.parsed (.object members), s.ledger⟩) := by
  simp only [replaceStore, h]

theorem acceptSubmission_of_observes (h : q.Observes p observation)
    (codec : ResponseCodec TelemetryResponse) (context : IdempotencyContext) :
    acceptSubmission p q codec context = (do
      let claimed ← claimObservation p q observation
      if claimed then do
        appendObservation p q observation
        let response := ⟨true, observation⟩
        saveObservation codec q context response
        return response
      else raise replayRejected) := by
  obtain ⟨body, hbody, hvalidated⟩ := h
  rw [acceptSubmission, hbody, lift_ok_bind, acceptOperatorPayload, hvalidated, lift_ok_bind]

/-- After a granted claim the ledger and the stored responses are extended. -/
theorem ingest_granted (h : q.Grants p s context observation members)
    (codec : ResponseCodec TelemetryResponse) :
    ingest p codec q s = (do
      appendObservation p q observation
      saveObservation codec q context ⟨true, observation⟩
      return ⟨true, observation⟩ : Handler TelemetryResponse)
        ⟨.parsed (.object members), s.ledger⟩ := by
  have hclaim : claimObservation p q observation s =
      (.ok true, ⟨.parsed (.object members), s.ledger⟩) := by
    rw [claimObservation, h.returns]
    exact replaceStore_granted h.claims
  rw [ingest_reaches h.reaches, acceptSubmission_of_observes h.observes, bind_run hclaim]
  rfl

/-- A claim that is not granted is answered as a replay. -/
theorem ingest_refused (hreaches : q.Reaches p s context) (hobserves : q.Observes p observation)
    (hreturns : q.fates.claim = .returns)
    (hclaim : s.store.claimSequence p.int observation.tenantId observation.assetId
      observation.sequence = .ok none) :
    ingest p codec q s = (.error replayRejected, s) := by
  have hrun : claimObservation p q observation s = (.ok false, s) := by
    simp only [claimObservation, hreturns, replaceStore, hclaim]
  rw [ingest_reaches hreaches, acceptSubmission_of_observes hobserves, bind_run hrun]
  rfl

/-- A granted claim leaves the stored responses alone. -/
theorem Submission.Grants.getIdempotent (h : q.Grants p s context observation members)
    (space key fingerprint : String) :
    (StateFile.parsed (.object members)).getIdempotent space key fingerprint =
      s.store.getIdempotent space key fingerprint := by
  obtain ⟨state, sequences, hread, -, -, rfl⟩ := StateFile.claimSequence_writes h.claims
  exact StateFile.getIdempotent_assign hread (by decide) _ _ _ _

/-- A submission that reaches the claim has no key, or a usable one that nothing is stored
under. -/
theorem Submission.Reaches.context_cases (h : q.Reaches p s context) :
    (q.key = none ∧ context = ⟨none, none, none⟩) ∨
    ∃ request key, q.key = some key ∧ lookedUp p q = .ok request ∧
      request.idempotencyKey = some key ∧ validKey key = true ∧
      s.store.getIdempotent "operator-observations" key request.fingerprint = .ok none ∧
      context = ⟨some key, some request.fingerprint, none⟩ := by
  obtain ⟨request, hrequest, hcontext, hcached⟩ := h
  have hsame : request.idempotencyKey = q.key := lookedUp_key hrequest
  cases hkey : request.idempotencyKey with
  | none =>
    rw [idempotencyContext, hkey] at hcontext
    exact Or.inl ⟨hsame.symm.trans hkey, (Except.ok.inj hcontext).symm⟩
  | some key =>
    rcases idempotencyContext_cases s.store request "operator-observations" with
      ⟨e, he⟩ | hnone | ⟨key', cached, hkey', hvalid, hget, hfound⟩
    · rw [he] at hcontext
      cases hcontext
    · simp only [idempotencyContext, hkey] at hnone
      split_ifs at hnone
      obtain ⟨_, -, hnone⟩ := bind_eq_ok.mp hnone
      cases hnone
    · rw [hfound] at hcontext
      cases hcontext
      cases hcached
      exact Or.inr ⟨request, key', (hsame.symm.trans hkey'), hrequest, hkey', hvalid, hget, rfl⟩

/-- The save after a granted claim answers unless its write fails, and what it saves is found. -/
theorem Submission.Grants.save_run (h : q.Grants p s context observation members)
    (codec : ResponseCodec TelemetryResponse) (ledger : List LedgerRecord) :
    (q.key = none ∨ q.fates.save = .returns →
      ∃ store, saveObservation codec q context ⟨true, observation⟩
          ⟨.parsed (.object members), ledger⟩ = (.ok (), ⟨store, ledger⟩) ∧
        (q.key ≠ none → q.StoredIn p ⟨store, ledger⟩ (codec.dump ⟨true, observation⟩))) ∧
    (¬ (q.key = none ∨ q.fates.save = .returns) →
      ∃ e, (saveObservation codec q context ⟨true, observation⟩
        ⟨.parsed (.object members), ledger⟩).1 = .error e) := by
  rcases h.reaches.context_cases with
    ⟨hkey, rfl⟩ | ⟨request, key, hkey, hrequest, hrequestKey, hvalid, hget, rfl⟩
  · exact ⟨fun _ => ⟨_, rfl, fun hne => absurd hkey hne⟩, fun hnot => absurd (Or.inl hkey) hnot⟩
  · rw [← h.getIdempotent] at hget
    obtain ⟨saved, hsaved⟩ :=
      StateFile.saveIdempotent_of_getIdempotent hget (codec.dump ⟨true, observation⟩)
    have hcall : some <$> (StateFile.parsed (.object members)).saveIdempotent
        "operator-observations" key request.fingerprint (codec.dump ⟨true, observation⟩) =
        .ok (some saved) := by
      rw [hsaved]
      rfl
    constructor
    · intro hreturns
      have hsave : q.fates.save = .returns := by
        rcases hreturns with hnone | hsave
        · rw [hkey] at hnone
          cases hnone
        · exact hsave
      refine ⟨.parsed (.object saved), ?_, ?_⟩
      · simp only [saveObservation, hsave]
        rw [bind_run (replaceStore_granted hcall)]
        rfl
      · intro _
        refine ⟨request, key, hrequest, hrequestKey, hvalid, ?_⟩
        rw [StateFile.getIdempotent_saveIdempotent hsaved, if_pos rfl, if_pos rfl]
    · intro hnot
      rw [not_or] at hnot
      cases hsave : q.fates.save with
      | returns => exact absurd hsave hnot.2
      | failsBefore =>
        refine ⟨internalServerError, ?_⟩
        simp only [saveObservation, hsave]
        rfl
      | failsAfter =>
        have hrun : (replaceStore .failsAfter (fun store => some <$> store.saveIdempotent
            "operator-observations" key request.fingerprint (codec.dump ⟨true, observation⟩))
            ⟨.parsed (.object members), ledger⟩).1 = .error internalServerError := by
          simp only [replaceStore, hcall]
        refine ⟨internalServerError, ?_⟩
        simp only [saveObservation, hsave]
        rw [bind_error_run hrun]

theorem appendObservation_run (p : Platform) (observation : OperatorObservation)
    (h : q.fates.append = .returns) (s : ServiceState) :
    appendObservation p q observation s = (.ok (), s.append (observationRecord p observation)) := by
  rw [appendObservation, h]

/-- A failing append raises and leaves the store. -/
theorem appendObservation_fails (p : Platform) (observation : OperatorObservation)
    (h : q.fates.append ≠ .returns) (s : ServiceState) :
    (appendObservation p q observation s).1 = .error internalServerError ∧
      (appendObservation p q observation s).2.store = s.store := by
  unfold appendObservation
  cases hfate : q.fates.append with
  | returns => exact absurd hfate h
  | failsBefore => exact ⟨rfl, rfl⟩
  | failsAfter => exact ⟨rfl, rfl⟩

/-- A granted submission is accepted when its writes return: one record is appended, and under a
key the response is stored. -/
theorem ingest_accepts (h : q.Grants p s context observation members)
    (codec : ResponseCodec TelemetryResponse) (happend : q.fates.append = .returns)
    (hsave : q.key = none ∨ q.fates.save = .returns) :
    ∃ store, ingest p codec q s = (.ok ⟨true, observation⟩,
        ⟨store, s.ledger ++ [observationRecord p observation]⟩) ∧
      (q.key ≠ none → q.StoredIn p ⟨store, s.ledger ++ [observationRecord p observation]⟩
        (codec.dump ⟨true, observation⟩)) := by
  obtain ⟨store, hrun, hstored⟩ :=
    (h.save_run codec (s.ledger ++ [observationRecord p observation])).1 hsave
  refine ⟨store, ?_, hstored⟩
  rw [ingest_granted h, bind_run (appendObservation_run p observation happend _)]
  exact bind_run hrun _

/-- A granted submission fails when one of its later writes does. -/
theorem ingest_fails (h : q.Grants p s context observation members)
    (codec : ResponseCodec TelemetryResponse)
    (hfails : ¬ (q.fates.append = .returns ∧ (q.key = none ∨ q.fates.save = .returns))) :
    ∃ e, (ingest p codec q s).1 = .error e := by
  rw [ingest_granted h]
  by_cases happend : q.fates.append = .returns
  · obtain ⟨e, he⟩ := (h.save_run codec (s.ledger ++ [observationRecord p observation])).2
      fun hsave => hfails ⟨happend, hsave⟩
    rw [bind_run (appendObservation_run p observation happend _)]
    exact ⟨e, congrArg Prod.fst (bind_error_run he _)⟩
  · obtain ⟨hrun, -⟩ := appendObservation_fails p observation happend
      ⟨.parsed (.object members), s.ledger⟩
    rw [bind_error_run hrun]
    exact ⟨_, rfl⟩

/-- The parts after the claim leave the table of sequences. -/
theorem appendObservation_keeps_store {I : StateFile → Prop} (observation : OperatorObservation) :
    Keeps (fun s => I s.store) (appendObservation p q observation) := by
  intro s hs
  unfold appendObservation
  cases q.fates.append <;> exact hs

theorem saveObservation_keeps_sequence (key : String) (n : Option ℤ)
    (context : IdempotencyContext) (response : TelemetryResponse) :
    Keeps (fun s => storedSequence p.int key s.store = n)
      (saveObservation codec q context response) := by
  unfold saveObservation
  split
  · refine Keeps.bind (keeps_replaceStore ?_ _) fun _ _ => keeps_pure _
    intro s saved hs hsave
    obtain ⟨members, hmembers, hsome⟩ := map_eq_ok.mp hsave
    cases hsome
    obtain ⟨state, records, hread, -, rfl⟩ := StateFile.saveIdempotent_writes hmembers
    rw [storedSequence, sequenceTable_assign hread (by decide)]
    exact hs
  · exact keeps_pure _

/-- Whatever follows a granted claim, the claimed number stays stored. -/
theorem ingest_claimed (h : q.Grants p s context observation members)
    (codec : ResponseCodec TelemetryResponse) :
    storedSequence p.int (recordKey observation.tenantId observation.assetId)
      (ingest p codec q s).2.store = some observation.sequence := by
  have hstored := (storedSequence_claim h.claims
    (recordKey observation.tenantId observation.assetId)).2
  rw [if_pos rfl] at hstored
  have hkeeps : Keeps (fun s => storedSequence p.int
      (recordKey observation.tenantId observation.assetId) s.store = some observation.sequence)
      (do
        appendObservation p q observation
        saveObservation codec q context ⟨true, observation⟩
        return ⟨true, observation⟩ : Handler TelemetryResponse) :=
    Keeps.bind (appendObservation_keeps_store
        (I := fun file => storedSequence p.int
          (recordKey observation.tenantId observation.assetId) file = some observation.sequence)
        observation) fun _ _ =>
      Keeps.bind (saveObservation_keeps_sequence _ _ context _) fun _ _ => keeps_pure _
  rw [ingest_granted h]
  exact hkeeps _ hstored

/-- A granted claim changes the state for good. -/
theorem ingest_changes (h : q.Grants p s context observation members)
    (codec : ResponseCodec TelemetryResponse) : (ingest p codec q s).2.store ≠ s.store := by
  intro hsame
  have hstored := ingest_claimed h codec
  rw [hsame] at hstored
  exact lt_irrefl _ ((storedSequence_claim h.claims
    (recordKey observation.tenantId observation.assetId)).1 rfl _ hstored)

end Acceptance

section Samples

def sampleSecret : String := "0123456789abcdef0123456789abcdef"

def sampleFloatText (q : ℚ) : String := if q = 1 then "1.0" else "0.95"

def sampleTimeText (t : Instant) : String :=
  if t = 0 then "1970-01-01T00:00:00Z" else "1970-01-01T00:01:40Z"

/-- A platform that reads the values of the samples. -/
def samplePlatform : Platform where
  operatorWebhookSecret := some sampleSecret
  int := ⟨fun _ => none, fun text => if text = "100" then some 100 else none⟩
  float := ⟨fun _ => .notFinite, fun _ => none⟩
  fromisoformat text :=
    if text = "1970-01-01T00:00:00+00:00" then .ok 0 else .error "Invalid isoformat string"
  str _ := ""
  repr text := "'" ++ text ++ "'"
  validationText _ _ _ _ := "Value error"
  observationText o := String.ofList (o.toJson sampleFloatText sampleTimeText).dumps
  dumpsSorted value := some (encodeUtf8 value.sortKeys.dumps)

def samplePayload (tenantId assetId : String) (sequence : ℤ) : Members :=
  [("tenant_id", .string tenantId), ("asset_id", .string assetId), ("sequence", .int sequence),
    ("metric", .string "port_capacity"), ("observed_at", .string "1970-01-01T00:00:00Z"),
    ("value", .int 1), ("unit", .string "ratio")]

def sampleBody (tenantId assetId : String) (sequence : ℤ) : List UInt8 :=
  encodeUtf8 (Json.object (samplePayload tenantId assetId sequence)).sortKeys.dumps

/-- A correctly signed operator observation. -/
def sampleSubmission (key : Option String) (tenantId assetId : String) (sequence : ℤ)
    (fates : Fates := {}) : Submission where
  request := ⟨key, sampleBody tenantId assetId sequence, ""⟩
  timestamp := "100"
  signature := "sha256=" ++ expectedSignature sampleSecret "100"
    (sampleBody tenantId assetId sequence)
  content := .operatorObservation (samplePayload tenantId assetId sequence)
  now := 100000000
  observationId := "11111111-1111-4111-8111-111111111111"
  fates := fates

theorem buildObservation_sample (observationId : String)
    (metadata : Dict String MetadataValue) :
    ∃ o, buildObservation samplePlatform observationId .liveCapacity .portCapacity "ratio" 0
      (.finite 1) (.finite (95 / 100)) metadata = .ok o := by
  have hvalid : (1 ≤ "ratio".length ∧ "ratio".length ≤ 32) ∧
      (0 ≤ (95 / 100 : ℚ) ∧ (95 / 100 : ℚ) ≤ 1) ∧ ValidValue .portCapacity "ratio" 1 := by
    with_unfolding_all decide
  rw [buildObservation, dif_pos hvalid]
  exact ⟨_, rfl⟩

theorem normalized_sample (observationId : String) (retrievedAt : Instant) {tenantId assetId : String}
    {sequence : ℤ} (htenant : isBlank tenantId = false) (hasset : isBlank assetId = false)
    (hsequence : 0 ≤ sequence) (body : List UInt8) :
    ∃ o, normalizedOperatorObservation samplePlatform observationId retrievedAt
        (samplePayload tenantId assetId sequence) body = .ok o ∧
      o.tenantId = tenantId ∧ o.assetId = assetId ∧ o.sequence = sequence := by
  obtain ⟨built, hbuilt⟩ :=
    buildObservation_sample observationId (operatorMetadata tenantId assetId)
  have hmetric : metricNamed samplePlatform "port_capacity" = .ok .portCapacity := by
    decide
  have htime : timeOf samplePlatform "1970-01-01T00:00:00Z" = .ok 0 := by
    decide
  simp [normalizedOperatorObservation, samplePayload, Bindings.lookup, nonBlankText, htenant,
    hasset, nonnegativeInteger, not_lt.mpr hsequence, item, Platform.strOf, hmetric, assertionOf,
    assertionMap, htime, Platform.floatOf, confidenceOf, hbuilt]

variable (key : Option String) (tenantId assetId : String) (sequence : ℤ) (fates : Fates)

theorem canonicalBody_sample :
    canonicalBody samplePlatform (sampleSubmission key tenantId assetId sequence fates) =
      .ok (sampleBody tenantId assetId sequence) := rfl

theorem sample_verifies :
    verifyOperatorSignature samplePlatform (sampleBody tenantId assetId sequence)
      (sampleSubmission key tenantId assetId sequence fates).timestamp
      (sampleSubmission key tenantId assetId sequence fates).signature sampleSecret
      (sampleSubmission key tenantId assetId sequence fates).seconds = .ok () := by
  have hseconds : (sampleSubmission key tenantId assetId sequence fates).seconds = 100 := by
    simp [Submission.seconds, sampleSubmission]
  have htime : samplePlatform.int.ofText
      (sampleSubmission key tenantId assetId sequence fates).timestamp = some 100 := by
    simp [samplePlatform, sampleSubmission]
  rw [hseconds]
  exact verifyOperatorSignature_expected htime (by simp)

theorem sample_reaches {key : Option String} (hkey : ∀ k ∈ key, validKey k = true)
    (ledger : List LedgerRecord) :
    ∃ context, (sampleSubmission key tenantId assetId sequence fates).Reaches samplePlatform
      ⟨.missing, ledger⟩ context := by
  cases key with
  | none => exact ⟨_, _, rfl, rfl, rfl⟩
  | some k => exact ⟨_, _, rfl, idempotencyContext_eq rfl (hkey k rfl) rfl, rfl⟩

variable {tenantId assetId sequence}

theorem sample_observes (htenant : isBlank tenantId = false) (hasset : isBlank assetId = false)
    (hsequence : 0 ≤ sequence) :
    ∃ o, (sampleSubmission key tenantId assetId sequence fates).Observes samplePlatform o ∧
      o.tenantId = tenantId ∧ o.assetId = assetId ∧ o.sequence = sequence := by
  obtain ⟨o, hnormalized, hparts⟩ := normalized_sample "11111111-1111-4111-8111-111111111111"
    100000000 htenant hasset hsequence (sampleBody tenantId assetId sequence)
  have hvalidated : validatedObservation samplePlatform
      (sampleSubmission key tenantId assetId sequence fates)
      (samplePayload tenantId assetId sequence) (sampleBody tenantId assetId sequence) = .ok o :=
    validatedObservation_of rfl (sample_verifies key tenantId assetId sequence fates) hnormalized
  exact ⟨o, ⟨_, canonicalBody_sample key tenantId assetId sequence fates, hvalidated⟩, hparts⟩

/-- The first sample is granted. -/
theorem sample_grants {key : Option String} (hkey : ∀ k ∈ key, validKey k = true)
    (hclaim : fates.claim = .returns) (htenant : isBlank tenantId = false)
    (hasset : isBlank assetId = false) (hsequence : 0 ≤ sequence) (ledger : List LedgerRecord) :
    ∃ context o members, (sampleSubmission key tenantId assetId sequence fates).Grants
        samplePlatform ⟨.missing, ledger⟩ context o members ∧
      o.tenantId = tenantId ∧ o.assetId = assetId ∧ o.sequence = sequence := by
  obtain ⟨context, hreaches⟩ := sample_reaches tenantId assetId sequence fates hkey ledger
  obtain ⟨o, hobserves, hparts⟩ := sample_observes key fates htenant hasset hsequence
  exact ⟨context, o, _, ⟨hreaches, hobserves, hclaim, rfl⟩, hparts⟩

/-- The accepting response to a valid observation. -/
def acceptingResponses : Except HttpError OperatorObservation → List TelemetryResponse
  | .ok observation => [⟨true, observation⟩]
  | .error _ => []

def sampleResponses (key : Option String) (tenantId assetId : String) (sequence : ℤ) :
    List TelemetryResponse :=
  acceptingResponses <| validatedObservation samplePlatform
    (sampleSubmission key tenantId assetId sequence) (samplePayload tenantId assetId sequence)
    (sampleBody tenantId assetId sequence)

def sampleCodec (key : Option String) (tenantId assetId : String) (sequence : ℤ) :
    ResponseCodec TelemetryResponse :=
  .table (fun r => String.ofList (r.toJson sampleFloatText sampleTimeText).dumps)
    (sampleResponses key tenantId assetId sequence)

theorem sampleCodec_readsBack (key : Option String) {tenantId assetId : String} {sequence : ℤ}
    {observation : OperatorObservation}
    (h : (sampleSubmission key tenantId assetId sequence).Observes samplePlatform observation) :
    (sampleCodec key tenantId assetId sequence).ReadsBack ⟨true, observation⟩ := by
  obtain ⟨body, hbody, hvalidated⟩ := h
  rw [canonicalBody_sample, Except.ok.injEq] at hbody
  subst hbody
  have hresponses : sampleResponses key tenantId assetId sequence = [⟨true, observation⟩] :=
    congrArg acceptingResponses hvalidated
  rw [sampleCodec, hresponses]
  exact ResponseCodec.table_readsBack _ _ (by simp) _ List.mem_cons_self

end Samples

end ContinuityOS.Service
