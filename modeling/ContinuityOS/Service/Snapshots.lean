import ContinuityOS.Library.Json
import ContinuityOS.Service.Idempotency

/-! # Concurrent snapshot requests

Handlers of one request with one key: each looks the key up, awaits the fetch, appends to the
ledger, saves its response and answers. The steps of different handlers interleave.
-/
namespace ContinuityOS.Service
open Library

structure PublicSnapshot where
  sourceId : String
  snapshotId : String
  contentSha256 : String
  retrievedAt : String
  statusCode : ℤ
  parser : String
  recordCount : ℤ
  freshnessHours : ℚ
  qualityFlags : List String
deriving DecidableEq

structure PublicSnapshotResponse where
  sourceId : String
  snapshotId : String
  contentSha256 : String
  retrievedAt : String
  statusCode : ℤ
  parser : String
  recordCount : ℤ
  freshnessHours : ℚ
  qualityFlags : List String
deriving DecidableEq

def PublicSnapshotResponse.fromSnapshot (snapshot : PublicSnapshot) : PublicSnapshotResponse where
  sourceId := snapshot.sourceId
  snapshotId := snapshot.snapshotId
  contentSha256 := snapshot.contentSha256
  retrievedAt := snapshot.retrievedAt
  statusCode := snapshot.statusCode
  parser := snapshot.parser
  recordCount := snapshot.recordCount
  freshnessHours := snapshot.freshnessHours
  qualityFlags := snapshot.qualityFlags

/-- The text of a float is left to the caller. -/
def PublicSnapshotResponse.toJson (floatText : ℚ → String) (r : PublicSnapshotResponse) : Json :=
  .object [("source_id", .string r.sourceId), ("snapshot_id", .string r.snapshotId),
    ("content_sha256", .string r.contentSha256), ("retrieved_at", .string r.retrievedAt),
    ("status_code", .int r.statusCode), ("parser", .string r.parser),
    ("record_count", .int r.recordCount), ("freshness_hours", .float (floatText r.freshnessHours)),
    ("quality_flags", .array (r.qualityFlags.map .string))]

/-- How a fetch can fail: a runtime error, a key or value error, or any other exception. -/
inductive FetchError where
  | runtime (detail : String)
  | keyOrValue (detail : String)
  | other

def FetchError.toHttp : FetchError → HttpError
  | .runtime detail => ⟨503, detail⟩
  | .keyOrValue detail => ⟨422, detail⟩
  | .other => internalServerError

/-- Where a handler stands. -/
inductive Phase where
  | idle
  | awaiting
  | fetched (snapshot : PublicSnapshot)
  | appended (response : PublicSnapshotResponse)
  | saved (response : PublicSnapshotResponse)
  | responded (answer : Except HttpError PublicSnapshotResponse)

inductive SnapshotStep where
  | lookup (i : ℕ)
  | fetch (i : ℕ) (outcome : Except FetchError PublicSnapshot)
  | append (i : ℕ)
  | save (i : ℕ)
  | respond (i : ℕ)

structure Handlers where
  service : ServiceState
  phase : ℕ → Phase

def Handlers.setPhase (s : Handlers) (i : ℕ) (p : Phase) : Handlers :=
  { s with phase := Function.update s.phase i p }

section Steps
variable (codec : ResponseCodec PublicSnapshotResponse) (request : Request)

/-- One step of one handler; a step that its phase does not allow does nothing. -/
def snapshotStep (s : Handlers) : SnapshotStep → Handlers
  | .lookup i =>
    match s.phase i with
    | .idle =>
      match idempotencyContext s.service.store request "public_snapshot" with
      | .error e => s.setPhase i (.responded (.error e))
      | .ok ⟨_, _, some cached⟩ => s.setPhase i (.responded (codec.cachedResponse cached))
      | .ok ⟨_, _, none⟩ => s.setPhase i .awaiting
    | _ => s
  | .fetch i outcome =>
    match s.phase i, outcome with
    | .awaiting, .ok snapshot => s.setPhase i (.fetched snapshot)
    | .awaiting, .error e => s.setPhase i (.responded (.error e.toHttp))
    | _, _ => s
  | .append i =>
    match s.phase i with
    | .fetched snapshot =>
      let response := PublicSnapshotResponse.fromSnapshot snapshot
      { service := s.service.append
          ⟨"public_data_snapshot", snapshot.snapshotId, codec.dump response⟩
        phase := Function.update s.phase i (.appended response) }
    | _ => s
  | .save i =>
    match s.phase i with
    | .appended response =>
      match saveIdempotency s.service.store "public_snapshot" request.idempotencyKey
          (request.idempotencyKey.map fun _ => request.fingerprint) (codec.dump response) with
      | .error e => s.setPhase i (.responded (.error e))
      | .ok store =>
        { service := { s.service with store := store }
          phase := Function.update s.phase i (.saved response) }
    | _ => s
  | .respond i =>
    match s.phase i with
    | .saved response => s.setPhase i (.responded (.ok response))
    | _ => s

def runSnapshots (s : Handlers) (steps : List SnapshotStep) : Handlers :=
  steps.foldl (snapshotStep codec request) s

end Steps

/-- Between a missed lookup and the save. -/
def Phase.inFlight : Phase → Bool
  | .awaiting | .fetched _ | .appended _ => true
  | _ => false

/-- Successful answers are equal, and one ledger record was appended for them. -/
structure RecordedOnce (start : ServiceState) (s : Handlers) : Prop where
  equal : ∀ i j r r', s.phase i = .responded (.ok r) → s.phase j = .responded (.ok r') → r = r'
  atMostOne : s.service.ledger.length ≤ start.ledger.length + 1
  exactlyOne : ∀ i r, s.phase i = .responded (.ok r) →
    s.service.ledger.length = start.ledger.length + 1

/-- A lookup does not miss while another handler is in flight. -/
def NoOverlap (request : Request) (key : String) (s : Handlers) : SnapshotStep → Prop
  | .lookup i => s.phase i = .idle →
      s.service.store.getIdempotent "public_snapshot" key request.fingerprint = .ok none →
      ∀ j, (s.phase j).inFlight = false
  | _ => True

/-- Every step of the run meets the condition in the state it is taken in. -/
def RunsWithoutOverlap (codec : ResponseCodec PublicSnapshotResponse) (request : Request)
    (key : String) : Handlers → List SnapshotStep → Prop
  | _, [] => True
  | s, step :: steps => NoOverlap request key s step ∧
      RunsWithoutOverlap codec request key (snapshotStep codec request s step) steps

/-- The response to a fetched snapshot is read back from its text. -/
def SnapshotStep.ReadsBack (codec : ResponseCodec PublicSnapshotResponse) : SnapshotStep → Prop
  | .fetch _ (.ok snapshot) => codec.ReadsBack (.fromSnapshot snapshot)
  | _ => True

section Invariant
variable {codec : ResponseCodec PublicSnapshotResponse} {request : Request} {key : String}

/-- A phase while nothing is stored under the key. -/
def Phase.Unsaved (codec : ResponseCodec PublicSnapshotResponse) : Phase → Prop
  | .idle | .awaiting | .responded (.error _) => True
  | .fetched snapshot => codec.ReadsBack (.fromSnapshot snapshot)
  | .appended response => codec.ReadsBack response
  | .saved _ | .responded (.ok _) => False

/-- A phase once a response is stored. -/
def Phase.Settled (response : PublicSnapshotResponse) : Phase → Prop
  | .idle | .responded (.error _) => True
  | .saved r | .responded (.ok r) => r = response
  | .awaiting | .fetched _ | .appended _ => False

def Phase.isAppended : Phase → Bool
  | .appended _ => true
  | _ => false

/-- Nothing is stored, and at most one handler is in flight. -/
structure Before (codec : ResponseCodec PublicSnapshotResponse) (request : Request) (key : String)
    (count : ℕ) (s : Handlers) : Prop where
  unstored : s.service.store.getIdempotent "public_snapshot" key request.fingerprint = .ok none
  phases : ∀ i, (s.phase i).Unsaved codec
  single : ∀ i j, (s.phase i).inFlight = true → (s.phase j).inFlight = true → i = j
  appended : ∀ i, (s.phase i).isAppended = true → s.service.ledger.length = count + 1
  unappended : (∀ i, (s.phase i).isAppended = false) → s.service.ledger.length = count

/-- A response is stored, and no handler is in flight. -/
structure After (codec : ResponseCodec PublicSnapshotResponse) (request : Request) (key : String)
    (count : ℕ) (response : PublicSnapshotResponse) (s : Handlers) : Prop where
  stored : s.service.store.getIdempotent "public_snapshot" key request.fingerprint =
    .ok (some (codec.dump response))
  readsBack : codec.ReadsBack response
  phases : ∀ i, (s.phase i).Settled response
  ledger : s.service.ledger.length = count + 1

variable {count : ℕ} {s : Handlers}

@[simp] theorem setPhase_service (s : Handlers) (i : ℕ) (p : Phase) :
    (s.setPhase i p).service = s.service := rfl

@[simp] theorem setPhase_phase (s : Handlers) (i : ℕ) (p : Phase) :
    (s.setPhase i p).phase = Function.update s.phase i p := rfl

/-- What holds of the new phase and of every other one holds of all phases. -/
theorem forall_update {phase : ℕ → Phase} {i : ℕ} {p : Phase} {P : Phase → Prop} (hp : P p)
    (h : ∀ j, j ≠ i → P (phase j)) (j : ℕ) : P (Function.update phase i p j) := by
  by_cases hj : j = i
  · subst hj
    rwa [Function.update_self]
  · rw [Function.update_of_ne hj]
    exact h j hj

/-- A handler that is in flight is the only one. -/
theorem Before.others {i : ℕ} (h : Before codec request key count s)
    (hi : (s.phase i).inFlight = true) : ∀ j, j ≠ i → (s.phase j).inFlight = false := by
  intro j hj
  by_contra hflight
  rw [Bool.not_eq_false] at hflight
  exact hj (h.single j i hflight hi)

theorem single_update {phase : ℕ → Phase} {i : ℕ} {p : Phase}
    (h : ∀ j, j ≠ i → (phase j).inFlight = false) (j k : ℕ)
    (hj : (Function.update phase i p j).inFlight = true)
    (hk : (Function.update phase i p k).inFlight = true) : j = k := by
  have heq : ∀ l, (Function.update phase i p l).inFlight = true → l = i := by
    intro l hl
    by_contra hne
    rw [Function.update_of_ne hne, h l hne] at hl
    cases hl
  rw [heq j hj, heq k hk]

theorem not_appended_of_not_inFlight {p : Phase} (h : p.inFlight = false) :
    p.isAppended = false := by
  cases p <;> simp_all [Phase.inFlight, Phase.isAppended]

/-- A handler moves on without appending while no other is in flight. -/
theorem Before.setPhase {i : ℕ} {p : Phase} (h : Before codec request key count s)
    (hp : p.Unsaved codec) (hold : (s.phase i).isAppended = false) (hnew : p.isAppended = false)
    (hothers : ∀ j, j ≠ i → (s.phase j).inFlight = false) :
    Before codec request key count (s.setPhase i p) where
  unstored := h.unstored
  phases := forall_update hp fun j _ => h.phases j
  single := single_update hothers
  appended := by
    intro j hj
    have hnone := forall_update (P := fun q => q.isAppended = false) hnew
      (fun k hk => not_appended_of_not_inFlight (hothers k hk)) j
    rw [setPhase_phase, hnone] at hj
    cases hj
  unappended := by
    intro _
    apply h.unappended
    intro j
    by_cases hj : j = i
    · rw [hj]
      exact hold
    · exact not_appended_of_not_inFlight (hothers j hj)

theorem After.setPhase {i : ℕ} {p : Phase} {response : PublicSnapshotResponse}
    (h : After codec request key count response s) (hp : p.Settled response) :
    After codec request key count response (s.setPhase i p) where
  stored := h.stored
  readsBack := h.readsBack
  phases := forall_update hp fun j _ => h.phases j
  ledger := h.ledger

/-- Once a response is stored, every step keeps it the only one. -/
theorem snapshotStep_after {response : PublicSnapshotResponse}
    (hkey : request.idempotencyKey = some key) (hvalid : validKey key = true)
    (h : After codec request key count response s) (step : SnapshotStep) :
    After codec request key count response (snapshotStep codec request s step) := by
  have hphase : ∀ i, (s.phase i).Settled response := h.phases
  cases step with
  | lookup i =>
    rw [snapshotStep]
    split
    · rw [idempotencyContext_eq hkey hvalid h.stored]
      dsimp only
      rw [codec.cachedResponse_dump h.readsBack]
      exact h.setPhase rfl
    · exact h
  | fetch i outcome =>
    specialize hphase i
    unfold snapshotStep
    dsimp only
    split
    · simp_all [Phase.Settled]
    · simp_all [Phase.Settled]
    · exact h
  | append i =>
    specialize hphase i
    rw [snapshotStep]
    split
    · simp_all [Phase.Settled]
    · exact h
  | save i =>
    specialize hphase i
    rw [snapshotStep]
    split
    · simp_all [Phase.Settled]
    · exact h
  | respond i =>
    specialize hphase i
    rw [snapshotStep]
    split
    · rename_i saved heq
      rw [heq] at hphase
      exact h.setPhase hphase
    · exact h

/-- Appending happens once, by the only handler in flight. -/
theorem Before.append {i : ℕ} {snapshot : PublicSnapshot}
    (h : Before codec request key count s) (hi : s.phase i = .fetched snapshot)
    (record : LedgerRecord) : Before codec request key count
      { service := s.service.append record
        phase := Function.update s.phase i (.appended (.fromSnapshot snapshot)) } := by
  have hothers := h.others (i := i) (by rw [hi]; rfl)
  have hread : codec.ReadsBack (.fromSnapshot snapshot) := by
    have hphase := h.phases i
    rwa [hi] at hphase
  have hcount : s.service.ledger.length = count := by
    apply h.unappended
    intro j
    by_cases hj : j = i
    · rw [hj, hi]
      rfl
    · exact not_appended_of_not_inFlight (hothers j hj)
  constructor
  · exact h.unstored
  · exact forall_update hread fun j _ => h.phases j
  · exact single_update hothers
  · intro j _
    simp [ServiceState.append, hcount]
  · intro hnone
    have hself := hnone i
    simp [Phase.isAppended] at hself

/-- Saving stores the response of the only handler in flight. -/
theorem Before.save {i : ℕ} {response : PublicSnapshotResponse} {store : StateFile}
    (h : Before codec request key count s) (hi : s.phase i = .appended response)
    (hstore : store.getIdempotent "public_snapshot" key request.fingerprint =
      .ok (some (codec.dump response))) : After codec request key count response
      { service := { s.service with store := store }
        phase := Function.update s.phase i (.saved response) } := by
  have hothers := h.others (i := i) (by rw [hi]; rfl)
  constructor
  · exact hstore
  · have hphase := h.phases i
    rwa [hi] at hphase
  · apply forall_update
    · exact rfl
    · intro j hj
      have hflight := hothers j hj
      have hphase := h.phases j
      cases hp : s.phase j with
      | idle => trivial
      | responded answer =>
        cases answer with
        | ok r =>
          rw [hp] at hphase
          exact hphase.elim
        | error e => trivial
      | saved r =>
        rw [hp] at hphase
        exact hphase.elim
      | _ =>
        rw [hp] at hflight
        cases hflight
  · exact h.appended i (by rw [hi]; rfl)

/-- Before a response is stored, a step that meets the condition keeps the invariant or stores
the first response. -/
theorem snapshotStep_before (hkey : request.idempotencyKey = some key)
    (hvalid : validKey key = true) (h : Before codec request key count s) {step : SnapshotStep}
    (hmeets : NoOverlap request key s step) (hread : step.ReadsBack codec) :
    Before codec request key count (snapshotStep codec request s step) ∨
      ∃ response, After codec request key count response (snapshotStep codec request s step) := by
  cases step with
  | lookup i =>
    left
    rw [snapshotStep]
    split
    · rename_i hidle
      rw [idempotencyContext_eq hkey hvalid h.unstored]
      apply h.setPhase (p := .awaiting) trivial (by rw [hidle]; rfl) rfl
      intro j _
      exact hmeets hidle h.unstored j
    · exact h
  | fetch i outcome =>
    left
    unfold snapshotStep
    dsimp only
    split
    · rename_i snapshot hawaiting
      exact h.setPhase hread (by rw [hawaiting]; rfl) rfl (h.others (by rw [hawaiting]; rfl))
    · rename_i e hawaiting
      exact h.setPhase trivial (by rw [hawaiting]; rfl) rfl (h.others (by rw [hawaiting]; rfl))
    · exact h
  | append i =>
    left
    rw [snapshotStep]
    split
    · rename_i snapshot hfetched
      exact h.append hfetched _
    · exact h
  | save i =>
    rw [snapshotStep]
    split
    · rename_i response happended
      right
      obtain ⟨store, hsave, hfound⟩ := saveIdempotency_of_get h.unstored (codec.dump response)
      rw [hkey, Option.map_some, hsave]
      exact ⟨response, h.save happended hfound⟩
    · exact Or.inl h
  | respond i =>
    left
    rw [snapshotStep]
    split
    · rename_i response hsaved
      have hphase := h.phases i
      rw [hsaved] at hphase
      exact hphase.elim
    · exact h

/-- A run that meets the condition keeps the invariant. -/
theorem runSnapshots_invariant (hkey : request.idempotencyKey = some key)
    (hvalid : validKey key = true) {steps : List SnapshotStep}
    (hread : ∀ step ∈ steps, step.ReadsBack codec) :
    (∀ s, Before codec request key count s → RunsWithoutOverlap codec request key s steps →
      Before codec request key count (runSnapshots codec request s steps) ∨
        ∃ response, After codec request key count response (runSnapshots codec request s steps)) ∧
    ∀ s response, After codec request key count response s →
      After codec request key count response (runSnapshots codec request s steps) := by
  induction steps with
  | nil => exact ⟨fun s h _ => Or.inl h, fun s response h => h⟩
  | cons step steps ih =>
    rw [List.forall_mem_cons] at hread
    obtain ⟨ihBefore, ihAfter⟩ := ih hread.2
    constructor
    · intro s h hmeets
      rcases snapshotStep_before hkey hvalid h hmeets.1 hread.1 with hb | ⟨response, ha⟩
      · exact ihBefore _ hb hmeets.2
      · exact Or.inr ⟨response, ihAfter _ response ha⟩
    · intro s response h
      exact ihAfter _ response (snapshotStep_after hkey hvalid h step)

theorem Before.recordedOnce {start : ServiceState}
    (h : Before codec request key start.ledger.length s) : RecordedOnce start s := by
  have hnone : ∀ i r, s.phase i ≠ .responded (.ok r) := by
    intro i r hi
    have hphase := h.phases i
    rw [hi] at hphase
    exact hphase
  constructor
  · intro i j r r' hi
    exact absurd hi (hnone i r)
  · by_cases happended : ∃ i, (s.phase i).isAppended = true
    · obtain ⟨i, hi⟩ := happended
      exact (h.appended i hi).le
    · push Not at happended
      rw [h.unappended fun i => by simpa using happended i]
      exact Nat.le_succ _
  · intro i r hi
    exact absurd hi (hnone i r)

theorem After.recordedOnce {start : ServiceState} {response : PublicSnapshotResponse}
    (h : After codec request key start.ledger.length response s) : RecordedOnce start s := by
  have hanswer : ∀ i r, s.phase i = .responded (.ok r) → r = response := by
    intro i r hi
    have hphase := h.phases i
    rwa [hi] at hphase
  constructor
  · intro i j r r' hi hj
    rw [hanswer i r hi, hanswer j r' hj]
  · exact h.ledger.le
  · intro i r _
    exact h.ledger

end Invariant

/-- In a run in which no lookup misses while another handler is in flight, successful answers
are equal and one ledger record is appended for them. -/
theorem runSnapshots_recordedOnce (codec : ResponseCodec PublicSnapshotResponse)
    (request : Request) (key : String) (start : ServiceState) (steps : List SnapshotStep)
    (hkey : request.idempotencyKey = some key) (hvalid : validKey key = true)
    (hfresh : start.store.getIdempotent "public_snapshot" key request.fingerprint = .ok none)
    (hread : ∀ step ∈ steps, step.ReadsBack codec)
    (hmeets : RunsWithoutOverlap codec request key ⟨start, fun _ => .idle⟩ steps) :
    RecordedOnce start (runSnapshots codec request ⟨start, fun _ => .idle⟩ steps) := by
  have hstart : Before codec request key start.ledger.length ⟨start, fun _ => .idle⟩ := by
    constructor
    · exact hfresh
    · exact fun _ => trivial
    · intro i j hi
      cases hi
    · intro i hi
      cases hi
    · exact fun _ => rfl
  rcases (runSnapshots_invariant hkey hvalid hread).1 _ hstart hmeets with h | ⟨response, h⟩
  · exact h.recordedOnce
  · exact h.recordedOnce

section Samples

def snapshotRequest : Request where
  idempotencyKey := some "k1"
  body := []

/-- Two fetches of one source, a moment apart. -/
def snapshotAt (retrievedAt : String) : PublicSnapshot where
  sourceId := "s"
  snapshotId := "a"
  contentSha256 := "00"
  retrievedAt := retrievedAt
  statusCode := 200
  parser := "p"
  recordCount := 1
  freshnessHours := 24
  qualityFlags := []

def snapshotText (r : PublicSnapshotResponse) : String :=
  String.ofList (r.toJson fun _ => "24.0").dumps

def snapshotCodec : ResponseCodec PublicSnapshotResponse :=
  .table snapshotText [.fromSnapshot (snapshotAt "1"), .fromSnapshot (snapshotAt "2")]

theorem snapshotCodec_readsBack :
    snapshotCodec.ReadsBack (.fromSnapshot (snapshotAt "1")) ∧
      snapshotCodec.ReadsBack (.fromSnapshot (snapshotAt "2")) := by
  apply ResponseCodec.table_pair_readsBack
  simp only [snapshotText, Ne, String.ofList_inj]
  decide

/-- The first handler fails to fetch. The second looks the key up after that and saves, and the
third looks it up before the second answers. -/
def serialSteps : List SnapshotStep :=
  [.lookup 0, .fetch 0 (.error .other), .lookup 1, .fetch 1 (.ok (snapshotAt "1")), .append 1,
    .save 1, .lookup 2, .respond 1]

/-- The second handler looks the key up while the first awaits its fetch. -/
def overlappingSteps : List SnapshotStep :=
  [.lookup 0, .lookup 1, .fetch 0 (.ok (snapshotAt "1")), .append 0, .save 0, .respond 0,
    .fetch 1 (.ok (snapshotAt "2")), .append 1, .save 1, .respond 1]

/-- Before the save no handler is in flight at a lookup, and after it no lookup misses. -/
theorem serialSteps_withoutOverlap :
    RunsWithoutOverlap snapshotCodec snapshotRequest "k1" ⟨⟨.missing, []⟩, fun _ => .idle⟩
      serialSteps := by
  have hlookup : snapshotStep snapshotCodec snapshotRequest ⟨⟨.missing, []⟩, fun _ => .idle⟩
      (.lookup 0) = Handlers.setPhase ⟨⟨.missing, []⟩, fun _ => .idle⟩ 0 .awaiting := rfl
  have hsecond : ∀ j, ((runSnapshots snapshotCodec snapshotRequest ⟨⟨.missing, []⟩, fun _ => .idle⟩
      (serialSteps.take 2)).phase j).inFlight = false := by
    refine forall_update (P := fun q => q.inFlight = false) rfl fun j hj => ?_
    rw [hlookup, setPhase_phase, Function.update_of_ne hj]
    rfl
  have hthird : (runSnapshots snapshotCodec snapshotRequest ⟨⟨.missing, []⟩, fun _ => .idle⟩
      (serialSteps.take 6)).service.store.getIdempotent "public_snapshot" "k1"
        snapshotRequest.fingerprint ≠ .ok none := by decide +kernel
  exact ⟨fun _ _ _ => rfl, trivial, fun _ _ => hsecond, trivial, trivial, trivial,
    fun _ hmiss => absurd hmiss hthird, trivial, trivial⟩

theorem runSnapshots_recordedOnce_witness :
    RecordedOnce ⟨.missing, []⟩
      (runSnapshots snapshotCodec snapshotRequest ⟨⟨.missing, []⟩, fun _ => .idle⟩ serialSteps) :=
  runSnapshots_recordedOnce snapshotCodec snapshotRequest "k1" ⟨.missing, []⟩ serialSteps rfl
    (by decide) rfl (by simp [serialSteps, SnapshotStep.ReadsBack, snapshotCodec_readsBack])
    serialSteps_withoutOverlap

theorem runSnapshots_recordedTwice :
    ¬ ∀ (codec : ResponseCodec PublicSnapshotResponse) (request : Request) (key : String)
      (start : ServiceState) (steps : List SnapshotStep), request.idempotencyKey = some key →
      validKey key = true →
      start.store.getIdempotent "public_snapshot" key request.fingerprint = .ok none →
      (∀ step ∈ steps, step.ReadsBack codec) →
      RecordedOnce start (runSnapshots codec request ⟨start, fun _ => .idle⟩ steps) := by
  intro h
  have honce := h snapshotCodec snapshotRequest "k1" ⟨.missing, []⟩ overlappingSteps rfl
    (by decide) rfl (by simp [overlappingSteps, SnapshotStep.ReadsBack, snapshotCodec_readsBack])
  have hledger : (runSnapshots snapshotCodec snapshotRequest ⟨⟨.missing, []⟩, fun _ => .idle⟩
      overlappingSteps).service.ledger.length = 2 := by decide +kernel
  have hcount := honce.atMostOne
  rw [hledger] at hcount
  exact absurd hcount (by decide)

end Samples

end ContinuityOS.Service
