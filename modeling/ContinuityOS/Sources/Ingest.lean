import ContinuityOS.Sources.LatestSnapshot

/-! # Snapshots before the network

The ingestor looks for a fresh snapshot of a source and goes to the network when there is none and
it is allowed to. An answer of the network is stored before it is handed on, so that what is
handed on can be read again later, also when other tasks store while the answer is awaited.
-/
namespace ContinuityOS.Sources
open Library Crypto SnapshotCache

structure HttpResponse where
  content : List UInt8
  headers : List (String × String)
  statusCode : ℤ

inductive IngestError where
  | outboundDisabled
  | httpError
  | cache (error : CacheError)
deriving DecidableEq

/-- The cache and the stores that have returned. -/
abbrev CacheState := SnapshotCache × List TimedStore

/-- One request: the order in which directories are listed and the clock that is read for them,
what other tasks store while the answer is awaited, and the answer with its time. -/
structure IngestRequest where
  sourceId : String
  url : String
  listing : SnapshotCache → List ((String × String) × SnapshotDirectory)
  listing_perm : ∀ cache, (listing cache).Perm cache.entries
  clock : String × String → DateTime
  meanwhile : List TimedStore
  response : Option HttpResponse
  storedAt : DateTime
  utc : storedAt.IsUtc

namespace IngestRequest

/-- The store of an answer. -/
def store (request : IngestRequest) (response : HttpResponse) : TimedStore where
  call :=
    { sourceId := request.sourceId, url := request.url, body := response.content
      headers := response.headers, status := response.statusCode }
  now := request.storedAt
  utc := request.utc

end IngestRequest

structure IngestAnswer where
  result : Except IngestError (SnapshotMetadata × List UInt8)
  state : CacheState
  requested : Bool

structure OpenSourceIngestor where
  outboundEnabled : Bool
  maxCacheAgeHours : ℚ := 24

namespace OpenSourceIngestor

/-- The outcome of a store is that of the cache. -/
def fetch (ingestor : OpenSourceIngestor) (state : CacheState) (request : IngestRequest) :
    IngestAnswer :=
  if ingestor.outboundEnabled then
    let awaited := request.meanwhile.foldl acknowledge state
    match request.response with
    | none => ⟨.error .httpError, awaited, true⟩
    | some response =>
      let result := SnapshotCache.store awaited.1 (request.store response).call request.storedAt
      ⟨match result.1 with
        | .ok metadata => .ok (metadata, response.content)
        | .error e => .error (.cache e),
        acknowledge awaited (request.store response), true⟩
  else ⟨.error .outboundDisabled, state, false⟩

def getOrFetch (ingestor : OpenSourceIngestor) (state : CacheState) (request : IngestRequest) :
    IngestAnswer :=
  match latestReading state.1 (request.listing state.1) request.sourceId (some request.url)
      (some ingestor.maxCacheAgeHours) request.clock with
  | .error e => ⟨.error (.cache e), state, false⟩
  | .ok (some cached) => ⟨.ok cached, state, false⟩
  | .ok none => ingestor.fetch state request

/-- A stored snapshot that spares the network. -/
def Fresh (ingestor : OpenSourceIngestor) (stores : List TimedStore) (request : IngestRequest)
    (s : TimedStore) : Prop :=
  Matching stores request.sourceId (some request.url) (some ingestor.maxCacheAgeHours)
    request.clock s

end OpenSourceIngestor

section Stores
variable {stores : List TimedStore}

theorem runStores_append (stores more : List TimedStore) :
    runStores (stores ++ more) = more.foldl acknowledge (runStores stores) := List.foldl_append

/-- Stores that have returned are not forgotten. -/
theorem mem_foldl_acknowledge {state : CacheState} {s : TimedStore} (h : s ∈ state.2)
    (more : List TimedStore) : s ∈ (more.foldl acknowledge state).2 := by
  induction more generalizing state with
  | nil => exact h
  | cons t more ih =>
    refine ih ?_
    rw [acknowledge]
    split
    · exact List.mem_append_left _ h
    · exact h

/-- What a store that has returned wrote is read in every later state. -/
theorem read_later {s : TimedStore} (hs : s ∈ (runStores stores).2) (more : List TimedStore) :
    read (more.foldl acknowledge (runStores stores)).1 s.metadata.sourceId
      s.metadata.contentSha256 = .ok (s.metadata, s.call.body) := by
  have hlater := mem_foldl_acknowledge hs more
  rw [← runStores_append] at hlater ⊢
  exact read_stored hlater

theorem store_returns {state : CacheState} {s : TimedStore} {metadata : SnapshotMetadata}
    (h : (SnapshotCache.store state.1 s.call s.now).1 = .ok metadata) :
    metadata = s.metadata ∧ s ∈ (acknowledge state s).2 := by
  refine ⟨(store_ok h).1, ?_⟩
  rw [acknowledge]
  simp only [h]
  exact List.mem_append_right _ (List.mem_singleton_self s)

end Stores

section Search

/-- What is kept of some metadata is one of them. -/
theorem newest_keepsLeast (candidates : List SnapshotMetadata) :
    KeepsLeast (fun m : SnapshotMetadata => OrderDual.toDual m.retrievedAt)
      (fun m => False ∨ m ∈ candidates)
      (candidates.foldl (keepBetter fun a b => b.retrievedAt < a.retrievedAt) none) := by
  refine foldl_keepBetter_keepsLeast (fun a b => ?_) candidates fun _ h => h
  rw [decide_eq_true_eq, OrderDual.toDual_lt_toDual]

/-- The search finds a matching snapshot with its body, or there is none. -/
theorem latestReading_cases {stores : List TimedStore}
    {listing : List ((String × String) × SnapshotDirectory)}
    (hlisting : listing.Perm (runStores stores).1.entries) (sourceId : String)
    (url : Option String) (maxAgeHours : Option ℚ) (clock : String × String → DateTime) :
    (latestReading (runStores stores).1 listing sourceId url maxAgeHours clock = .ok none ∧
        ∀ s, ¬ Matching stores sourceId url maxAgeHours clock s) ∨
      ∃ s, Matching stores sourceId url maxAgeHours clock s ∧
        latestReading (runStores stores).1 listing sourceId url maxAgeHours clock =
          .ok (some (s.metadata, s.call.body)) := by
  have hkeeps := newest_keepsLeast (listing.filterMap fun entry =>
    candidate sourceId url maxAgeHours (clock entry.1) entry)
  simp only [latestReading]
  cases hbest : (listing.filterMap fun entry =>
      candidate sourceId url maxAgeHours (clock entry.1) entry).foldl
        (keepBetter fun a b => b.retrievedAt < a.retrievedAt) none with
  | none =>
    rw [hbest] at hkeeps
    exact Or.inl ⟨rfl, fun s hs =>
      hkeeps s.metadata (Or.inr ((mem_candidates hlisting _).mpr ⟨s, hs, rfl⟩))⟩
  | some newest =>
    rw [hbest] at hkeeps
    obtain ⟨s, hs, rfl⟩ := (mem_candidates hlisting newest).mp (hkeeps.1.resolve_left id)
    refine Or.inr ⟨s, hs, ?_⟩
    simp only [read_stored hs.1]

end Search

/-- What holds of an answer over the stores that returned before it. -/
structure Handed (ingestor : OpenSourceIngestor) (stores : List TimedStore)
    (request : IngestRequest) (answer : IngestAnswer) : Prop where
  reachable : ∃ more, answer.state = runStores (stores ++ more)
  stored : ∀ metadata body, answer.result = .ok (metadata, body) →
    metadata.sourceId = request.sourceId ∧ metadata.url = request.url ∧
      ∀ later : List TimedStore, read (later.foldl acknowledge answer.state).1 metadata.sourceId
        metadata.contentSha256 = .ok (metadata, body)
  spared : answer.requested = false → ∀ metadata body, answer.result = .ok (metadata, body) →
    ∃ s, ingestor.Fresh stores request s ∧ metadata = s.metadata ∧ body = s.call.body
  requested : answer.requested = true →
    ingestor.outboundEnabled = true ∧ ∀ s, ¬ ingestor.Fresh stores request s
  denied : ingestor.outboundEnabled = false →
    answer.requested = false ∧ answer.state = runStores stores

namespace OpenSourceIngestor
variable (ingestor : OpenSourceIngestor) {stores : List TimedStore} {request : IngestRequest}

/-- A store that returns hands on what is read in every later state. -/
theorem fetch_stored {metadata : SnapshotMetadata} {body : List UInt8}
    (h : (ingestor.fetch (runStores stores) request).result = .ok (metadata, body)) :
    metadata.sourceId = request.sourceId ∧ metadata.url = request.url ∧
      ∀ later : List TimedStore,
        read (later.foldl acknowledge (ingestor.fetch (runStores stores) request).state).1
          metadata.sourceId metadata.contentSha256 = .ok (metadata, body) := by
  unfold fetch at h ⊢
  rw [← runStores_append] at h ⊢
  split_ifs at h ⊢ with houtbound
  cases hresponse : request.response with
  | none => simp [hresponse] at h
  | some response =>
    simp only [hresponse] at h ⊢
    cases hstore : (SnapshotCache.store (runStores (stores ++ request.meanwhile)).1
        (request.store response).call request.storedAt).1 with
    | error e => simp [hstore] at h
    | ok returned =>
      simp only [hstore, Except.ok.injEq, Prod.mk.injEq] at h
      obtain ⟨rfl, rfl⟩ := h
      obtain ⟨rfl, hmem⟩ := store_returns (s := request.store response) hstore
      refine ⟨rfl, rfl, fun later => ?_⟩
      have hnext : acknowledge (runStores (stores ++ request.meanwhile)) (request.store response) =
          runStores (stores ++ request.meanwhile ++ [request.store response]) := by
        rw [runStores_append _ [request.store response]]
        rfl
      rw [hnext] at hmem ⊢
      exact read_later hmem later

theorem fetch_reachable : ∃ more,
    (ingestor.fetch (runStores stores) request).state = runStores (stores ++ more) := by
  unfold fetch
  split_ifs
  · cases hresponse : request.response with
    | none => exact ⟨request.meanwhile, (runStores_append _ _).symm⟩
    | some response =>
      refine ⟨request.meanwhile ++ [request.store response], ?_⟩
      rw [runStores_append, List.foldl_append]
      rfl
  · exact ⟨[], by rw [List.append_nil]⟩

theorem fetch_requested (h : (ingestor.fetch (runStores stores) request).requested = true) :
    ingestor.outboundEnabled = true := by
  by_contra houtbound
  rw [fetch, if_neg houtbound] at h
  cases h

end OpenSourceIngestor

/-- After any stores of any tasks: what a request is answered with is stored under its source and
address and is read unchanged in every later state; the network is asked only if that is allowed
and no fresh snapshot is there; and where it is not allowed the cache stays as it is. -/
theorem getOrFetch_handed (ingestor : OpenSourceIngestor) (stores : List TimedStore)
    (request : IngestRequest) :
    Handed ingestor stores request (ingestor.getOrFetch (runStores stores) request) := by
  rcases latestReading_cases (request.listing_perm (runStores stores).1) request.sourceId
    (some request.url) (some ingestor.maxCacheAgeHours) request.clock with
    ⟨hlatest, hnone⟩ | ⟨s, hs, hlatest⟩
  · have hanswer : ingestor.getOrFetch (runStores stores) request =
        ingestor.fetch (runStores stores) request := by
      rw [OpenSourceIngestor.getOrFetch, hlatest]
    rw [hanswer]
    refine ⟨ingestor.fetch_reachable, fun _ _ h => ingestor.fetch_stored h, ?_, ?_, ?_⟩
    · intro hspared metadata body hok
      unfold OpenSourceIngestor.fetch at hspared hok
      split_ifs at hspared hok
      cases hresponse : request.response <;> simp [hresponse] at hspared
    · exact fun h => ⟨ingestor.fetch_requested h, hnone⟩
    · intro hdenied
      rw [OpenSourceIngestor.fetch, hdenied]
      exact ⟨rfl, rfl⟩
  · have hanswer : ingestor.getOrFetch (runStores stores) request =
        ⟨.ok (s.metadata, s.call.body), runStores stores, false⟩ := by
      rw [OpenSourceIngestor.getOrFetch, hlatest]
    rw [hanswer]
    refine ⟨⟨[], by rw [List.append_nil]⟩, ?_, ?_, (fun h => nomatch h), fun _ => ⟨rfl, rfl⟩⟩
    · intro metadata body hok
      cases hok
      exact ⟨hs.2.1, hs.2.2.1 _ rfl, fun later => read_later hs.1 later⟩
    · intro _ metadata body hok
      cases hok
      exact ⟨s, hs, rfl, rfl⟩

end ContinuityOS.Sources
