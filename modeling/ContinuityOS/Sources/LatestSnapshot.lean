import ContinuityOS.Sources.SnapshotCache
import Mathlib.Data.String.Basic

/-! # The latest snapshot

Runs of stores from an empty cache, each at a time of UTC. The directories are exactly those of
the stores that returned. Times of retrieval are compared as texts, which are in the order of the
instants also where a whole second leaves out its fraction.
-/
namespace ContinuityOS.Sources
open Library Crypto

/-- A store and the time at which it retrieves. -/
structure TimedStore where
  call : StoreCall
  now : DateTime
  utc : now.IsUtc

namespace TimedStore

def metadata (s : TimedStore) : SnapshotMetadata := SnapshotCache.metadataFor s.call s.now

/-- The files that a store writes. -/
def directory (s : TimedStore) : SnapshotDirectory := ⟨some s.call.body, .written s.metadata⟩

/-- The snapshot is for the wanted address and young enough at a time. -/
def Matches (s : TimedStore) (url : Option String) (maxAgeHours : Option ℚ) (now : DateTime) :
    Prop :=
  (∀ wanted, url = some wanted → s.call.url = wanted) ∧
    ∀ hours, maxAgeHours = some hours → SnapshotCache.ageHours now s.now ≤ hours

end TimedStore

namespace SnapshotCache

/-- The search for the latest snapshot as it reads the clock for each directory. -/
def latestReading (cache : SnapshotCache) (listing : List ((String × String) × SnapshotDirectory))
    (sourceId : String) (url : Option String) (maxAgeHours : Option ℚ)
    (clock : String × String → DateTime) :
    Except CacheError (Option (SnapshotMetadata × List UInt8)) :=
  let candidates := listing.filterMap fun entry =>
    candidate sourceId url maxAgeHours (clock entry.1) entry
  match candidates.foldl (keepBetter fun a b => b.retrievedAt < a.retrievedAt) none with
  | none => .ok none
  | some newest =>
    match read cache newest.sourceId newest.contentSha256 with
    | .error e => .error e
    | .ok (_, body) => .ok (some (newest, body))

theorem latest_eq_latestReading (cache : SnapshotCache)
    (listing : List ((String × String) × SnapshotDirectory)) (sourceId : String)
    (url : Option String) (maxAgeHours : Option ℚ) (now : DateTime) :
    latest cache listing sourceId url maxAgeHours now =
      latestReading cache listing sourceId url maxAgeHours fun _ => now := rfl

/-- One store of a run, noted where it returns. -/
def acknowledge (state : SnapshotCache × List TimedStore) (s : TimedStore) :
    SnapshotCache × List TimedStore :=
  let result := store state.1 s.call s.now
  match result.1 with
  | .ok _ => (result.2, state.2 ++ [s])
  | .error _ => (result.2, state.2)

/-- The cache after a run of stores, and the stores that returned. -/
def runStores (stores : List TimedStore) : SnapshotCache × List TimedStore :=
  stores.foldl acknowledge (Dict.empty, [])

/-- The directories are those of the stores that returned. -/
def HoldsAcknowledged (state : SnapshotCache × List TimedStore) : Prop :=
  ∀ key directory, state.1.get? key = some directory ↔
    ∃ s ∈ state.2, s.call.key = key ∧ s.directory = directory

theorem store_none {cache : SnapshotCache} {s : TimedStore} (h : cache.get? s.call.key = none) :
    store cache s.call s.now = (.ok s.metadata, cache.set s.call.key s.directory) := by
  have hempty : cache.getD s.call.key .empty = .empty := by rw [Dict.getD, h, Option.getD_none]
  rw [store, hempty]
  rfl

/-- A store over complete files leaves them, whether it returns or raises. -/
theorem store_complete {cache : SnapshotCache} {call : StoreCall} {now : DateTime}
    {body : List UInt8} {written : SnapshotMetadata}
    (h : cache.get? call.key = some ⟨some body, .written written⟩) :
    (store cache call now).2 = cache := by
  by_cases hbody : body = call.body
  · rw [hbody] at h
    rw [store_written h]
    split_ifs <;> rfl
  · have hdirectory : cache.getD call.key .empty = ⟨some body, .written written⟩ :=
      Dict.getD_of_get? cache h _
    unfold store
    simp only [hdirectory, writePayload, if_pos hbody, Dict.set_of_get? cache h, ne_eq]

theorem acknowledge_none {state : SnapshotCache × List TimedStore} {s : TimedStore}
    (h : state.1.get? s.call.key = none) :
    acknowledge state s = (state.1.set s.call.key s.directory, state.2 ++ [s]) := by
  rw [acknowledge, store_none h]

theorem acknowledge_holds {state : SnapshotCache × List TimedStore} (h : HoldsAcknowledged state)
    (s : TimedStore) : HoldsAcknowledged (acknowledge state s) := by
  cases hget : state.1.get? s.call.key with
  | none =>
    intro key directory
    rw [acknowledge_none hget, Dict.get?_set]
    split_ifs with hkey
    · constructor
      · intro heq
        exact ⟨s, by simp, hkey, Option.some.inj heq⟩
      · rintro ⟨t, ht, htkey, rfl⟩
        rcases List.mem_append.mp ht with ht | ht
        · -- an earlier store of the same body under the same source
          have hheld := (h key t.directory).mpr ⟨t, ht, htkey, rfl⟩
          rw [← hkey, hget] at hheld
          cases hheld
        · rw [List.mem_singleton.mp ht]
    · rw [h key directory]
      constructor
      · rintro ⟨t, ht, hrest⟩
        exact ⟨t, List.mem_append_left _ ht, hrest⟩
      · rintro ⟨t, ht, htkey, hrest⟩
        rcases List.mem_append.mp ht with ht | ht
        · exact ⟨t, ht, htkey, hrest⟩
        · rw [List.mem_singleton.mp ht] at htkey
          exact absurd htkey hkey
  | some directory =>
    obtain ⟨t, ht, htkey, rfl⟩ := (h s.call.key directory).mp hget
    have hsame : (store state.1 s.call s.now).2 = state.1 := store_complete hget
    cases hresult : (store state.1 s.call s.now).1 with
    | error e =>
      have hstate : acknowledge state s = state := by
        simp only [acknowledge, hresult, hsame]
      rwa [hstate]
    | ok metadata =>
      obtain ⟨-, hwritten⟩ := store_ok hresult
      rw [hsame, hget] at hwritten
      have hstate : acknowledge state s = (state.1, state.2 ++ [s]) := by
        simp only [acknowledge, hresult, hsame]
      intro key directory
      rw [hstate, h key directory]
      constructor
      · rintro ⟨u, hu, hrest⟩
        exact ⟨u, List.mem_append_left _ hu, hrest⟩
      · rintro ⟨u, hu, hukey, hrest⟩
        rcases List.mem_append.mp hu with hu | hu
        · exact ⟨u, hu, hukey, hrest⟩
        · rw [List.mem_singleton.mp hu] at hukey hrest
          exact ⟨t, ht, htkey.trans hukey, (Option.some.inj hwritten).trans hrest⟩

theorem runStores_holds (stores : List TimedStore) : HoldsAcknowledged (runStores stores) := by
  suffices hrun : ∀ state, HoldsAcknowledged state →
      HoldsAcknowledged (stores.foldl acknowledge state) by
    refine hrun _ fun key directory => ?_
    simp
  induction stores with
  | nil => exact fun state h => h
  | cons s stores ih => exact fun state h => ih _ (acknowledge_holds h s)

/-- What a directory that a store wrote contributes to the search. -/
theorem candidate_directory (sourceId : String) (url : Option String) (maxAgeHours : Option ℚ)
    (now : DateTime) (s : TimedStore) (metadata : SnapshotMetadata) :
    candidate sourceId url maxAgeHours now (s.call.key, s.directory) = some metadata ↔
      (s.call.sourceId = sourceId ∧ s.Matches url maxAgeHours now) ∧ s.metadata = metadata := by
  have hparsed : DateTime.fromisoformat s.metadata.retrievedAt = some s.now :=
    DateTime.fromisoformat_isoformat s.now
  simp only [candidate, TimedStore.directory, hparsed]
  rw [Option.ite_none_right_eq_some, Option.some.injEq]
  rfl

section Search
variable {stores : List TimedStore} {listing : List ((String × String) × SnapshotDirectory)}
  {sourceId : String} {url : Option String} {maxAgeHours : Option ℚ}
  {clock : String × String → DateTime}

/-- A store of the run that returned, under the source and within the filters. -/
def Matching (stores : List TimedStore) (sourceId : String) (url : Option String)
    (maxAgeHours : Option ℚ) (clock : String × String → DateTime) (s : TimedStore) : Prop :=
  s ∈ (runStores stores).2 ∧ s.call.sourceId = sourceId ∧
    s.Matches url maxAgeHours (clock s.call.key)

theorem mem_candidates (hlisting : listing.Perm (runStores stores).1.entries)
    (metadata : SnapshotMetadata) :
    metadata ∈ listing.filterMap (fun entry =>
        candidate sourceId url maxAgeHours (clock entry.1) entry) ↔
      ∃ s, Matching stores sourceId url maxAgeHours clock s ∧ s.metadata = metadata := by
  have hheld := runStores_holds stores
  rw [List.mem_filterMap]
  constructor
  · rintro ⟨⟨key, directory⟩, hentry, hcandidate⟩
    have hget := (Dict.mem_entries _ key directory).mp (hlisting.mem_iff.mp hentry)
    obtain ⟨s, hs, rfl, rfl⟩ := (hheld key directory).mp hget
    obtain ⟨hmatch, hmetadata⟩ := (candidate_directory _ _ _ _ s metadata).mp hcandidate
    exact ⟨s, ⟨hs, hmatch⟩, hmetadata⟩
  · rintro ⟨s, ⟨hs, hmatch⟩, hmetadata⟩
    have hget := (hheld s.call.key s.directory).mpr ⟨s, hs, rfl, rfl⟩
    exact ⟨(s.call.key, s.directory), hlisting.mem_iff.mpr ((Dict.mem_entries _ _ _).mpr hget),
      (candidate_directory _ _ _ _ s metadata).mpr ⟨hmatch, hmetadata⟩⟩

/-- The bodies of stored snapshots are read. -/
theorem read_stored {s : TimedStore} (hs : s ∈ (runStores stores).2) :
    read (runStores stores).1 s.metadata.sourceId s.metadata.contentSha256 =
      .ok (s.metadata, s.call.body) := by
  have hget : (runStores stores).1.get? (s.metadata.sourceId, s.metadata.contentSha256) =
      some s.directory := (runStores_holds stores s.call.key s.directory).mpr ⟨s, hs, rfl, rfl⟩
  have hdigest : ¬ hexdigest s.call.body ≠ s.metadata.contentSha256 := not_not.mpr rfl
  rw [read, hget]
  exact if_neg hdigest

/-- Times of retrieval compared as texts are compared as instants. -/
theorem instant_le_of_text_le {s t : TimedStore}
    (h : t.metadata.retrievedAt ≤ s.metadata.retrievedAt) : t.now.instant ≤ s.now.instant := by
  have hoffset : s.now.parts.offset = t.now.parts.offset := s.utc.trans t.utc.symm
  by_contra hlater
  have htext := DateTime.isoformat_lt_of_instant_lt hoffset (not_le.mp hlater)
  exact absurd htext (not_lt.mpr h)

/-- The search returns nothing where no stored snapshot matches, and otherwise one of the newest
matching snapshots with its body. -/
theorem latestReading_newest (stores : List TimedStore)
    (listing : List ((String × String) × SnapshotDirectory)) (sourceId : String)
    (url : Option String) (maxAgeHours : Option ℚ) (clock : String × String → DateTime)
    (hlisting : listing.Perm (runStores stores).1.entries) :
    (latestReading (runStores stores).1 listing sourceId url maxAgeHours clock = .ok none ↔
        ∀ s, ¬ Matching stores sourceId url maxAgeHours clock s) ∧
      ((∃ s, Matching stores sourceId url maxAgeHours clock s) →
        ∃ s, Matching stores sourceId url maxAgeHours clock s ∧
          (∀ t, Matching stores sourceId url maxAgeHours clock t →
            t.now.instant ≤ s.now.instant) ∧
          latestReading (runStores stores).1 listing sourceId url maxAgeHours clock =
            .ok (some (s.metadata, s.call.body))) := by
  have hrank : ∀ a b : SnapshotMetadata, decide (b.retrievedAt < a.retrievedAt) = true ↔
      OrderDual.toDual a.retrievedAt < OrderDual.toDual b.retrievedAt := by
    intro a b
    rw [decide_eq_true_eq, OrderDual.toDual_lt_toDual]
  have hstart : KeepsLeast (fun m : SnapshotMetadata => OrderDual.toDual m.retrievedAt)
      (fun _ => False) none := fun _ h => h
  have hkeeps := foldl_keepBetter_keepsLeast hrank
    (listing.filterMap fun entry => candidate sourceId url maxAgeHours (clock entry.1) entry) hstart
  simp only [latestReading]
  cases hbest : (listing.filterMap fun entry =>
      candidate sourceId url maxAgeHours (clock entry.1) entry).foldl
        (keepBetter fun a b => b.retrievedAt < a.retrievedAt) none with
  | none =>
    rw [hbest] at hkeeps
    have hnone : ∀ s, ¬ Matching stores sourceId url maxAgeHours clock s := fun s hs =>
      hkeeps s.metadata (Or.inr ((mem_candidates hlisting _).mpr ⟨s, hs, rfl⟩))
    exact ⟨iff_of_true rfl hnone, fun ⟨s, hs⟩ => absurd hs (hnone s)⟩
  | some newest =>
    rw [hbest] at hkeeps
    obtain ⟨hseen, hleast⟩ := hkeeps
    obtain ⟨s, hs, rfl⟩ := (mem_candidates hlisting newest).mp (hseen.resolve_left id)
    have hnewest : ∀ t, Matching stores sourceId url maxAgeHours clock t →
        t.now.instant ≤ s.now.instant := by
      intro t ht
      have hrank := hleast t.metadata (Or.inr ((mem_candidates hlisting _).mpr ⟨t, ht, rfl⟩))
      exact instant_le_of_text_le (OrderDual.toDual_le_toDual.mp hrank)
    simp only [read_stored hs.1]
    refine ⟨iff_of_false (by simp) fun hnone => hnone s hs, fun _ => ⟨s, hs, hnewest, rfl⟩⟩

end Search

section Sample

def sampleStore : TimedStore where
  call := sampleCall
  now := firstTime
  utc := rfl

/-- Half a second after a whole one. -/
def halfTime : DateTime where
  parts := { year := 2026, month := 7, day := 23, hour := 0, minute := 0, second := 0
             microsecond := 500000, offset := 0 }
  valid := by decide

def laterStore : TimedStore where
  call := { sampleCall with body := [91, 93] }
  now := halfTime
  utc := rfl

def sampleStores : List TimedStore := [sampleStore, laterStore]

/-- Two different bodies are both stored. -/
theorem runStores_pair {s t : TimedStore} (h : s.call.digest ≠ t.call.digest) :
    (runStores [s, t]).2 = [s, t] := by
  have hkey : ¬ s.call.key = t.call.key := fun heq => h (congrArg Prod.snd heq)
  have hempty : (Dict.empty : SnapshotCache).get? s.call.key = none := Dict.get?_empty _
  have hlater : (Dict.empty.set s.call.key s.directory).get? t.call.key = none := by
    rw [Dict.get?_set, if_neg hkey, Dict.get?_empty]
  have hfirst : acknowledge (Dict.empty, []) s = (Dict.empty.set s.call.key s.directory, [s]) :=
    acknowledge_none hempty
  rw [runStores, List.foldl_cons, List.foldl_cons, List.foldl_nil, hfirst,
    acknowledge_none hlater]
  rfl

theorem sampleStores_stored : (runStores sampleStores).2 = sampleStores :=
  runStores_pair (by decide +kernel)

/-- The newer of two snapshots, although its text goes on where that of a whole second ends. -/
theorem latestReading_newest_sample :
    latest (runStores sampleStores).1 (runStores sampleStores).1.entries.reverse "eccc-alerts" none
      (some 1) secondTime = .ok (some (laterStore.metadata, laterStore.call.body)) := by
  have hstored : laterStore ∈ (runStores sampleStores).2 := by
    rw [sampleStores_stored]
    exact List.mem_cons_of_mem _ List.mem_cons_self
  have hage : ageHours secondTime halfTime ≤ 1 := by decide +kernel
  have hyoung : ∀ hours : ℚ, some 1 = some hours → ageHours secondTime laterStore.now ≤ hours :=
    fun hours heq => Option.some.inj heq ▸ hage
  have hlater : Matching sampleStores "eccc-alerts" none (some 1) (fun _ => secondTime) laterStore :=
    ⟨hstored, rfl, nofun, hyoung⟩
  obtain ⟨s, hs, hnewest, hread⟩ := (latestReading_newest sampleStores
    (runStores sampleStores).1.entries.reverse "eccc-alerts" none (some 1) (fun _ => secondTime)
    (List.reverse_perm _)).2 ⟨laterStore, hlater⟩
  have hmem : s ∈ sampleStores := sampleStores_stored ▸ hs.1
  rcases List.mem_pair.mp hmem with rfl | rfl
  · exact absurd (hnewest laterStore hlater) (by decide)
  · rw [latest_eq_latestReading, hread]

end Sample

end SnapshotCache

end ContinuityOS.Sources
