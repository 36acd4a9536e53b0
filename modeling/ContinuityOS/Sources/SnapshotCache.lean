import ContinuityOS.Crypto.MerkleTree
import ContinuityOS.Library.DateTime
import ContinuityOS.Library.Dict
import ContinuityOS.Library.Selection

/-! # The snapshot cache

Snapshots are kept under their source and the hash of their body, each as a payload file and a
metadata file that are written once. The metadata names the time of retrieval, so the second
retrieval of the same body has other metadata for the same file.
-/
namespace ContinuityOS.Sources
open Library Crypto

structure SnapshotMetadata where
  snapshotId : String
  sourceId : String
  url : String
  retrievedAt : String
  contentSha256 : String
  contentType : Option String
  etag : Option String
  lastModified : Option String
  statusCode : ℤ
deriving DecidableEq

/-- What stands in a metadata file: the JSON text of some metadata, or another text. -/
inductive MetadataFile where
  | missing
  | unreadable (content : List UInt8)
  | written (metadata : SnapshotMetadata)
deriving DecidableEq

/-- The files of one snapshot. -/
structure SnapshotDirectory where
  payload : Option (List UInt8)
  metadata : MetadataFile
deriving DecidableEq

namespace SnapshotDirectory

def empty : SnapshotDirectory := ⟨none, .missing⟩

end SnapshotDirectory

/-- Directories by source and by the hash of the body. -/
abbrev SnapshotCache := Dict (String × String) SnapshotDirectory

inductive CacheError where
  | immutableSnapshotCollision (file : String)
  | notFound
  | notJson
  | hashMismatch
deriving DecidableEq

/-- The arguments of one store. -/
structure StoreCall where
  sourceId : String
  url : String
  body : List UInt8
  headers : List (String × String)
  status : ℤ

namespace StoreCall

def digest (call : StoreCall) : String := hexdigest call.body

def key (call : StoreCall) : String × String := (call.sourceId, call.digest)

end StoreCall

/-- The name of a snapshot: its source and the first digits of its hash. -/
def snapshotIdOf (sourceId digest : String) : String :=
  sourceId ++ "-" ++ String.ofList (digest.toList.take 20)

namespace SnapshotCache

def metadataFor (call : StoreCall) (now : DateTime) : SnapshotMetadata where
  snapshotId := snapshotIdOf call.sourceId call.digest
  sourceId := call.sourceId
  url := call.url
  retrievedAt := now.isoformat
  contentSha256 := call.digest
  contentType := Bindings.lookup call.headers "content-type"
  etag := Bindings.lookup call.headers "etag"
  lastModified := Bindings.lookup call.headers "last-modified"
  statusCode := call.status

/-- Writing a payload file once. -/
def writePayload (file : Option (List UInt8)) (content : List UInt8) :
    Except CacheError (Option (List UInt8)) :=
  match file with
  | none => .ok (some content)
  | some present =>
    if present ≠ content then .error (.immutableSnapshotCollision "payload.bin") else .ok file

/-- Writing a metadata file once. -/
def writeMetadata (file : MetadataFile) (metadata : SnapshotMetadata) :
    Except CacheError MetadataFile :=
  match file with
  | .missing => .ok (.written metadata)
  | present =>
    if present ≠ .written metadata then .error (.immutableSnapshotCollision "metadata.json")
    else .ok present

/-- The payload is written before the metadata, and stays where the metadata collides. -/
def store (cache : SnapshotCache) (call : StoreCall) (now : DateTime) :
    Except CacheError SnapshotMetadata × SnapshotCache :=
  let directory := cache.getD call.key .empty
  match writePayload directory.payload call.body with
  | .error e => (.error e, cache.set call.key directory)
  | .ok payload =>
    match writeMetadata directory.metadata (metadataFor call now) with
    | .error e => (.error e, cache.set call.key ⟨payload, directory.metadata⟩)
    | .ok metadata => (.ok (metadataFor call now), cache.set call.key ⟨payload, metadata⟩)

def read (cache : SnapshotCache) (sourceId sha256 : String) :
    Except CacheError (SnapshotMetadata × List UInt8) :=
  match cache.get? (sourceId, sha256) with
  | none => .error .notFound
  | some directory =>
    match directory.metadata, directory.payload with
    | .missing, _ => .error .notFound
    | .unreadable _, _ => .error .notJson
    | .written _, none => .error .notFound
    | .written metadata, some body =>
      if hexdigest body ≠ sha256 then .error .hashMismatch else .ok (metadata, body)

/-- Hours between two times. -/
def ageHours (now retrievedAt : DateTime) : ℚ := (now.instant - retrievedAt.instant : ℤ) / 3600000000

/-- Metadata of the source that is readable, for the wanted address and young enough. -/
def candidate (sourceId : String) (url : Option String) (maxAgeHours : Option ℚ) (now : DateTime)
    (entry : (String × String) × SnapshotDirectory) : Option SnapshotMetadata :=
  match entry.2.metadata with
  | .written metadata =>
    match DateTime.fromisoformat metadata.retrievedAt with
    | none => none
    | some retrievedAt =>
      if entry.1.1 = sourceId ∧ (∀ wanted, url = some wanted → metadata.url = wanted) ∧
          (∀ hours, maxAgeHours = some hours → ageHours now retrievedAt ≤ hours) then some metadata
      else none
  | _ => none

/-- The newest snapshot of a source, the first one listed of equally new ones. -/
def latest (cache : SnapshotCache) (listing : List ((String × String) × SnapshotDirectory))
    (sourceId : String) (url : Option String) (maxAgeHours : Option ℚ) (now : DateTime) :
    Except CacheError (Option (SnapshotMetadata × List UInt8)) :=
  let candidates := listing.filterMap (candidate sourceId url maxAgeHours now)
  match candidates.foldl (keepBetter fun a b => b.retrievedAt < a.retrievedAt) none with
  | none => .ok none
  | some newest =>
    match read cache newest.sourceId newest.contentSha256 with
    | .error e => .error e
    | .ok (_, body) => .ok (some (newest, body))

/-- A store at this time succeeds and leaves the body as what is read and what is the latest,
for every maximal age and in whatever order the directories are listed. -/
structure RefreshesAt (cache : SnapshotCache) (call : StoreCall) (now : DateTime) : Prop where
  stores : ∃ metadata, (store cache call now).1 = .ok metadata
  reads : ∃ metadata, read (store cache call now).2 call.sourceId call.digest =
    .ok (metadata, call.body)
  latest : ∀ hours : ℚ, 0 < hours →
    ∀ listing, listing.Perm (store cache call now).2.entries →
      ∃ metadata, SnapshotCache.latest (store cache call now).2 listing call.sourceId (some call.url)
        (some hours) now = .ok (some (metadata, call.body))

section Store
variable {cache : SnapshotCache} {call : StoreCall} {now : DateTime} {metadata : SnapshotMetadata}

/-- What is in the directory of a body that was stored. -/
theorem store_ok (h : (store cache call now).1 = .ok metadata) :
    metadata = metadataFor call now ∧
      (store cache call now).2.get? call.key = some ⟨some call.body, .written (metadataFor call now)⟩ := by
  unfold store at h ⊢
  simp only at h ⊢
  cases hpayload : writePayload (cache.getD call.key .empty).payload call.body with
  | error e => rw [hpayload] at h; cases h
  | ok payload =>
    have hbody : payload = some call.body := by
      unfold writePayload at hpayload
      split at hpayload
      · cases hpayload
        rfl
      · split_ifs at hpayload with hsame
        cases hpayload
        simp_all
    rw [hpayload] at h
    cases hwritten : writeMetadata (cache.getD call.key .empty).metadata (metadataFor call now) with
    | error e => simp only [hwritten] at h; cases h
    | ok written =>
      have hmetadata : written = .written (metadataFor call now) := by
        unfold writeMetadata at hwritten
        split at hwritten
        · cases hwritten
          rfl
        · split_ifs at hwritten with hsame
          cases hwritten
          exact not_not.mp hsame
      simp only [hwritten] at h
      cases h
      simp only [Dict.get?_set_self, hbody, hmetadata, and_self]

/-- Storing over a written directory compares the metadata. -/
theorem store_written {written : SnapshotMetadata}
    (h : cache.get? call.key = some ⟨some call.body, .written written⟩) :
    store cache call now =
      if .written written ≠ MetadataFile.written (metadataFor call now) then
        (.error (.immutableSnapshotCollision "metadata.json"), cache)
      else (.ok (metadataFor call now), cache) := by
  have hdirectory : cache.getD call.key .empty = ⟨some call.body, .written written⟩ :=
    Dict.getD_of_get? cache h _
  unfold store
  simp only [hdirectory, writePayload, writeMetadata, ne_eq, not_true_eq_false, if_false]
  split_ifs with hsame
  · simp only [Dict.set_of_get? cache h]
  · simp only [Dict.set_of_get? cache h]

/-- At the time of the first store the store can be repeated, and the body is read. -/
theorem store_again (h : (store cache call now).1 = .ok metadata) :
    store (store cache call now).2 call now = (.ok metadata, (store cache call now).2) ∧
      read (store cache call now).2 call.sourceId call.digest = .ok (metadata, call.body) := by
  obtain ⟨rfl, hget⟩ := store_ok h
  constructor
  · rw [store_written hget, if_neg (not_not.mpr rfl)]
  · have hkey : (store cache call now).2.get? (call.sourceId, call.digest) =
        some ⟨some call.body, .written (metadataFor call now)⟩ := hget
    have hdigest : ¬ hexdigest call.body ≠ call.digest := not_not.mpr rfl
    rw [read, hkey]
    exact if_neg hdigest

/-- At any other time the second store collides with the metadata of the first. -/
theorem store_collides {later : DateTime} (h : (store cache call now).1 = .ok metadata)
    (hlater : later ≠ now) :
    store (store cache call now).2 call later =
      (.error (.immutableSnapshotCollision "metadata.json"), (store cache call now).2) := by
  obtain ⟨-, hget⟩ := store_ok h
  have hother : MetadataFile.written (metadataFor call now) ≠ .written (metadataFor call later) := by
    intro heq
    have htext := congrArg SnapshotMetadata.retrievedAt (MetadataFile.written.inj heq)
    exact hlater (DateTime.isoformat_injective htext).symm
  rw [store_written hget, if_pos hother]

/-- A body that was stored is refreshed at no later time. -/
theorem store_not_refreshes (cache : SnapshotCache) (call : StoreCall) (earlier later : DateTime)
    (hstored : ∃ metadata, (store cache call earlier).1 = .ok metadata)
    (hlater : earlier.instant < later.instant) :
    ¬ RefreshesAt (store cache call earlier).2 call later := by
  obtain ⟨metadata, hmetadata⟩ := hstored
  have hne : later ≠ earlier := fun heq => lt_irrefl _ (heq ▸ hlater)
  rintro ⟨⟨again, hagain⟩, -, -⟩
  rw [store_collides hmetadata hne] at hagain
  cases hagain

end Store

section Sample

def sampleCall : StoreCall where
  sourceId := "eccc-alerts"
  url := "https://api.weather.gc.ca/"
  body := [123, 125]
  headers := [("content-type", "application/json")]
  status := 200

def firstTime : DateTime where
  parts := { year := 2026, month := 7, day := 23, hour := 0, minute := 0, second := 0
             microsecond := 0, offset := 0 }
  valid := by decide

def secondTime : DateTime where
  parts := { year := 2026, month := 7, day := 23, hour := 0, minute := 0, second := 1
             microsecond := 0, offset := 0 }
  valid := by decide

theorem store_not_refreshes_sample :
    ¬ RefreshesAt (store Dict.empty sampleCall firstTime).2 sampleCall secondTime :=
  store_not_refreshes Dict.empty sampleCall firstTime secondTime ⟨_, rfl⟩ (by decide)

/-- One second later the same body cannot be stored. -/
theorem store_not_idempotent :
    ¬ ∀ (cache : SnapshotCache) (call : StoreCall) (earlier later : DateTime),
      earlier.instant < later.instant → (∃ metadata, (store cache call earlier).1 = .ok metadata) →
      RefreshesAt (store cache call earlier).2 call later := by
  intro h
  have hrefreshes := h Dict.empty sampleCall firstTime secondTime (by decide) ⟨_, rfl⟩
  obtain ⟨metadata, hmetadata⟩ := hrefreshes.stores
  have hne : secondTime ≠ firstTime := by decide
  rw [store_collides rfl hne] at hmetadata
  cases hmetadata

end Sample

end SnapshotCache

end ContinuityOS.Sources
