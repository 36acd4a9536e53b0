import ContinuityOS.Library.Text
import ContinuityOS.Sources.SnapshotCache

/-! # Snapshots between edge nodes

A peer sends a body as hexadecimal text, and the node keeps that text as the body. Only an
empty body arrives as it was.
-/
namespace ContinuityOS.Sources
open Library Crypto

/-- The names in the metadata files. -/
def SnapshotCache.snapshotIds (cache : SnapshotCache) : List String :=
  cache.entries.filterMap fun entry =>
    match entry.2.metadata with
    | .written metadata => some metadata.snapshotId
    | _ => none

structure EdgeManifest where
  peerId : String
  snapshotIds : List String

structure EdgeNode where
  nodeId : String
  cache : SnapshotCache

/-- What the endpoint for one snapshot sends. -/
structure SyncResponse where
  metadata : SnapshotMetadata
  payload : String

namespace EdgeNode

def getManifest (node : EdgeNode) : EdgeManifest where
  peerId := node.nodeId
  snapshotIds := node.cache.snapshotIds

/-- The first snapshot listed under the name, if there is one. -/
def edgeSync (peer : EdgeNode) (snapshotId : String) : Option SyncResponse :=
  peer.cache.entries.findSome? fun entry =>
    match entry.2.metadata, entry.2.payload with
    | .written metadata, some body =>
      if metadata.snapshotId = snapshotId then
        some { metadata := metadata, payload := String.ofList (hexEncode body) }
      else none
    | _, _ => none

end EdgeNode

/-- What is stored of a response: text is encoded, whatever it stands for. -/
def SyncResponse.call (response : SyncResponse) : StoreCall where
  sourceId := response.metadata.sourceId
  url := response.metadata.url
  body := encodeUtf8 response.payload.toList
  headers := [("content-type", response.metadata.contentType.getD "")]
  status := 200

namespace EdgeNode

/-- The requests one after the other, each with the time of its store; a collision ends them. -/
def syncRequests (peer : EdgeNode) : SnapshotCache → List (String × DateTime) → SnapshotCache
  | cache, [] => cache
  | cache, (snapshotId, now) :: requests =>
    match peer.edgeSync snapshotId with
    | none => syncRequests peer cache requests
    | some response =>
      match SnapshotCache.store cache response.call now with
      | (.error _, next) => next
      | (.ok _, next) => syncRequests peer next requests

/-- The names in the peer's manifest that are not in the node's, in any order. -/
def RequestsMissing (peer node : EdgeNode) (requests : List (String × DateTime)) : Prop :=
  (requests.map Prod.fst).Nodup ∧ ∀ snapshotId, snapshotId ∈ requests.map Prod.fst ↔
    snapshotId ∈ peer.getManifest.snapshotIds ∧ snapshotId ∉ node.getManifest.snapshotIds

def syncWithPeer (node peer : EdgeNode) (requests : List (String × DateTime)) : EdgeNode :=
  { node with cache := peer.syncRequests node.cache requests }

/-- A snapshot of the source with this name and body. -/
def Holds (node : EdgeNode) (sourceId snapshotId : String) (body : List UInt8) : Prop :=
  ∃ digest metadata, node.cache.get? (sourceId, digest) = some ⟨some body, .written metadata⟩ ∧
    metadata.snapshotId = snapshotId

/-- A snapshot of the peer that the node lacks. -/
def Lacks (node peer : EdgeNode) (sourceId snapshotId : String) (body : List UInt8) : Prop :=
  peer.Holds sourceId snapshotId body ∧ snapshotId ∉ node.getManifest.snapshotIds

/-- What the node lacked it holds afterwards, and a second sync requests and changes nothing. -/
structure SyncsIntact (node peer : EdgeNode) (requests : List (String × DateTime)) : Prop where
  delivers : ∀ sourceId snapshotId body, node.Lacks peer sourceId snapshotId body →
    (node.syncWithPeer peer requests).Holds sourceId snapshotId body
  settles : ∀ again, peer.RequestsMissing (node.syncWithPeer peer requests) again →
    again = [] ∧
      (node.syncWithPeer peer requests).syncWithPeer peer again = node.syncWithPeer peer requests

end EdgeNode

/-- Every directory holds a body under its hash, and metadata that name its place. -/
def WellPlaced (cache : SnapshotCache) : Prop :=
  ∀ key directory, cache.get? key = some directory → ∃ body metadata,
    directory = ⟨some body, .written metadata⟩ ∧ hexdigest body = key.2 ∧
      metadata.sourceId = key.1 ∧ metadata.snapshotId = snapshotIdOf key.1 key.2

section Placement
variable {cache : SnapshotCache}

theorem mem_snapshotIds {snapshotId : String} : snapshotId ∈ cache.snapshotIds ↔
    ∃ key directory metadata, cache.get? key = some directory ∧
      directory.metadata = .written metadata ∧ metadata.snapshotId = snapshotId := by
  rw [SnapshotCache.snapshotIds, List.mem_filterMap]
  constructor
  · rintro ⟨⟨key, directory⟩, hentry, hname⟩
    cases hmetadata : directory.metadata with
    | missing => simp [hmetadata] at hname
    | unreadable content => simp [hmetadata] at hname
    | written metadata =>
      simp only [hmetadata, Option.some.injEq] at hname
      exact ⟨key, directory, metadata, (Dict.mem_entries cache key directory).mp hentry, hmetadata,
        hname⟩
  · rintro ⟨key, directory, metadata, hget, hmetadata, hname⟩
    refine ⟨(key, directory), (Dict.mem_entries cache key directory).mpr hget, ?_⟩
    simp only [hmetadata, hname]

/-- In a well placed cache a name is there exactly when a directory of that name is. -/
theorem WellPlaced.mem_snapshotIds (h : WellPlaced cache) {snapshotId : String} :
    snapshotId ∈ cache.snapshotIds ↔
      ∃ key, cache.get? key ≠ none ∧ snapshotIdOf key.1 key.2 = snapshotId := by
  rw [Sources.mem_snapshotIds]
  constructor
  · rintro ⟨key, directory, metadata, hget, hmetadata, hname⟩
    obtain ⟨body, placed, rfl, -, -, hplaced⟩ := h key directory hget
    cases hmetadata
    exact ⟨key, by rw [hget]; exact Option.some_ne_none _, hplaced.symm.trans hname⟩
  · rintro ⟨key, hpresent, hname⟩
    obtain ⟨directory, hget⟩ := Option.ne_none_iff_exists'.mp hpresent
    obtain ⟨body, metadata, rfl, -, -, hplaced⟩ := h key directory hget
    exact ⟨key, _, metadata, hget, rfl, hplaced.trans hname⟩

theorem snapshotIdOf_inj {source other digest : String}
    (h : snapshotIdOf source digest = snapshotIdOf other digest) : source = other := by
  have htext := congrArg String.toList h
  simp only [snapshotIdOf, String.toList_append, List.append_cancel_right_eq] at htext
  exact String.toList_injective htext

/-- A store fills a new directory and leaves every other cache as it is. -/
theorem store_cases (h : WellPlaced cache) (call : StoreCall) (now : DateTime) :
    (cache.get? call.key = none ∧ SnapshotCache.store cache call now =
        (.ok (SnapshotCache.metadataFor call now),
          cache.set call.key ⟨some call.body, .written (SnapshotCache.metadataFor call now)⟩)) ∨
      (cache.get? call.key ≠ none ∧ (SnapshotCache.store cache call now).2 = cache) := by
  cases hget : cache.get? call.key with
  | none =>
    have hdirectory : cache.getD call.key .empty = ⟨none, .missing⟩ := by
      rw [Dict.getD, hget]
      rfl
    refine Or.inl ⟨rfl, ?_⟩
    unfold SnapshotCache.store
    simp only [hdirectory, SnapshotCache.writePayload, SnapshotCache.writeMetadata]
  | some directory =>
    refine Or.inr ⟨Option.some_ne_none _, ?_⟩
    obtain ⟨body, metadata, rfl, -, -, -⟩ := h call.key directory hget
    by_cases hsame : body = call.body
    · rw [SnapshotCache.store_written (hsame ▸ hget)]
      split_ifs <;> rfl
    · have hdirectory : cache.getD call.key .empty = ⟨some body, .written metadata⟩ :=
        Dict.getD_of_get? cache hget _
      unfold SnapshotCache.store
      simp only [hdirectory, SnapshotCache.writePayload, ne_eq, hsame, not_false_eq_true, if_true]
      exact Dict.set_of_get? cache hget

theorem wellPlaced_empty : WellPlaced Dict.empty := by
  intro key directory hget
  cases hget

theorem wellPlaced_store (h : WellPlaced cache) (call : StoreCall) (now : DateTime) :
    WellPlaced (SnapshotCache.store cache call now).2 := by
  rcases store_cases h call now with ⟨-, hstore⟩ | ⟨-, hstore⟩
  · rw [hstore]
    intro key directory hget
    rw [Dict.get?_set] at hget
    split_ifs at hget with hkey
    · cases hget
      exact ⟨call.body, _, rfl, hkey ▸ rfl, hkey ▸ rfl, hkey ▸ rfl⟩
    · exact h key directory hget
  · rw [hstore]
    exact h

/-- Whatever is stored, a cache that starts empty is well placed. -/
theorem wellPlaced_stores (calls : List (StoreCall × DateTime)) :
    WellPlaced (calls.foldl (fun cache call => (SnapshotCache.store cache call.1 call.2).2)
      Dict.empty) := by
  have hmain : ∀ cache, WellPlaced cache → WellPlaced
      (calls.foldl (fun cache call => (SnapshotCache.store cache call.1 call.2).2) cache) := by
    induction calls with
    | nil => exact fun cache h => h
    | cons call calls ih => exact fun cache h => ih _ (wellPlaced_store h call.1 call.2)
  exact hmain _ wellPlaced_empty

/-- A store keeps what is there. -/
theorem store_keeps (h : WellPlaced cache) (call : StoreCall) (now : DateTime)
    {key : String × String} {directory : SnapshotDirectory} (hget : cache.get? key = some directory) :
    (SnapshotCache.store cache call now).2.get? key = some directory := by
  rcases store_cases h call now with ⟨hnew, hstore⟩ | ⟨-, hstore⟩
  · have hkey : call.key ≠ key := by
      rintro rfl
      rw [hnew] at hget
      cases hget
    rw [hstore, Dict.get?_set_ne _ hkey, hget]
  · rw [hstore, hget]

end Placement

namespace EdgeNode
variable {node peer : EdgeNode} {cache : SnapshotCache}

section Requests

theorem edgeSync_some {snapshotId : String} {response : SyncResponse}
    (h : peer.edgeSync snapshotId = some response) :
    ∃ key body, peer.cache.get? key = some ⟨some body, .written response.metadata⟩ ∧
      response.metadata.snapshotId = snapshotId ∧
      response.payload = String.ofList (hexEncode body) := by
  obtain ⟨⟨key, directory⟩, hentry, hresponse⟩ := List.exists_of_findSome?_eq_some h
  obtain ⟨payload, metadata⟩ := directory
  cases metadata with
  | missing => cases hresponse
  | unreadable content => cases hresponse
  | written metadata =>
    cases payload with
    | none => cases hresponse
    | some body =>
      simp only at hresponse
      split_ifs at hresponse with hname
      cases hresponse
      exact ⟨key, body, (Dict.mem_entries _ _ _).mp hentry, hname, rfl⟩

/-- A name in the manifest of a well placed cache is answered. -/
theorem edgeSync_isSome (hpeer : WellPlaced peer.cache) {snapshotId : String}
    (h : snapshotId ∈ peer.cache.snapshotIds) : ∃ response, peer.edgeSync snapshotId = some response := by
  obtain ⟨key, directory, metadata, hget, hmetadata, hname⟩ := mem_snapshotIds.mp h
  obtain ⟨body, placed, rfl, -⟩ := hpeer key directory hget
  cases hmetadata
  rw [← Option.isSome_iff_exists, edgeSync, List.findSome?_isSome_iff]
  refine ⟨(key, ⟨some body, .written metadata⟩), (Dict.mem_entries _ _ _).mpr hget, ?_⟩
  simp only [hname, if_true, Option.isSome_some]

/-- Everything there after the requests was there before or is the text of a response. -/
theorem syncRequests_origin {requests : List (String × DateTime)} (hcache : WellPlaced cache)
    {key : String × String} {directory : SnapshotDirectory}
    (hget : (peer.syncRequests cache requests).get? key = some directory) :
    cache.get? key = some directory ∨ ∃ snapshotId ∈ requests.map Prod.fst, ∃ response,
      peer.edgeSync snapshotId = some response ∧ response.metadata.sourceId = key.1 ∧
      directory.payload = some (encodeUtf8 response.payload.toList) := by
  induction requests generalizing cache with
  | nil => exact Or.inl hget
  | cons request requests ih =>
    obtain ⟨snapshotId, now⟩ := request
    have hlater : ∀ {c : SnapshotCache}, WellPlaced c →
        (peer.syncRequests c requests).get? key = some directory →
        c.get? key = some directory ∨ ∃ other ∈ ((snapshotId, now) :: requests).map Prod.fst,
          ∃ response, peer.edgeSync other = some response ∧ response.metadata.sourceId = key.1 ∧
          directory.payload = some (encodeUtf8 response.payload.toList) := by
      intro c hc hgetc
      refine (ih hc hgetc).imp_right fun ⟨other, hother, hresponse⟩ => ⟨other, ?_, hresponse⟩
      exact List.mem_cons_of_mem _ hother
    rw [syncRequests] at hget
    cases hresponse : peer.edgeSync snapshotId with
    | none =>
      rw [hresponse] at hget
      exact hlater hcache hget
    | some response =>
      rw [hresponse] at hget
      have hstored : (SnapshotCache.store cache response.call now).2.get? key = some directory →
          cache.get? key = some directory ∨ ∃ other ∈ ((snapshotId, now) :: requests).map Prod.fst,
            ∃ response, peer.edgeSync other = some response ∧ response.metadata.sourceId = key.1 ∧
            directory.payload = some (encodeUtf8 response.payload.toList) := by
        intro hnext
        rcases store_cases hcache response.call now with ⟨-, hstore⟩ | ⟨-, hstore⟩
        · rw [hstore, Dict.get?_set] at hnext
          split_ifs at hnext with hkey
          · cases hnext
            exact Or.inr ⟨snapshotId, List.mem_cons_self, response, hresponse, hkey ▸ rfl, rfl⟩
          · exact Or.inl hnext
        · rw [hstore] at hnext
          exact Or.inl hnext
      have hnext := wellPlaced_store hcache response.call now
      cases hstore : SnapshotCache.store cache response.call now with
      | mk result next =>
        rw [hstore] at hstored hnext
        simp only [hstore] at hget
        cases result with
        | error e => exact hstored hget
        | ok metadata =>
          rcases hlater hnext hget with hold | hnew
          · exact hstored hold
          · exact Or.inr hnew

/-- Where every response is new and empty, all are stored under their names. -/
theorem syncRequests_empty {requests : List (String × DateTime)} (hcache : WellPlaced cache)
    (hnodup : (requests.map Prod.fst).Nodup)
    (hnew : ∀ snapshotId ∈ requests.map Prod.fst, snapshotId ∉ cache.snapshotIds)
    (hempty : ∀ snapshotId ∈ requests.map Prod.fst, ∃ response,
      peer.edgeSync snapshotId = some response ∧ response.payload = String.ofList (hexEncode []) ∧
      snapshotId = snapshotIdOf response.metadata.sourceId (hexdigest [])) :
    WellPlaced (peer.syncRequests cache requests) ∧
      (∀ key directory, cache.get? key = some directory →
        (peer.syncRequests cache requests).get? key = some directory) ∧
      ∀ source, snapshotIdOf source (hexdigest []) ∈ requests.map Prod.fst → ∃ metadata,
        (peer.syncRequests cache requests).get? (source, hexdigest []) =
            some ⟨some [], .written metadata⟩ ∧
          metadata.snapshotId = snapshotIdOf source (hexdigest []) := by
  induction requests generalizing cache with
  | nil => exact ⟨hcache, fun _ _ hget => hget, fun source hmem => absurd hmem List.not_mem_nil⟩
  | cons request requests ih =>
    obtain ⟨snapshotId, now⟩ := request
    rw [List.map_cons, List.nodup_cons] at hnodup
    rw [List.map_cons, List.forall_mem_cons] at hnew hempty
    obtain ⟨⟨response, hresponse, hpayload, hname⟩, hrest⟩ := hempty
    have hbody : response.call.body = [] := by
      rw [SyncResponse.call, hpayload, String.toList_ofList]
      rfl
    have hkey : response.call.key = (response.metadata.sourceId, hexdigest []) := by
      rw [StoreCall.key, StoreCall.digest, hbody]
      rfl
    have hfresh : cache.get? response.call.key = none := by
      by_contra hpresent
      exact hnew.1 (hcache.mem_snapshotIds.mpr
        ⟨response.call.key, hpresent, by rw [hkey]; exact hname.symm⟩)
    obtain ⟨-, hstore⟩ | ⟨hpresent, -⟩ := store_cases hcache response.call now
    · have hnext := wellPlaced_store hcache response.call now
      have hkeeps : ∀ key directory, cache.get? key = some directory →
          (SnapshotCache.store cache response.call now).2.get? key = some directory :=
        fun key directory hget => store_keeps hcache response.call now hget
      have hrun : peer.syncRequests cache ((snapshotId, now) :: requests) =
          peer.syncRequests (SnapshotCache.store cache response.call now).2 requests := by
        rw [syncRequests, hresponse]
        simp only [hstore]
      have hnewer : ∀ other ∈ requests.map Prod.fst,
          other ∉ (SnapshotCache.store cache response.call now).2.snapshotIds := by
        intro other hother hmem
        obtain ⟨key, hpresent, hothername⟩ := hnext.mem_snapshotIds.mp hmem
        rw [hstore, Dict.get?_set] at hpresent
        split_ifs at hpresent with hsame
        · rw [← hsame, hkey] at hothername
          exact hnodup.1 ((hname.trans hothername) ▸ hother)
        · exact hnew.2 other hother (hcache.mem_snapshotIds.mpr ⟨key, hpresent, hothername⟩)
      obtain ⟨hplaced, hkept, hfound⟩ := ih hnext hnodup.2 hnewer hrest
      rw [hrun]
      refine ⟨hplaced, fun key directory hget => hkept key directory (hkeeps key directory hget), ?_⟩
      intro source hmem
      rcases List.mem_cons.mp hmem with heq | hlater
      · have hsource : source = response.metadata.sourceId := snapshotIdOf_inj (heq.trans hname)
        have hget : (SnapshotCache.store cache response.call now).2.get? (source, hexdigest []) =
            some ⟨some response.call.body, .written
              (SnapshotCache.metadataFor response.call now)⟩ := by
          rw [hstore, hsource, ← hkey, Dict.get?_set_self]
        rw [hbody] at hget
        refine ⟨_, hkept _ _ hget, ?_⟩
        change snapshotIdOf response.metadata.sourceId (hexdigest response.call.body) = _
        rw [hbody, hsource]
      · exact hfound source hlater
    · exact absurd hfresh hpresent

/-- A body that arrives was empty: it is the text of another body that arrives, half as long. -/
theorem empty_of_delivers (hnode : WellPlaced node.cache)
    {requests : List (String × DateTime)} (hrequests : peer.RequestsMissing node requests)
    (hdelivers : ∀ sourceId snapshotId body, node.Lacks peer sourceId snapshotId body →
      (node.syncWithPeer peer requests).Holds sourceId snapshotId body) :
    ∀ sourceId snapshotId body, node.Lacks peer sourceId snapshotId body → body = [] := by
  have hmain : ∀ n, ∀ sourceId snapshotId body, node.Lacks peer sourceId snapshotId body →
      body.length = n → body = [] := by
    intro n
    induction n using Nat.strong_induction_on with
    | _ n ih =>
      intro sourceId snapshotId body hlacks hlen
      obtain ⟨digest, metadata, hget, hname⟩ := hdelivers sourceId snapshotId body hlacks
      rcases syncRequests_origin hnode hget with hold | ⟨other, hother, response, hresponse, -, hbody⟩
      · exact absurd (mem_snapshotIds.mpr ⟨_, _, metadata, hold, rfl, hname⟩) hlacks.2
      · obtain ⟨key, sent, hsent, hothername, hpayload⟩ := edgeSync_some hresponse
        have htext : body = encodeUtf8 (hexEncode sent) := by
          rw [hpayload, String.toList_ofList] at hbody
          exact Option.some.inj hbody
        have hlonger := length_le_encodeUtf8 (hexEncode sent)
        rw [← htext, hexEncode_length, hlen] at hlonger
        by_cases hsentEmpty : sent = []
        · rw [htext, hsentEmpty]
          rfl
        · have hpos := List.length_pos_iff.mpr hsentEmpty
          exact absurd (ih sent.length (by omega) key.1 other sent
            ⟨⟨key.2, response.metadata, hsent, hothername⟩, ((hrequests.2 other).mp hother).2⟩ rfl)
            hsentEmpty
  exact fun sourceId snapshotId body hlacks => hmain _ sourceId snapshotId body hlacks rfl

/-- Empty bodies arrive, and leave nothing to request. -/
theorem intact_of_empty (hnode : WellPlaced node.cache) (hpeer : WellPlaced peer.cache)
    {requests : List (String × DateTime)} (hrequests : peer.RequestsMissing node requests)
    (hempty : ∀ sourceId snapshotId body, node.Lacks peer sourceId snapshotId body → body = []) :
    node.SyncsIntact peer requests := by
  have hanswers : ∀ snapshotId ∈ requests.map Prod.fst, ∃ response,
      peer.edgeSync snapshotId = some response ∧ response.payload = String.ofList (hexEncode []) ∧
      snapshotId = snapshotIdOf response.metadata.sourceId (hexdigest []) := by
    intro snapshotId hmem
    obtain ⟨hthere, hlacking⟩ := (hrequests.2 snapshotId).mp hmem
    obtain ⟨response, hresponse⟩ := edgeSync_isSome hpeer hthere
    obtain ⟨key, body, hget, hname, hpayload⟩ := edgeSync_some hresponse
    have hbody : body = [] :=
      hempty key.1 snapshotId body ⟨⟨key.2, response.metadata, hget, hname⟩, hlacking⟩
    obtain ⟨placed, metadata, hdirectory, hdigest, hsource, hplaced⟩ := hpeer key _ hget
    cases hdirectory
    rw [hbody] at hpayload hdigest
    exact ⟨response, hresponse, hpayload, by rw [← hname, hplaced, hsource, hdigest]⟩
  obtain ⟨hplaced, hkept, hfound⟩ := syncRequests_empty hnode hrequests.1
    (fun snapshotId hmem => ((hrequests.2 snapshotId).mp hmem).2) hanswers
  have hnames : ∀ sourceId snapshotId body, node.Lacks peer sourceId snapshotId body →
      snapshotId = snapshotIdOf sourceId (hexdigest []) ∧
        snapshotIdOf sourceId (hexdigest []) ∈ requests.map Prod.fst := by
    intro sourceId snapshotId body hlacks
    obtain ⟨⟨digest, metadata, hget, hname⟩, hlacking⟩ := hlacks
    have hbody := hempty sourceId snapshotId body ⟨⟨digest, metadata, hget, hname⟩, hlacking⟩
    obtain ⟨placed, written, hdirectory, hdigest, -, hid⟩ := hpeer _ _ hget
    cases hdirectory
    have heq : snapshotId = snapshotIdOf sourceId (hexdigest []) := by
      rw [← hname, hid, ← hdigest, hbody]
    refine ⟨heq, (hrequests.2 _).mpr (heq ▸ ⟨?_, hlacking⟩)⟩
    exact mem_snapshotIds.mpr ⟨_, _, metadata, hget, rfl, hname⟩
  constructor
  · intro sourceId snapshotId body hlacks
    obtain ⟨heq, hmem⟩ := hnames sourceId snapshotId body hlacks
    obtain ⟨metadata, hget, hid⟩ := hfound sourceId hmem
    rw [hempty sourceId snapshotId body hlacks]
    exact ⟨hexdigest [], metadata, hget, hid.trans heq.symm⟩
  · intro again hagain
    have hnil : again = [] := by
      rw [← List.map_eq_nil_iff (f := Prod.fst), List.eq_nil_iff_forall_not_mem]
      intro snapshotId hmem
      obtain ⟨hthere, hlacking⟩ := (hagain.2 snapshotId).mp hmem
      apply hlacking
      by_cases hold : snapshotId ∈ node.cache.snapshotIds
      · obtain ⟨key, directory, metadata, hget, hmetadata, hname⟩ := mem_snapshotIds.mp hold
        exact mem_snapshotIds.mpr ⟨key, directory, metadata, hkept key directory hget, hmetadata, hname⟩
      · obtain ⟨key, directory, metadata, hget, hmetadata, hname⟩ := mem_snapshotIds.mp hthere
        obtain ⟨body, placed, rfl, -, -, -⟩ := hpeer key directory hget
        cases hmetadata
        obtain ⟨heq, hmem'⟩ := hnames key.1 snapshotId body ⟨⟨key.2, metadata, hget, hname⟩, hold⟩
        obtain ⟨stored, hstored, hid⟩ := hfound key.1 hmem'
        exact mem_snapshotIds.mpr ⟨_, _, stored, hstored, rfl, hid.trans heq.symm⟩
    exact ⟨hnil, by rw [hnil]; rfl⟩

/-- A sync delivers what was lacking as it was, and settles, exactly when all of it is empty. -/
theorem sync_intact_iff (node peer : EdgeNode) (hnode : WellPlaced node.cache)
    (hpeer : WellPlaced peer.cache) (requests : List (String × DateTime))
    (hrequests : peer.RequestsMissing node requests) :
    node.SyncsIntact peer requests ↔
      ∀ sourceId snapshotId body, node.Lacks peer sourceId snapshotId body → body = [] :=
  ⟨fun h => empty_of_delivers hnode hrequests h.delivers, intact_of_empty hnode hpeer hrequests⟩

end Requests

section Sample

/-- A peer that has stored one body. -/
def samplePeer (body : List UInt8) : EdgeNode where
  nodeId := "peer"
  cache := (SnapshotCache.store Dict.empty { SnapshotCache.sampleCall with body := body }
    SnapshotCache.firstTime).2

def sampleNode : EdgeNode := ⟨"node", Dict.empty⟩

def sampleRequests (body : List UInt8) : List (String × DateTime) :=
  [(snapshotIdOf "eccc-alerts" (hexdigest body), SnapshotCache.secondTime)]

theorem samplePeer_wellPlaced (body : List UInt8) : WellPlaced (samplePeer body).cache :=
  wellPlaced_stores [({ SnapshotCache.sampleCall with body := body }, SnapshotCache.firstTime)]

theorem samplePeer_holds (body : List UInt8) : sampleNode.Lacks (samplePeer body) "eccc-alerts"
    (snapshotIdOf "eccc-alerts" (hexdigest body)) body := by
  refine ⟨⟨hexdigest body, _, Dict.get?_set_self _ _ _, rfl⟩, ?_⟩
  exact List.not_mem_nil

theorem sampleRequests_missing (body : List UInt8) :
    (samplePeer body).RequestsMissing sampleNode (sampleRequests body) := by
  refine ⟨List.nodup_singleton _, fun snapshotId => ?_⟩
  have hpeer : (samplePeer body).getManifest.snapshotIds =
      [snapshotIdOf "eccc-alerts" (hexdigest body)] := rfl
  have hnode : sampleNode.getManifest.snapshotIds = [] := rfl
  rw [hpeer, hnode]
  exact ⟨fun h => ⟨h, List.not_mem_nil⟩, fun h => h.1⟩

theorem sync_intact_sample : sampleNode.SyncsIntact (samplePeer []) (sampleRequests []) ↔
    ∀ sourceId snapshotId body, sampleNode.Lacks (samplePeer []) sourceId snapshotId body →
      body = [] :=
  sync_intact_iff sampleNode (samplePeer []) (wellPlaced_stores [])
    (samplePeer_wellPlaced []) (sampleRequests []) (sampleRequests_missing [])

/-- A body of two bytes arrives as the four characters of its hexadecimal text. -/
theorem sync_not_intact :
    ¬ ∀ (node peer : EdgeNode) (requests : List (String × DateTime)), WellPlaced node.cache →
      WellPlaced peer.cache → peer.RequestsMissing node requests →
      node.SyncsIntact peer requests := by
  intro h
  have hintact := h sampleNode (samplePeer [123, 125]) (sampleRequests [123, 125])
    (wellPlaced_stores []) (samplePeer_wellPlaced [123, 125]) (sampleRequests_missing [123, 125])
  have hempty := empty_of_delivers wellPlaced_empty (sampleRequests_missing [123, 125])
    hintact.delivers _ _ _ (samplePeer_holds [123, 125])
  cases hempty

end Sample

end EdgeNode

end ContinuityOS.Sources
