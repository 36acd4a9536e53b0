import ContinuityOS.Sources.EdgeSync
import Mathlib.Logic.Function.Iterate
import Mathlib.Logic.Relation

/-! # The gossip of the edge nodes

Any number of nodes store snapshots of their own and sync with each other, each in the steps of
the code: the manifest of a peer, the comparison with the own one, and one answer after the
other, with stores of other nodes in between. Nothing that a node holds changes, and whatever it
holds goes back to a snapshot that some node stored, told on as hexadecimal text once for each
node on the way.
-/
namespace ContinuityOS.Sources
open Library Crypto

/-- Where a node stands in a sync. -/
inductive SyncPhase (ν : Type) where
  | idle
  | listed (peer : ν) (snapshotIds : List String)
  | requesting (peer : ν) (missing : List String)
  | answered (peer : ν) (response : SyncResponse) (missing : List String)

/-- The nodes with their caches, and the snapshots that were stored from outside. -/
structure GossipNetwork (ν : Type) where
  node : ν → EdgeNode
  phase : ν → SyncPhase ν
  ingested : List StoreCall

namespace GossipNetwork
variable {ν : Type}

def start (nodeId : ν → String) : GossipNetwork ν where
  node n := ⟨nodeId n, Dict.empty⟩
  phase _ := .idle
  ingested := []

/-- A node with the cache after a store. -/
def stored (net : GossipNetwork ν) (n : ν) (call : StoreCall) (now : DateTime) : EdgeNode :=
  { net.node n with cache := (SnapshotCache.store (net.node n).cache call now).2 }

/-- The steps of the nodes. A sync that fails anywhere ends, and a peer that has no answer is
asked for the next snapshot. -/
inductive Step [DecidableEq ν] : GossipNetwork ν → GossipNetwork ν → Prop where
  | ingest {net : GossipNetwork ν} (n : ν) (call : StoreCall) (now : DateTime) :
      Step net { net with node := Function.update net.node n (net.stored n call now)
                          ingested := net.ingested ++ [call] }
  | list {net : GossipNetwork ν} (n peer : ν) (hphase : net.phase n = .idle) :
      Step net { net with phase := Function.update net.phase n
                            (.listed peer (net.node peer).getManifest.snapshotIds) }
  | compare {net : GossipNetwork ν} (n : ν) {peer : ν} {snapshotIds missing : List String}
      (hphase : net.phase n = .listed peer snapshotIds) (hnodup : missing.Nodup)
      (hmissing : ∀ snapshotId, snapshotId ∈ missing ↔ snapshotId ∈ snapshotIds ∧
        snapshotId ∉ (net.node n).getManifest.snapshotIds) :
      Step net { net with phase := Function.update net.phase n (.requesting peer missing) }
  | answer {net : GossipNetwork ν} (n : ν) {peer : ν} {snapshotId : String} {missing : List String}
      {response : SyncResponse} (hphase : net.phase n = .requesting peer (snapshotId :: missing))
      (hanswer : (net.node peer).edgeSync snapshotId = some response) :
      Step net { net with phase := Function.update net.phase n (.answered peer response missing) }
  | refuse {net : GossipNetwork ν} (n : ν) {peer : ν} {snapshotId : String} {missing : List String}
      (hphase : net.phase n = .requesting peer (snapshotId :: missing))
      (hanswer : (net.node peer).edgeSync snapshotId = none) :
      Step net { net with phase := Function.update net.phase n (.requesting peer missing) }
  | receive {net : GossipNetwork ν} (n : ν) {peer : ν} {response : SyncResponse}
      {missing : List String} (now : DateTime)
      (hphase : net.phase n = .answered peer response missing) :
      Step net { net with node := Function.update net.node n (net.stored n response.call now)
                          phase := Function.update net.phase n
                            (match (SnapshotCache.store (net.node n).cache response.call now).1 with
                            | .ok _ => .requesting peer missing
                            | .error _ => .idle) }
  | finish {net : GossipNetwork ν} (n : ν) :
      Step net { net with phase := Function.update net.phase n .idle }

/-- A body as the next node keeps it. -/
def retold (body : List UInt8) : List UInt8 := encodeUtf8 (hexEncode body)

/-- A body and its address come from a snapshot that was stored from outside. -/
def Descends (ingested : List StoreCall) (sourceId url : String) (body : List UInt8) : Prop :=
  ∃ call ∈ ingested, ∃ hops, call.sourceId = sourceId ∧ call.url = url ∧
    body = retold^[hops] call.body

/-- Every snapshot of a cache is under its hash and comes from a store. -/
def Traced (ingested : List StoreCall) (cache : SnapshotCache) : Prop :=
  ∀ key directory, cache.get? key = some directory → ∃ body metadata,
    directory = ⟨some body, .written metadata⟩ ∧ hexdigest body = key.2 ∧
      metadata.sourceId = key.1 ∧ metadata.snapshotId = snapshotIdOf key.1 key.2 ∧
      Descends ingested key.1 metadata.url body

/-- The text of an answer on its way is that of a snapshot from a store. -/
def PhaseTraced (ingested : List StoreCall) : SyncPhase ν → Prop
  | .answered _ response _ => ∃ body, response.payload = String.ofList (hexEncode body) ∧
      Descends ingested response.metadata.sourceId response.metadata.url body
  | _ => True

structure Invariant (net : GossipNetwork ν) : Prop where
  traced : ∀ n, Traced net.ingested (net.node n).cache
  phase : ∀ n, PhaseTraced net.ingested (net.phase n)

section Traces
variable {ingested : List StoreCall} {cache : SnapshotCache}

theorem Traced.wellPlaced (h : Traced ingested cache) : WellPlaced cache := by
  intro key directory hget
  obtain ⟨body, metadata, hdirectory, hhash, hsource, hname, -⟩ := h key directory hget
  exact ⟨body, metadata, hdirectory, hhash, hsource, hname⟩

theorem Descends.mono {more : List StoreCall} (hsub : ingested ⊆ more) {sourceId url : String}
    {body : List UInt8} (h : Descends ingested sourceId url body) :
    Descends more sourceId url body := by
  obtain ⟨call, hcall, hops, hfrom⟩ := h
  exact ⟨call, hsub hcall, hops, hfrom⟩

theorem Traced.mono {more : List StoreCall} (hsub : ingested ⊆ more) (h : Traced ingested cache) :
    Traced more cache := by
  intro key directory hget
  obtain ⟨body, metadata, hdirectory, hhash, hsource, hname, hfrom⟩ := h key directory hget
  exact ⟨body, metadata, hdirectory, hhash, hsource, hname, hfrom.mono hsub⟩

theorem PhaseTraced.mono {more : List StoreCall} (hsub : ingested ⊆ more) {phase : SyncPhase ν}
    (h : PhaseTraced ingested phase) : PhaseTraced more phase := by
  cases phase with
  | answered peer response missing =>
    obtain ⟨body, hpayload, hfrom⟩ := h
    exact ⟨body, hpayload, hfrom.mono hsub⟩
  | _ => trivial

/-- A store of a body that comes from a store. -/
theorem Traced.store (h : Traced ingested cache) {call : StoreCall}
    (hcall : Descends ingested call.sourceId call.url call.body) (now : DateTime) :
    Traced ingested (SnapshotCache.store cache call now).2 := by
  rcases store_cases h.wellPlaced call now with ⟨-, hstore⟩ | ⟨-, hstore⟩
  · rw [hstore]
    intro key directory hget
    rw [Dict.get?_set] at hget
    split_ifs at hget with hkey
    · cases hget
      subst hkey
      exact ⟨call.body, SnapshotCache.metadataFor call now, rfl, rfl, rfl, rfl, hcall⟩
    · exact h key directory hget
  · rw [hstore]
    exact h

theorem descends_answer {peer : EdgeNode} (h : Traced ingested peer.cache) {snapshotId : String}
    {response : SyncResponse} (hanswer : peer.edgeSync snapshotId = some response) :
    ∃ body, response.payload = String.ofList (hexEncode body) ∧
      Descends ingested response.metadata.sourceId response.metadata.url body := by
  obtain ⟨key, body, hget, -, hpayload⟩ := EdgeNode.edgeSync_some hanswer
  obtain ⟨placed, metadata, hdirectory, -, hsource, -, hfrom⟩ := h key _ hget
  cases hdirectory
  exact ⟨body, hpayload, hsource ▸ hfrom⟩

/-- What is stored of an answer is the body told on once more. -/
theorem descends_call {response : SyncResponse} {body : List UInt8}
    (hpayload : response.payload = String.ofList (hexEncode body))
    (h : Descends ingested response.metadata.sourceId response.metadata.url body) :
    Descends ingested response.call.sourceId response.call.url response.call.body := by
  obtain ⟨call, hcall, hops, hsource, hurl, rfl⟩ := h
  refine ⟨call, hcall, hops + 1, hsource, hurl, ?_⟩
  rw [Function.iterate_succ_apply', SyncResponse.call, hpayload, String.toList_ofList]
  rfl

end Traces

theorem start_invariant (nodeId : ν → String) : (start nodeId).Invariant where
  traced _ _ _ hget := nomatch hget
  phase _ := trivial

section Run
variable [DecidableEq ν] {net net' : GossipNetwork ν}

theorem Invariant.of_phase (h : net.Invariant) {n : ν} {phase : SyncPhase ν}
    (hphase : PhaseTraced net.ingested phase) :
    Invariant { net with phase := Function.update net.phase n phase } := by
  have hupdate : ∀ other, PhaseTraced net.ingested (Function.update net.phase n phase other) := by
    intro other
    by_cases hother : other = n
    · rw [hother, Function.update_self]
      exact hphase
    · rw [Function.update_of_ne hother]
      exact h.phase other
  exact ⟨h.traced, hupdate⟩

theorem traced_update {ingested : List StoreCall} (h : ∀ n, Traced ingested (net.node n).cache)
    {n : ν} {call : StoreCall} (hcall : Descends ingested call.sourceId call.url call.body)
    (now : DateTime) (other : ν) :
    Traced ingested (Function.update net.node n (net.stored n call now) other).cache := by
  by_cases hother : other = n
  · rw [hother, Function.update_self]
    exact (h n).store hcall now
  · rw [Function.update_of_ne hother]
    exact h other

theorem step_invariant (h : net.Invariant) (hstep : Step net net') : net'.Invariant := by
  cases hstep with
  | ingest n call now =>
    have hsub : net.ingested ⊆ net.ingested ++ [call] := List.subset_append_left _ _
    have hmore : ∀ m, Traced (net.ingested ++ [call]) (net.node m).cache :=
      fun m => (h.traced m).mono hsub
    have hcall : Descends (net.ingested ++ [call]) call.sourceId call.url call.body :=
      ⟨call, List.mem_append_right _ (List.mem_singleton_self _), 0, rfl, rfl, rfl⟩
    exact ⟨traced_update hmore hcall now, fun m => (h.phase m).mono hsub⟩
  | list n peer hphase => exact h.of_phase trivial
  | compare n hphase hnodup hmissing => exact h.of_phase trivial
  | answer n hphase hanswer => exact h.of_phase (descends_answer (h.traced _) hanswer)
  | refuse n hphase hanswer => exact h.of_phase trivial
  | @receive n peer response missing now hphase =>
    have hanswer := h.phase n
    rw [hphase] at hanswer
    obtain ⟨body, hpayload, hfrom⟩ := hanswer
    have hcall := descends_call hpayload hfrom
    have hnode : Invariant
        { net with node := Function.update net.node n (net.stored n response.call now) } :=
      ⟨traced_update h.traced hcall now, h.phase⟩
    refine hnode.of_phase ?_
    cases (SnapshotCache.store (net.node n).cache response.call now).1 <;> trivial
  | finish n => exact h.of_phase trivial

/-- What a node holds it still holds after a step. -/
theorem step_keeps (h : net.Invariant) (hstep : Step net net') {n : ν} {key : String × String}
    {directory : SnapshotDirectory} (hget : (net.node n).cache.get? key = some directory) :
    (net'.node n).cache.get? key = some directory := by
  have hstored : ∀ (m : ν) (call : StoreCall) (now : DateTime),
      (Function.update net.node m (net.stored m call now) n).cache.get? key = some directory := by
    intro m call now
    by_cases hm : n = m
    · subst hm
      rw [Function.update_self]
      exact store_keeps (h.traced n).wellPlaced call now hget
    · rwa [Function.update_of_ne hm]
  cases hstep with
  | ingest m call now => exact hstored m call now
  | receive m now hphase => exact hstored m _ now
  | _ => exact hget

theorem run_invariant (h : net.Invariant) (hrun : Relation.ReflTransGen Step net net') :
    net'.Invariant := by
  induction hrun with
  | refl => exact h
  | tail _ hstep ih => exact step_invariant ih hstep

theorem run_keeps (h : net.Invariant) (hrun : Relation.ReflTransGen Step net net') {n : ν}
    {key : String × String} {directory : SnapshotDirectory}
    (hget : (net.node n).cache.get? key = some directory) :
    (net'.node n).cache.get? key = some directory := by
  induction hrun with
  | refl => exact hget
  | tail hrun hstep ih => exact step_keeps (run_invariant h hrun) hstep ih

/-- However the steps of all nodes interleave: every snapshot of a node is under the hash of its
body and goes back to a snapshot of the same source and address that was stored from outside,
told on as hexadecimal text any number of times; and it stays as it is in every later state. -/
theorem gossip_traced (nodeId : ν → String)
    (hrun : Relation.ReflTransGen Step (start nodeId) net) (n : ν) (key : String × String)
    (directory : SnapshotDirectory) (hget : (net.node n).cache.get? key = some directory) :
    (∃ call ∈ net.ingested, ∃ hops metadata,
      directory = ⟨some (retold^[hops] call.body), .written metadata⟩ ∧
      hexdigest (retold^[hops] call.body) = key.2 ∧ call.sourceId = key.1 ∧
      metadata.sourceId = key.1 ∧ metadata.url = call.url ∧
      metadata.snapshotId = snapshotIdOf key.1 key.2) ∧
    ∀ later, Relation.ReflTransGen Step net later →
      (later.node n).cache.get? key = some directory := by
  have hinv := run_invariant (start_invariant nodeId) hrun
  refine ⟨?_, fun later hlater => run_keeps hinv hlater hget⟩
  obtain ⟨body, metadata, rfl, hhash, hsource, hname, call, hcall, hops, hfrom, hurl, rfl⟩ :=
    hinv.traced n key directory hget
  exact ⟨call, hcall, hops, metadata, rfl, hhash, hfrom, hsource, hurl.symm, hname⟩

end Run

section Sample
open SnapshotCache

def sampleNodes (n : Bool) : String := if n then "node" else "peer"

/-- The answer of a peer that has stored a snapshot. -/
def answerOf (call : StoreCall) (now : DateTime) : SyncResponse where
  metadata := metadataFor call now
  payload := String.ofList (hexEncode call.body)

/-- A peer stores a snapshot, and a node without any asks for it and keeps the answer. -/
theorem one_hop (call : StoreCall) (now later : DateTime) :
    ∃ net : GossipNetwork Bool, Relation.ReflTransGen Step (start sampleNodes) net ∧
      (net.node true).cache.get? (answerOf call now).call.key =
        some ⟨some (answerOf call now).call.body,
          .written (metadataFor (answerOf call now).call later)⟩ := by
  have hingest : Step (start sampleNodes) _ := .ingest false call now
  have hlist := (Relation.ReflTransGen.single hingest).tail (.list true false rfl)
  have hmissing : ∀ snapshotId, snapshotId ∈ [snapshotIdOf call.sourceId call.digest] ↔
      snapshotId ∈ [snapshotIdOf call.sourceId call.digest] ∧ snapshotId ∉ ([] : List String) :=
    fun _ => ⟨fun h => ⟨h, List.not_mem_nil⟩, fun h => h.1⟩
  have hcompare := hlist.tail (.compare true rfl (List.nodup_singleton _) hmissing)
  have hanswer : ((start sampleNodes).stored false call now).edgeSync
      (snapshotIdOf call.sourceId call.digest) = some (answerOf call now) := by
    have hentries : ((start sampleNodes).stored false call now).cache.entries =
        [(call.key, ⟨some call.body, .written (metadataFor call now)⟩)] := rfl
    rw [EdgeNode.edgeSync, hentries]
    simp only [List.findSome?_cons, metadataFor, if_true]
    rfl
  have hreceive := (hcompare.tail (.answer true rfl hanswer)).tail (.receive true later rfl)
  refine ⟨_, hreceive, ?_⟩
  exact (Dict.get?_set _ _ _ _).trans (if_pos rfl)

theorem gossip_traced_sample : ∃ net : GossipNetwork Bool,
    ∃ call ∈ net.ingested, ∃ hops metadata,
      (net.node true).cache.get? (answerOf sampleCall firstTime).call.key =
        some ⟨some (retold^[hops] call.body), .written metadata⟩ ∧ metadata.url = call.url := by
  obtain ⟨net, hrun, hget⟩ := one_hop sampleCall firstTime secondTime
  obtain ⟨⟨call, hcall, hops, metadata, hdirectory, -, -, -, hurl, -⟩, -⟩ :=
    gossip_traced sampleNodes hrun true _ _ hget
  exact ⟨net, call, hcall, hops, metadata, hdirectory ▸ hget, hurl⟩

end Sample

end GossipNetwork

end ContinuityOS.Sources
