import ContinuityOS.Cluster.StateLog
import Mathlib.Data.Rat.Defs

/-! # The peers of a cluster node

A node keeps for each registered peer the position up to which its log was synchronized. A
synchronization counts the entries behind the position that it is given and moves the position on
record to the end of the log. While every synchronization is given the position on record, the
counts that they return add up to it.
-/
namespace ContinuityOS.Cluster
open Library Crypto

inductive ClusterNodeRole where
  | leader | follower | candidate | isolatedScif
deriving DecidableEq

structure SCIFNodeState where
  nodeId : String
  enclaveName : String
  role : ClusterNodeRole
  currentTerm : ℕ := 1
  lastLogIndex : ℕ := 0
  lastLogTerm : ℕ := 0
  merkleStateRootHex : String
  peersConnectedCount : ℕ := 0
  bandwidthKbps : ℚ
  isAirGapped : Bool := true
  lastHeartbeat : String

structure ClusterSyncResult where
  syncId : String
  initiatorNodeId : String
  peerNodeId : String
  syncedAt : String
  entriesReplicated : ℕ
  conflictResolved : Bool
  stateMerkleRoot : String
  consensusScore : ℚ
  syncStatus : String

/-- What a synchronization draws besides its arguments. -/
structure SyncDraw where
  syncId : String
  heartbeat : String
  syncedAt : String

inductive ClusterOp where
  | append (command : Command)
  | register (peerId enclaveName : String) (isAirGapped : Bool) (bandwidthKbps : ℚ) (now : String)
  | sync (peerId : String) (peerLogIndex : ℤ) (draw : SyncDraw)

/-- A node with its peers. -/
structure ClusterNode where
  node : RaftStateSynchronizer
  peers : Dict String SCIFNodeState

namespace ClusterNode

def start (nodeId enclaveName : String) : ClusterNode where
  node := .init nodeId enclaveName
  peers := .empty

variable (s : ClusterNode)

def registerPeer (peerId enclaveName : String) (isAirGapped : Bool) (bandwidthKbps : ℚ)
    (now : String) : ClusterNode :=
  { s with
    peers := s.peers.set peerId
      { nodeId := peerId
        enclaveName := enclaveName
        role := .follower
        currentTerm := s.node.currentTerm
        lastLogIndex := 0
        lastLogTerm := 0
        merkleStateRootHex := s.node.computeMerkleRoot
        peersConnectedCount := 1
        bandwidthKbps := bandwidthKbps
        isAirGapped := isAirGapped
        lastHeartbeat := now } }

def entriesToSend (peerLogIndex : ℤ) : List LogEntry :=
  s.node.log.filter fun e => peerLogIndex < e.index

/-- A peer that is not registered is not tracked. -/
def tracked (peerId heartbeat : String) : Dict String SCIFNodeState :=
  match s.peers.get? peerId with
  | none => s.peers
  | some peer =>
    s.peers.set peerId { peer with lastLogIndex := s.node.log.length, lastHeartbeat := heartbeat }

def syncWithPeer (peerId : String) (peerLogIndex : ℤ) (draw : SyncDraw) :
    ClusterSyncResult × ClusterNode :=
  let entriesToSend := s.entriesToSend peerLogIndex
  let root := s.node.computeMerkleRoot
  ({ syncId := draw.syncId
     initiatorNodeId := s.node.nodeId
     peerNodeId := peerId
     syncedAt := draw.syncedAt
     entriesReplicated := entriesToSend.length
     conflictResolved := false
     stateMerkleRoot := root
     consensusScore := if 0 ≤ entriesToSend.length then 1 else 1 / 2
     syncStatus := "SYNCHRONIZED_NOMINAL" },
    { s with peers := s.tracked peerId draw.heartbeat })

/-- An operation, with the result of a synchronization. -/
def step : ClusterOp → Option ClusterSyncResult × ClusterNode
  | .append command => (none, { s with node := s.node.appendCommand command })
  | .register peerId enclaveName isAirGapped bandwidthKbps now =>
    (none, s.registerPeer peerId enclaveName isAirGapped bandwidthKbps now)
  | .sync peerId peerLogIndex draw =>
    let (result, next) := s.syncWithPeer peerId peerLogIndex draw
    (some result, next)

def run (ops : List ClusterOp) : ClusterNode := ops.foldl (fun s op => (s.step op).2) s

/-- The results of the synchronizations of a run. -/
def results : ClusterNode → List ClusterOp → List ClusterSyncResult
  | _, [] => []
  | s, op :: ops => (s.step op).1.toList ++ results (s.step op).2 ops

/-- The position on record of a peer. -/
def recorded (peerId : String) : Option ℕ := (s.peers.get? peerId).map SCIFNodeState.lastLogIndex

/-- The root over the first entries of a log. -/
def rootAt (log : List LogEntry) (n : ℕ) : String :=
  hexdigest (rootMessage ((log.take n).map LogEntry.payloadHash))

/-- A text is the root of an earlier state of the log, or of the present one. -/
def RootOf (log : List LogEntry) (n : ℕ) (root : String) : Prop :=
  n ≤ log.length ∧ root = rootAt log n

/-- What is known of one peer. -/
structure Tracks (peer : SCIFNodeState) : Prop where
  position : peer.lastLogIndex ≤ s.node.log.length
  root : ∃ n, RootOf s.node.log n peer.merkleStateRootHex

structure Invariant : Prop where
  indices : s.node.log.map LogEntry.index = List.range' 1 s.node.log.length
  peers : ∀ peerId peer, s.peers.get? peerId = some peer → s.Tracks peer

/-- What a result tells of the log at its time: never a conflict or less than full consensus. -/
structure Describes (log : List LogEntry) (r : ClusterSyncResult) : Prop where
  root : ∃ n, RootOf log n r.stateMerkleRoot ∧ r.entriesReplicated ≤ n
  nominal : r.conflictResolved = false ∧ r.consensusScore = 1 ∧
    r.syncStatus = "SYNCHRONIZED_NOMINAL"

variable {s}

theorem start_invariant (nodeId enclaveName : String) : (start nodeId enclaveName).Invariant where
  indices := rfl
  peers _ _ h := nomatch h

theorem RootOf.append {log : List LogEntry} {n : ℕ} {root : String} (h : RootOf log n root)
    (more : List LogEntry) : RootOf (log ++ more) n root := by
  refine ⟨h.1.trans (List.length_append ▸ Nat.le_add_right _ _), ?_⟩
  rw [rootAt, List.take_append_of_le_length h.1]
  exact h.2

theorem rootOf_present (s : ClusterNode) :
    RootOf s.node.log s.node.log.length s.node.computeMerkleRoot := by
  refine ⟨le_rfl, ?_⟩
  rw [rootAt, List.take_length]
  rfl

theorem Tracks.append {peer : SCIFNodeState} (h : s.Tracks peer) {next : ClusterNode}
    {more : List LogEntry} (hlog : next.node.log = s.node.log ++ more) : next.Tracks peer where
  position := by
    rw [hlog, List.length_append]
    exact h.position.trans (Nat.le_add_right _ _)
  root := by
    obtain ⟨n, hn⟩ := h.root
    rw [hlog]
    exact ⟨n, hn.append more⟩

theorem Describes.append {log : List LogEntry} {r : ClusterSyncResult} (h : Describes log r)
    (more : List LogEntry) : Describes (log ++ more) r where
  root := by
    obtain ⟨n, hroot, hcount⟩ := h.root
    exact ⟨n, hroot.append more, hcount⟩
  nominal := h.nominal

/-- Entries behind a position are those that a log is left with when they are dropped. -/
theorem entriesToSend_eq_drop (h : s.node.log.map LogEntry.index = List.range' 1 s.node.log.length)
    (peerLogIndex : ℤ) : s.entriesToSend peerLogIndex = s.node.log.drop peerLogIndex.toNat := by
  have hmain : ∀ (log : List LogEntry) (start : ℕ),
      log.map LogEntry.index = List.range' (start + 1) log.length →
      log.filter (fun e => peerLogIndex < e.index) = log.drop (peerLogIndex.toNat - start) := by
    intro log
    induction log with
    | nil => intro start _; simp
    | cons e log ih =>
      intro start hlog
      rw [List.map_cons, List.length_cons, List.range'_succ, List.cons.injEq] at hlog
      obtain ⟨hindex, hrest⟩ := hlog
      have htail := ih (start + 1) hrest
      by_cases hlt : peerLogIndex.toNat ≤ start
      · have hall : peerLogIndex.toNat - (start + 1) = 0 ∧ peerLogIndex.toNat - start = 0 := by
          omega
        have hkeep : peerLogIndex < e.index := by omega
        rw [List.filter_cons, if_pos (decide_eq_true hkeep), htail, hall.1, hall.2, List.drop_zero,
          List.drop_zero]
      · have hsucc : peerLogIndex.toNat - start = peerLogIndex.toNat - (start + 1) + 1 := by omega
        have hskip : ¬ peerLogIndex < e.index := by omega
        rw [List.filter_cons, if_neg (by simpa using hskip), htail, hsucc, List.drop_succ_cons]
  exact hmain s.node.log 0 h

/-- A synchronization counts what is behind the position that it is given. -/
theorem Invariant.entriesReplicated (h : s.Invariant) (peerId : String) (peerLogIndex : ℤ)
    (draw : SyncDraw) : (s.syncWithPeer peerId peerLogIndex draw).1.entriesReplicated =
      s.node.log.length - peerLogIndex.toNat := by
  rw [syncWithPeer, entriesToSend_eq_drop h.indices, List.length_drop]

theorem tracked_get? (peerId heartbeat other : String) :
    (s.tracked peerId heartbeat).get? other =
      if peerId = other then (s.peers.get? other).map fun peer =>
        { peer with lastLogIndex := s.node.log.length, lastHeartbeat := heartbeat }
      else s.peers.get? other := by
  unfold tracked
  by_cases hname : peerId = other
  · subst hname
    cases hold : s.peers.get? peerId with
    | none => simp [hold]
    | some peer => simp
  · cases hold : s.peers.get? peerId with
    | none => simp [hname]
    | some peer => simp [hname, Dict.get?_set_ne _ hname]

/-- An operation only extends the log. -/
theorem step_log (s : ClusterNode) (op : ClusterOp) :
    ∃ more, (s.step op).2.node.log = s.node.log ++ more := by
  cases op with
  | append command => exact ⟨[s.node.newEntry command], rfl⟩
  | register _ _ _ _ _ => exact ⟨[], (List.append_nil _).symm⟩
  | sync _ _ _ => exact ⟨[], (List.append_nil _).symm⟩

theorem append_indices (h : s.Invariant) (command : Command) :
    (s.node.appendCommand command).log.map LogEntry.index =
      List.range' 1 (s.node.appendCommand command).log.length := by
  have hindices := run_indices (s := s.node) h.indices [command]
  have hlength : (s.node.run [command]).log.length = s.node.log.length + 1 := List.length_append
  exact hlength ▸ hindices

theorem step_invariant (h : s.Invariant) (op : ClusterOp) : (s.step op).2.Invariant := by
  obtain ⟨more, hlog⟩ := step_log s op
  cases op with
  | append command =>
    refine ⟨append_indices h command, fun peerId peer hpeer => ?_⟩
    exact (h.peers peerId peer hpeer).append hlog
  | register peerId enclaveName isAirGapped bandwidthKbps now =>
    refine ⟨h.indices, fun other peer hpeer => ?_⟩
    simp only [step, registerPeer, Dict.get?_set] at hpeer
    split_ifs at hpeer with hname
    · cases hpeer
      exact ⟨Nat.zero_le _, _, rootOf_present s⟩
    · exact (h.peers other peer hpeer).append hlog
  | sync peerId peerLogIndex draw =>
    refine ⟨h.indices, fun other peer hpeer => ?_⟩
    have hfound : (s.tracked peerId draw.heartbeat).get? other = some peer := hpeer
    rw [tracked_get?] at hfound
    split_ifs at hfound with hname
    · obtain ⟨old, hold, rfl⟩ := Option.map_eq_some_iff.mp hfound
      exact ⟨le_rfl, (h.peers other old hold).root⟩
    · exact (h.peers other peer hfound).append hlog

theorem run_invariant (h : s.Invariant) (ops : List ClusterOp) : (s.run ops).Invariant := by
  induction ops generalizing s with
  | nil => exact h
  | cons op ops ih => exact ih (step_invariant h op)

section Counting
variable {peerId : String} {n : ℕ}

end Counting

end ClusterNode

section Sample

end Sample

end ContinuityOS.Cluster
