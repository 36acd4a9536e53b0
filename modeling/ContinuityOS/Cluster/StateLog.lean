import ContinuityOS.Crypto.MerkleTree
import ContinuityOS.Library.Dict
import ContinuityOS.Library.JsonText
import ContinuityOS.Library.Text

/-! # The replicated log and its root

The root covers the hashes of the payloads one after the other. Terms and command types are not
in it, so it tells two logs apart only where their payloads differ.
-/
namespace ContinuityOS.Cluster
open Library Crypto

structure LogEntry where
  index : ℕ
  term : ℕ
  commandType : String
  payloadHash : String
  createdAt : String
deriving DecidableEq

abbrev Payload := List (String × Json)

structure RaftStateSynchronizer where
  nodeId : String
  enclaveName : String
  currentTerm : ℕ
  log : List LogEntry
  stateStore : Dict String Payload

/-- The arguments of `appendCommand`, with the time it draws. -/
structure Command where
  commandType : String
  payload : Payload
  createdAt : String

/-- A payload up to the order of its keys. -/
def canonical (payload : Payload) : Json := (Json.object payload).sortKeys

/-- The bytes that are hashed for a payload. -/
def payloadBytes (payload : Payload) : List UInt8 := encodeUtf8 (canonical payload).dumpsDefault

def storeKey (commandType : String) (index : ℕ) : String :=
  commandType ++ ":" ++ toString index

/-- The bytes that are hashed for the root. -/
def rootMessage : List String → List UInt8
  | [] => encodeUtf8 "GENESIS_EMPTY_CLUSTER".toList
  | payloadHashes => encodeUtf8 (payloadHashes.flatMap String.toList)

namespace RaftStateSynchronizer

def init (nodeId enclaveName : String) : RaftStateSynchronizer where
  nodeId := nodeId
  enclaveName := enclaveName
  currentTerm := 1
  log := []
  stateStore := .empty

variable (s : RaftStateSynchronizer)

def newEntry (command : Command) : LogEntry where
  index := s.log.length + 1
  term := s.currentTerm
  commandType := command.commandType
  payloadHash := hexdigest (payloadBytes command.payload)
  createdAt := command.createdAt

def appendCommand (command : Command) : RaftStateSynchronizer :=
  { s with
    log := s.log ++ [s.newEntry command]
    stateStore := s.stateStore.set (storeKey command.commandType (s.newEntry command).index)
      command.payload }

def computeMerkleRoot : String := hexdigest (rootMessage (s.log.map LogEntry.payloadHash))

def run (commands : List Command) : RaftStateSynchronizer := commands.foldl appendCommand s

/-- Term, type and payload of every entry, the payload as the store has it. -/
def commands : List (ℕ × String × Option Json) :=
  s.log.map fun e => (e.term, e.commandType,
    (s.stateStore.get? (storeKey e.commandType e.index)).map canonical)

end RaftStateSynchronizer

section Run
open RaftStateSynchronizer
variable {s : RaftStateSynchronizer}

theorem storeKey_inj {commandType commandType' : String} {i j : ℕ}
    (h : storeKey commandType i = storeKey commandType' j) : i = j := by
  have hcolon : ∀ n : ℕ, ':' ∉ (toString n).toList := by
    intro n hmem
    cases Json.isDigit_of_mem_toString n hmem
  -- the number is behind the last colon
  have hback := congrArg (fun key : String => key.toList.reverse) h
  simp only [storeKey, String.toList_append, List.reverse_append, List.append_assoc] at hback
  have hnumber := (append_separator_inj (by rw [List.mem_reverse]; exact hcolon i)
    (by rw [List.mem_reverse]; exact hcolon j) hback).1
  rw [List.reverse_inj, Nat.toString_eq_repr, Nat.toString_eq_repr, Nat.toList_repr,
    Nat.toList_repr] at hnumber
  have hread := congrArg (fun digits => Nat.ofDigitChars 10 digits 0) hnumber
  simpa only [Nat.ofDigitChars_ten_toDigits] using hread

theorem run_concat (commands : List Command) (command : Command) :
    s.run (commands ++ [command]) = (s.run commands).appendCommand command := by
  rw [run, List.foldl_append]
  rfl

theorem run_currentTerm (commands : List Command) : (s.run commands).currentTerm = s.currentTerm := by
  induction commands using List.reverseRecOn with
  | nil => rfl
  | append_singleton commands command ih => rw [run_concat]; exact ih

theorem run_payloadHashes (commands : List Command) :
    (s.run commands).log.map LogEntry.payloadHash =
      s.log.map LogEntry.payloadHash ++ commands.map fun c => hexdigest (payloadBytes c.payload) := by
  induction commands using List.reverseRecOn with
  | nil => exact (List.append_nil _).symm
  | append_singleton commands command ih =>
    rw [run_concat, appendCommand, List.map_append, ih, List.map_append, List.append_assoc]
    rfl

theorem run_indices {n : ℕ} (h : s.log.map LogEntry.index = List.range' 1 n)
    (commands : List Command) :
    (s.run commands).log.map LogEntry.index = List.range' 1 (n + commands.length) := by
  induction commands using List.reverseRecOn with
  | nil => exact h
  | append_singleton commands command ih =>
    have hlength := congrArg List.length ih
    rw [List.length_map, List.length_range'] at hlength
    have hnext : ((s.run commands).newEntry command).index = 1 + (n + commands.length) := by
      rw [newEntry, hlength, Nat.add_comm]
    rw [run_concat, appendCommand, List.map_append, ih, List.map_singleton, hnext,
      List.length_append, List.length_singleton, ← Nat.add_assoc n commands.length 1,
      List.range'_1_concat]

theorem commands_appendCommand (h : ∀ e ∈ s.log, e.index ≤ s.log.length) (command : Command) :
    (s.appendCommand command).commands =
      s.commands ++ [(s.currentTerm, command.commandType, some (canonical command.payload))] := by
  have hold : ∀ e ∈ s.log,
      (s.appendCommand command).stateStore.get? (storeKey e.commandType e.index) =
        s.stateStore.get? (storeKey e.commandType e.index) := by
    intro e he
    refine Dict.get?_set_ne _ (fun hkey => ?_) _
    have hindex : s.log.length + 1 = e.index := storeKey_inj hkey
    have := h e he
    omega
  have hnew : (s.appendCommand command).stateStore.get?
      (storeKey command.commandType (s.newEntry command).index) = some command.payload :=
    Dict.get?_set_self _ _ _
  have hlog : (s.appendCommand command).log = s.log ++ [s.newEntry command] := rfl
  have htype : (s.newEntry command).commandType = command.commandType := rfl
  rw [commands, commands, hlog, List.map_append, List.map_singleton, htype, hnew]
  refine congrArg (· ++ _) (List.map_congr_left fun e he => ?_)
  rw [hold e he]

end Run

section Root
open RaftStateSynchronizer
variable (nodeId enclaveName : String)

theorem init_indices (commands : List Command) :
    ((init nodeId enclaveName).run commands).log.map LogEntry.index =
      List.range' 1 commands.length := by
  have h := run_indices (s := init nodeId enclaveName) (n := 0) rfl commands
  rwa [Nat.zero_add] at h

theorem init_commands (commands : List Command) :
    ((init nodeId enclaveName).run commands).commands =
      commands.map fun c => (1, c.commandType, some (canonical c.payload)) := by
  induction commands using List.reverseRecOn with
  | nil => rfl
  | append_singleton commands command ih =>
    have hindices := init_indices nodeId enclaveName commands
    have hlength := congrArg List.length hindices
    rw [List.length_map, List.length_range'] at hlength
    have hbound : ∀ e ∈ ((init nodeId enclaveName).run commands).log,
        e.index ≤ ((init nodeId enclaveName).run commands).log.length := by
      intro e he
      have hmem := List.mem_map_of_mem (f := LogEntry.index) he
      rw [hindices, List.mem_range'_1] at hmem
      omega
    rw [run_concat, commands_appendCommand hbound, ih, run_currentTerm, List.map_append]
    rfl

/-- The messages of two runs that are hashed do not collide, and canonical texts are those of
equal payloads. -/
structure CollisionFree (first second : List Command) : Prop where
  payloads : Set.InjOn sha256 {m | ∃ c ∈ first ++ second, m = payloadBytes c.payload}
  roots : Set.InjOn sha256 {m | ∃ commands ∈ [first, second],
    m = rootMessage (commands.map fun c => hexdigest (payloadBytes c.payload))}
  canonical : ∀ c ∈ first ++ second, ∀ c' ∈ first ++ second,
    (canonical c.payload).dumpsDefault = (canonical c'.payload).dumpsDefault →
      canonical c.payload = canonical c'.payload

theorem rootMessage_cons (d : Digest) (l : List Digest) :
    rootMessage ((d :: l).map Digest.hex) =
      encodeUtf8 ((d :: l).flatMap fun d => d.hex.toList) := by
  rw [List.map_cons, rootMessage, ← List.map_cons, List.flatMap_map]
  exact fun hnil => List.cons_ne_nil _ _ hnil

/-- The text that is hashed for an empty log is not as long as the digests of any other. -/
theorem rootMessage_nil_ne (d : Digest) (l : List Digest) :
    rootMessage [] ≠ rootMessage ((d :: l).map Digest.hex) := by
  intro h
  rw [rootMessage_cons, rootMessage] at h
  have hlength := congrArg List.length (encodeUtf8_injective h)
  have htext : "GENESIS_EMPTY_CLUSTER".toList.length = 21 := by decide
  rw [htext, Digest.flatMap_hex_length] at hlength
  omega

theorem rootMessage_inj {l m : List Digest}
    (h : rootMessage (l.map Digest.hex) = rootMessage (m.map Digest.hex)) : l = m := by
  cases l with
  | nil =>
    cases m with
    | nil => rfl
    | cons d m => exact absurd h (rootMessage_nil_ne d m)
  | cons c l =>
    cases m with
    | nil => exact absurd h.symm (rootMessage_nil_ne c l)
    | cons d m =>
      rw [rootMessage_cons, rootMessage_cons] at h
      exact Digest.flatMap_hex_inj (encodeUtf8_injective h)

theorem init_payloadHashes (commands : List Command) :
    ((init nodeId enclaveName).run commands).log.map LogEntry.payloadHash =
      (commands.map fun c => Digest.of (payloadBytes c.payload)).map Digest.hex := by
  rw [run_payloadHashes, List.map_map]
  rfl

variable {nodeId enclaveName}

theorem map_eq_map_of_forall {α β γ : Type} {f : α → β} {g : α → γ} {l m : List α}
    (h : l.map f = m.map f) (hfg : ∀ a ∈ l, ∀ b ∈ m, f a = f b → g a = g b) :
    l.map g = m.map g := by
  induction l generalizing m with
  | nil => rw [List.map_eq_nil_iff.mp h.symm]
  | cons a l ih =>
    cases m with
    | nil => cases h
    | cons b m =>
      obtain ⟨hhead, htail⟩ := List.cons.inj h
      rw [List.map_cons, List.map_cons, hfg a List.mem_cons_self b List.mem_cons_self hhead,
        ih htail fun a ha b hb => hfg a (List.mem_cons_of_mem _ ha) b (List.mem_cons_of_mem _ hb)]

/-- Equal roots are those of equal sequences of payloads. -/
theorem computeMerkleRoot_eq_iff {first second : List Command} (h : CollisionFree first second)
    {nodeId' enclaveName' : String} :
    ((init nodeId enclaveName).run first).computeMerkleRoot =
        ((init nodeId' enclaveName').run second).computeMerkleRoot ↔
      first.map (fun c => canonical c.payload) = second.map fun c => canonical c.payload := by
  have hdigests : ∀ commands : List Command,
      (commands.map fun c => Digest.of (payloadBytes c.payload)).map Digest.hex =
        commands.map fun c => hexdigest (payloadBytes c.payload) := fun _ => List.map_map
  rw [computeMerkleRoot, computeMerkleRoot, init_payloadHashes, init_payloadHashes]
  constructor
  · intro hroot
    rw [hdigests, hdigests] at hroot
    have hmessages := h.roots ⟨first, List.mem_cons_self, rfl⟩
      ⟨second, List.mem_cons_of_mem _ List.mem_cons_self, rfl⟩
      (congrArg Subtype.val (Digest.hex_injective hroot))
    rw [← hdigests, ← hdigests] at hmessages
    refine map_eq_map_of_forall (rootMessage_inj hmessages) fun c hc c' hc' hdigest => ?_
    have hbytes := h.payloads ⟨c, List.mem_append_left _ hc, rfl⟩
      ⟨c', List.mem_append_right _ hc', rfl⟩ (congrArg Subtype.val hdigest)
    exact h.canonical c (List.mem_append_left _ hc) c' (List.mem_append_right _ hc')
      (encodeUtf8_injective hbytes)
  · intro hpayloads
    have hbytes : ∀ commands : List Command,
        (commands.map fun c => Digest.of (payloadBytes c.payload)) =
          (commands.map fun c => canonical c.payload).map fun payload =>
            Digest.of (encodeUtf8 payload.dumpsDefault) := by
      intro commands
      rw [List.map_map]
      rfl
    rw [hbytes, hbytes, hpayloads]

/-- Entries are numbered from 1, and equal roots mean equal logs exactly where equal payloads
come with equal command types. -/
theorem root_identifies_iff (nodeId enclaveName nodeId' enclaveName' : String)
    (first second : List Command) (h : CollisionFree first second) :
    ((init nodeId enclaveName).run first).log.map LogEntry.index = List.range' 1 first.length ∧
    ((init nodeId' enclaveName').run second).log.map LogEntry.index =
      List.range' 1 second.length ∧
    ((((init nodeId enclaveName).run first).computeMerkleRoot =
        ((init nodeId' enclaveName').run second).computeMerkleRoot →
      ((init nodeId enclaveName).run first).commands =
        ((init nodeId' enclaveName').run second).commands) ↔
      (first.map (fun c => canonical c.payload) = second.map (fun c => canonical c.payload) →
        first.map Command.commandType = second.map Command.commandType)) := by
  refine ⟨init_indices nodeId enclaveName first, init_indices nodeId' enclaveName' second, ?_⟩
  rw [computeMerkleRoot_eq_iff h, init_commands, init_commands]
  refine imp_congr_right fun hpayloads => ⟨fun hlogs => ?_, fun htypes => ?_⟩
  · have hsecond := congrArg (List.map fun entry => entry.2.1) hlogs
    rw [List.map_map, List.map_map] at hsecond
    exact hsecond
  · have hzip := congrArg₂ List.zip htypes hpayloads
    rw [List.zip_map', List.zip_map'] at hzip
    have hentries := congrArg
      (List.map fun entry : String × Json => (1, entry.1, some entry.2)) hzip
    rw [List.map_map, List.map_map] at hentries
    exact hentries

section Sample

def sampleCommand (commandType : String) : Command where
  commandType := commandType
  payload := [("posture", .string "ALPHA_SILENT")]
  createdAt := "2026-01-01T00:00:00Z"

def silence : List Command := [sampleCommand "EMCON_DIRECTIVE"]

/-- The same payload under another type. -/
def alert : List Command := [sampleCommand "RADAR_ALERT"]

theorem sample_payload : ∀ c ∈ silence ++ alert, c.payload = [("posture", .string "ALPHA_SILENT")] := by
  simp [silence, alert, sampleCommand]

theorem collisionFree_sample : CollisionFree silence alert where
  payloads := by
    rintro m ⟨c, hc, rfl⟩ m' ⟨c', hc', rfl⟩ _
    rw [sample_payload c hc, sample_payload c' hc']
  roots := by
    have hone : ∀ commands ∈ [silence, alert],
        (commands.map fun c => hexdigest (payloadBytes c.payload)) =
          [hexdigest (payloadBytes [("posture", .string "ALPHA_SILENT")])] := by
      intro commands hcommands
      rcases List.mem_pair.mp hcommands with rfl | rfl <;> rfl
    rintro m ⟨commands, hcommands, rfl⟩ m' ⟨commands', hcommands', rfl⟩ _
    rw [hone commands hcommands, hone commands' hcommands']
  canonical c hc c' hc' _ := by rw [sample_payload c hc, sample_payload c' hc']

theorem root_identifies_sample :
    ((init "SCIF-OTTAWA" "DND").run silence).log.map LogEntry.index = List.range' 1 silence.length ∧
    ((init "SCIF-HALIFAX" "CFB").run alert).log.map LogEntry.index = List.range' 1 alert.length ∧
    ((((init "SCIF-OTTAWA" "DND").run silence).computeMerkleRoot =
        ((init "SCIF-HALIFAX" "CFB").run alert).computeMerkleRoot →
      ((init "SCIF-OTTAWA" "DND").run silence).commands =
        ((init "SCIF-HALIFAX" "CFB").run alert).commands) ↔
      (silence.map (fun c => canonical c.payload) = alert.map (fun c => canonical c.payload) →
        silence.map Command.commandType = alert.map Command.commandType)) :=
  root_identifies_iff _ _ _ _ silence alert collisionFree_sample

/-- Two logs of different commands have one root. -/
theorem not_root_identifies :
    ¬ ∀ (nodeId enclaveName nodeId' enclaveName' : String) (first second : List Command),
      CollisionFree first second →
      ((init nodeId enclaveName).run first).computeMerkleRoot =
        ((init nodeId' enclaveName').run second).computeMerkleRoot →
      ((init nodeId enclaveName).run first).commands =
        ((init nodeId' enclaveName').run second).commands := by
  intro h
  have hroot : ((init "SCIF-OTTAWA" "DND").run silence).computeMerkleRoot =
      ((init "SCIF-HALIFAX" "CFB").run alert).computeMerkleRoot := rfl
  have hlogs := h _ _ _ _ silence alert collisionFree_sample hroot
  rw [init_commands, init_commands] at hlogs
  have htypes := congrArg (List.map fun entry => entry.2.1) hlogs
  exact absurd htypes (by decide)

end Sample

end Root

end ContinuityOS.Cluster
