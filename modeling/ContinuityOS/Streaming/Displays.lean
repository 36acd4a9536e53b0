import ContinuityOS.Streaming.EventBus
import ContinuityOS.Streaming.EventFrames

/-! # What the displays read

Displays connect, wait on their queues and leave while events are published. The messages that
a display reads from the texts it is sent are a block of the published events, from the first
after its connection on, in order and without a gap.
-/
namespace ContinuityOS.Streaming
open Library EventStream

/-- The bus of the displays, and what the waits of each streamer have given. -/
structure EventHub where
  logged : LoggedBus SovereignEvent
  waits : ℕ → List (Option SovereignEvent)

namespace EventHub

def start (bufferSize : ℕ) : EventHub where
  logged := .start bufferSize
  waits _ := []

variable (hub : EventHub)

/-- A streamer subscribes when it starts, and a wait on an empty queue times out. -/
def step (op : Op SovereignEvent) : EventHub where
  logged := hub.logged.step op
  waits :=
    match op with
    | .subscribe => Function.update hub.waits hub.logged.bus.subscribe.2 []
    | .take name =>
      Function.update hub.waits name (hub.waits name ++ [(hub.logged.bus.take name).2])
    | _ => hub.waits

def run (ops : List (Op SovereignEvent)) : EventHub := ops.foldl step hub

/-- The text that a display has been sent. -/
def sent (modelDumpJson : SovereignEvent → String) (name : ℕ) : String :=
  String.join (sseEventStreamer modelDumpJson (hub.waits name))

/-- The events that are published in a run. -/
def publishedEvents : List (Op SovereignEvent) → List SovereignEvent
  | [] => []
  | .publish event :: ops => event :: publishedEvents ops
  | _ :: ops => publishedEvents ops

structure Invariant : Prop where
  logged : hub.logged.Invariant
  waits : ∀ name, (hub.waits name).reduceOption = hub.logged.taken name

variable {hub : EventHub}

theorem start_invariant (bufferSize : ℕ) : (start bufferSize).Invariant where
  logged := LoggedBus.start_invariant bufferSize
  waits _ := rfl

theorem Invariant.step (h : hub.Invariant) (op : Op SovereignEvent) : (hub.step op).Invariant where
  logged := h.logged.step op
  waits := by
    intro name
    cases op with
    | publish event => exact h.waits name
    | unsubscribe other => exact h.waits name
    | subscribe =>
      simp only [EventHub.step, LoggedBus.step]
      by_cases hname : name = hub.logged.bus.subscribe.2
      · rw [hname, Function.update_self, Function.update_self]
        rfl
      · rw [Function.update_of_ne hname, Function.update_of_ne hname, h.waits]
    | take other =>
      simp only [EventHub.step, LoggedBus.step]
      by_cases hname : name = other
      · rw [hname, Function.update_self, Function.update_self, List.reduceOption_append, h.waits]
        cases (hub.logged.bus.take other).2 <;> rfl
      · rw [Function.update_of_ne hname, Function.update_of_ne hname, h.waits]

theorem run_invariant (h : hub.Invariant) (ops : List (Op SovereignEvent)) :
    (hub.run ops).Invariant := by
  induction ops generalizing hub with
  | nil => exact h
  | cons op ops ih => exact ih (h.step op)

theorem run_published (ops : List (Op SovereignEvent)) :
    (hub.run ops).logged.published = hub.logged.published ++ publishedEvents ops := by
  induction ops generalizing hub with
  | nil => exact (List.append_nil _).symm
  | cons op ops ih =>
    rw [run, List.foldl_cons, ← run, ih]
    cases op with
    | publish event =>
      rw [publishedEvents]
      exact List.append_assoc _ _ _
    | _ => rfl

/-- The waits of a display and its queue make up its block. -/
theorem Invariant.taken_prefix (h : hub.Invariant) {name : ℕ}
    (hname : name < hub.logged.bus.created) :
    hub.logged.taken name <+: hub.logged.published.drop (hub.logged.since name) := by
  have hserved := h.logged.served name hname
  have hblock : hub.logged.block name <+: hub.logged.published.drop (hub.logged.since name) := by
    rw [LoggedBus.block, List.drop_take]
    exact List.take_prefix _ _
  exact (hserved.delivered ▸ List.prefix_append _ _).trans hblock

theorem parse_sent {modelDumpJson : SovereignEvent → String}
    (hjson : ∀ event, OneLine (modelDumpJson event).toList) {name : ℕ}
    (h : ∀ event ∈ (hub.waits name).reduceOption, Framed event) :
    parse (hub.sent modelDumpJson name) =
      (hub.waits name).reduceOption.map (message modelDumpJson) := by
  rw [sent, parse, String.toList_join, sseEventStreamer, List.flatMap_cons, messages_connected,
    messages_yielded hjson h]

end EventHub

open EventHub

/-- In every run whose events have types of one line: the messages that a display reads are
those of the first events published after its connection; it has read all of them when its
queue is empty and it has not been dropped, and up to the drop otherwise. -/
theorem displays_read (modelDumpJson : SovereignEvent → String)
    (hjson : ∀ event, OneLine (modelDumpJson event).toList) (bufferSize : ℕ)
    (ops : List (Op SovereignEvent)) (hframed : ∀ event ∈ publishedEvents ops, Framed event) :
    let hub := (start bufferSize).run ops
    ∀ name < hub.logged.bus.created, ∃ events : List SovereignEvent,
      parse (hub.sent modelDumpJson name) = events.map (message modelDumpJson) ∧
      events <+: (publishedEvents ops).drop (hub.logged.since name) ∧
      (hub.logged.bus.queues name = [] → events =
        ((publishedEvents ops).take ((hub.logged.ended name).getD
          (publishedEvents ops).length)).drop (hub.logged.since name)) ∧
      (name ∈ hub.logged.bus.subscribers ↔ hub.logged.ended name = none) := by
  intro hub name hname
  have hinv : hub.Invariant := run_invariant (start_invariant bufferSize) ops
  have hpublished : hub.logged.published = publishedEvents ops := run_published ops
  have hserved := hinv.logged.served name hname
  have htaken := hinv.taken_prefix hname
  refine ⟨hub.logged.taken name, ?_, hpublished ▸ htaken, fun hempty => ?_, hserved.subscribed⟩
  · rw [← hinv.waits]
    refine parse_sent hjson fun event hevent => hframed event ?_
    rw [hinv.waits] at hevent
    rw [← hpublished]
    exact List.mem_of_mem_drop (htaken.subset hevent)
  · have hdelivered := hserved.delivered
    rw [hempty, List.append_nil, LoggedBus.block, hpublished] at hdelivered
    exact hdelivered

section Sample

/-- One display connects between two events and times out once. -/
theorem displays_read_sample :
    let ops : List (Op SovereignEvent) := [.publish (sampleEvent "ORBITAL_SAR_PASS"), .subscribe,
      .publish (sampleEvent "DARK_FLEET_DETECTED"), .take 0, .take 0]
    let hub := (start 1000).run ops
    ∀ name < hub.logged.bus.created, ∃ events : List SovereignEvent,
      parse (hub.sent sampleJson name) = events.map (message sampleJson) ∧
      events <+: (publishedEvents ops).drop (hub.logged.since name) ∧
      (hub.logged.bus.queues name = [] → events =
        ((publishedEvents ops).take ((hub.logged.ended name).getD
          (publishedEvents ops).length)).drop (hub.logged.since name)) ∧
      (name ∈ hub.logged.bus.subscribers ↔ hub.logged.ended name = none) :=
  displays_read sampleJson sampleJson_oneLine 1000 _ fun event hevent => by
    rcases List.mem_pair.mp hevent with rfl | rfl <;> exact ⟨by decide, by decide⟩

end Sample

end ContinuityOS.Streaming
