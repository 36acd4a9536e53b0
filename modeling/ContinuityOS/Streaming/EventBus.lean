import Mathlib.Tactic

/-! # The event bus

Subscribers hold queues of bounded length and join, leave and read at any point between two
publications. What a subscriber has read, followed by what is still queued for it, is a block of
the published events without a gap.
-/
namespace ContinuityOS.Streaming

/-- The `maxsize` of a subscriber's queue. -/
def queueSize : ℕ := 200

/-- The bus and the queues it has handed out; a queue is named by the number of those before. -/
structure SovereignEventBus (α : Type) where
  bufferSize : ℕ
  history : List α
  subscribers : List ℕ
  queues : ℕ → List α
  created : ℕ

variable {α : Type}

/-- `none` is `QueueFull`. -/
def putNowait (queue : List α) (event : α) : Option (List α) :=
  if queue.length < queueSize then some (queue ++ [event]) else none

namespace SovereignEventBus

def init (bufferSize : ℕ) : SovereignEventBus α where
  bufferSize := bufferSize
  history := []
  subscribers := []
  queues _ := []
  created := 0

variable (bus : SovereignEventBus α)

/-- A `deque` with a `maxlen` drops from the left. -/
def remember (event : α) : List α :=
  (bus.history ++ [event]).drop ((bus.history ++ [event]).length - bus.bufferSize)

/-- The loop over the subscribers, with the dead ones so far. -/
def offer (event : α) (loop : (ℕ → List α) × List ℕ) (name : ℕ) : (ℕ → List α) × List ℕ :=
  match putNowait (loop.1 name) event with
  | some queue => (Function.update loop.1 name queue, loop.2)
  | none => (loop.1, loop.2 ++ [name])

def publish (event : α) : SovereignEventBus α :=
  let loop := bus.subscribers.foldl (offer event) (bus.queues, [])
  { bus with
    history := bus.remember event
    queues := loop.1
    subscribers := loop.2.foldl List.erase bus.subscribers }

def subscribe : SovereignEventBus α × ℕ :=
  ({ bus with
      subscribers := bus.subscribers ++ [bus.created]
      queues := Function.update bus.queues bus.created []
      created := bus.created + 1 },
    bus.created)

def unsubscribe (name : ℕ) : SovereignEventBus α :=
  if name ∈ bus.subscribers then { bus with subscribers := bus.subscribers.erase name } else bus

/-- A consumer takes the first event of its queue, if there is one. -/
def take (name : ℕ) : SovereignEventBus α × Option α :=
  ({ bus with queues := Function.update bus.queues name (bus.queues name).tail },
    (bus.queues name).head?)

/-- What one subscriber sees of the bus: whether it is subscribed, and its queue. -/
def view (name : ℕ) : Bool × List α := (decide (name ∈ bus.subscribers), bus.queues name)

end SovereignEventBus

/-- What a publication does to one subscriber. -/
def receive (event : α) (view : Bool × List α) : Bool × List α :=
  match view.1, putNowait view.2 event with
  | true, some queue => (true, queue)
  | _, _ => (false, view.2)

section Loop
open SovereignEventBus
variable {event : α}

theorem putNowait_isSome {queue : List α} :
    (putNowait queue event).isSome ↔ queue.length < queueSize := by
  rw [putNowait]
  split_ifs with h
  · exact iff_of_true rfl h
  · exact iff_of_false Bool.false_ne_true h

/-- Every queue is offered the event once, as it was before the loop. -/
theorem foldl_offer {l : List ℕ} (hl : l.Nodup) (queues : ℕ → List α) (dead : List ℕ) :
    l.foldl (offer event) (queues, dead) =
      (fun name => if name ∈ l then (putNowait (queues name) event).getD (queues name)
        else queues name,
      dead ++ l.filter fun name => ¬ (putNowait (queues name) event).isSome) := by
  induction l generalizing queues dead with
  | nil => simp
  | cons name l ih =>
    obtain ⟨hname, hl⟩ := List.nodup_cons.mp hl
    -- the rest of the loop finds the later queues unchanged
    have hother : ∀ queue, ∀ other ∈ l, Function.update queues name queue other = queues other :=
      fun queue other hmem => Function.update_of_ne (ne_of_mem_of_not_mem hmem hname) _ _
    rw [List.foldl_cons, offer]
    cases hput : putNowait (queues name) event with
    | none =>
      rw [ih hl]
      refine Prod.ext (funext fun other => ?_) ?_
      · by_cases heq : other = name
        · simp [heq, hname, hput]
        · simp [heq]
      · simp [hput]
    | some queue =>
      rw [ih hl]
      refine Prod.ext (funext fun other => ?_) ?_
      · by_cases heq : other = name
        · simp [heq, hname, hput]
        · simp [heq]
      · have hsame : (l.filter fun other =>
            ¬ (putNowait (Function.update queues name queue other) event).isSome) =
            l.filter fun other => ¬ (putNowait (queues other) event).isSome :=
          List.filter_congr fun other hmem => by rw [hother queue other hmem]
        rw [hsame, List.filter_cons_of_neg (by simp [hput])]

theorem foldl_erase {l : List ℕ} (hl : l.Nodup) (keep : ℕ → Bool) :
    (l.filter fun name => ¬ keep name).foldl List.erase l = l.filter keep := by
  rw [← List.diff_eq_foldl, hl.sdiff_eq_filter]
  refine List.filter_congr fun name hname => ?_
  cases hkeep : keep name <;> simp [hname, hkeep]

variable {bus : SovereignEventBus α}

theorem publish_queues (h : bus.subscribers.Nodup) (event : α) (name : ℕ) :
    (bus.publish event).queues name =
      if name ∈ bus.subscribers then (putNowait (bus.queues name) event).getD (bus.queues name)
      else bus.queues name := by
  rw [publish, foldl_offer h]

theorem publish_subscribers (h : bus.subscribers.Nodup) (event : α) :
    (bus.publish event).subscribers =
      bus.subscribers.filter fun name => (putNowait (bus.queues name) event).isSome := by
  rw [publish, foldl_offer h, List.nil_append]
  exact foldl_erase h _

theorem mem_publish_subscribers (h : bus.subscribers.Nodup) (event : α) (name : ℕ) :
    name ∈ (bus.publish event).subscribers ↔
      name ∈ bus.subscribers ∧ (bus.queues name).length < queueSize := by
  rw [publish_subscribers h, List.mem_filter, putNowait_isSome]

/-- One subscriber's part in a publication depends on nothing but its own queue. -/
theorem view_publish (h : bus.subscribers.Nodup) (event : α) (name : ℕ) :
    (bus.publish event).view name = receive event (bus.view name) := by
  rw [view, publish_queues h, publish_subscribers h, view, receive]
  by_cases hmem : name ∈ bus.subscribers
  · cases hput : putNowait (bus.queues name) event with
    | none => simp [hmem, hput]
    | some queue => simp [hmem, hput]
  · simp [hmem]

theorem unsubscribe_eq (name : ℕ) :
    bus.unsubscribe name = { bus with subscribers := bus.subscribers.erase name } := by
  rw [unsubscribe]
  split_ifs with hmem
  · rfl
  · rw [List.erase_of_not_mem hmem]

theorem view_unsubscribe (name : ℕ) {other : ℕ} (h : other ≠ name) :
    (bus.unsubscribe name).view other = bus.view other := by
  rw [unsubscribe_eq]
  simp only [view, List.mem_erase_of_ne h]

end Loop

/-- What may happen between two steps of any party. -/
inductive Op (α : Type) where
  | publish (event : α)
  | subscribe
  | unsubscribe (name : ℕ)
  | take (name : ℕ)

/-- A bus with what has happened to it: the events published, how many there were when a queue
was handed out, what was taken from it, and how many there were when its subscription ended. -/
structure LoggedBus (α : Type) where
  bus : SovereignEventBus α
  published : List α
  since : ℕ → ℕ
  taken : ℕ → List α
  ended : ℕ → Option ℕ

namespace LoggedBus

def start (bufferSize : ℕ) : LoggedBus α where
  bus := .init bufferSize
  published := []
  since _ := 0
  taken _ := []
  ended _ := none

variable (s : LoggedBus α)

/-- The first end of a subscription counts. -/
def endNow (name : ℕ) : Option ℕ := (s.ended name).orElse fun _ => some s.published.length

def step : Op α → LoggedBus α
  | .publish event =>
    { s with
      bus := s.bus.publish event
      published := s.published ++ [event]
      ended := fun name =>
        if queueSize ≤ (s.bus.queues name).length then s.endNow name else s.ended name }
  | .subscribe =>
    { s with
      bus := s.bus.subscribe.1
      since := Function.update s.since s.bus.subscribe.2 s.published.length
      taken := Function.update s.taken s.bus.subscribe.2 []
      ended := Function.update s.ended s.bus.subscribe.2 none }
  | .unsubscribe name =>
    { s with
      bus := s.bus.unsubscribe name
      ended := Function.update s.ended name (s.endNow name) }
  | .take name =>
    { s with
      bus := (s.bus.take name).1
      taken := Function.update s.taken name (s.taken name ++ (s.bus.take name).2.toList) }

def run (ops : List (Op α)) : LoggedBus α := ops.foldl step s

/-- The events from the subscription to its end, or to now. -/
def block (name : ℕ) : List α :=
  (s.published.take ((s.ended name).getD s.published.length)).drop (s.since name)

/-- A subscriber has its block, partly taken and partly queued. -/
structure Served (name : ℕ) : Prop where
  since : s.since name ≤ (s.ended name).getD s.published.length
  ended : (s.ended name).getD s.published.length ≤ s.published.length
  delivered : s.taken name ++ s.bus.queues name = s.block name
  subscribed : name ∈ s.bus.subscribers ↔ s.ended name = none

structure Invariant : Prop where
  nodup : s.bus.subscribers.Nodup
  created : ∀ name ∈ s.bus.subscribers, name < s.bus.created
  served : ∀ name < s.bus.created, s.Served name
  history : s.bus.history = s.published.drop (s.published.length - s.bus.bufferSize)

variable {s}

theorem start_invariant (bufferSize : ℕ) : (start bufferSize : LoggedBus α).Invariant where
  nodup := List.nodup_nil
  created _ h := absurd h List.not_mem_nil
  served _ h := absurd h (Nat.not_lt_zero _)
  history := by
    rw [start, SovereignEventBus.init, List.drop_nil]

/-- Dropping from the left at every step keeps the last ones. -/
theorem drop_concat (l : List α) (event : α) (n : ℕ) :
    (l.drop (l.length - n) ++ [event]).drop ((l.drop (l.length - n) ++ [event]).length - n) =
      (l ++ [event]).drop ((l ++ [event]).length - n) := by
  rw [← List.drop_append_of_le_length (Nat.sub_le _ _), List.drop_drop]
  congr 1
  rw [List.length_drop, List.length_append, List.length_singleton]
  omega

theorem ended_publish (event : α) (name : ℕ) : (s.step (.publish event)).ended name =
    if queueSize ≤ (s.bus.queues name).length then s.endNow name else s.ended name := rfl

section Publish
variable {name : ℕ} (h : s.Served name) (hnodup : s.bus.subscribers.Nodup) (event : α)
include h hnodup

/-- A queue with room gets the event as the next of its block. -/
theorem Served.publish_room (hend : s.ended name = none)
    (hroom : (s.bus.queues name).length < queueSize) : (s.step (.publish event)).Served name := by
  obtain ⟨hsince, -, hdelivered, hsubscribed⟩ := h
  have hin := hsubscribed.mpr hend
  have hqueue := publish_queues hnodup event name
  have hmem := mem_publish_subscribers hnodup event name
  have hnow : (s.step (.publish event)).ended name = none := by
    rw [ended_publish, if_neg (not_le.mpr hroom), hend]
  rw [hend, Option.getD_none] at hsince
  rw [block, hend, Option.getD_none, List.take_length] at hdelivered
  rw [if_pos hin, putNowait, if_pos hroom, Option.getD_some] at hqueue
  refine ⟨?_, ?_, ?_, iff_of_true (hmem.mpr ⟨hin, hroom⟩) hnow⟩
  · rw [hnow, Option.getD_none, step, List.length_append]
    exact hsince.trans (Nat.le_add_right _ _)
  · rw [hnow, Option.getD_none]
  · rw [block, hnow, Option.getD_none, List.take_length, step, hqueue, ← List.append_assoc,
      hdelivered, List.drop_append_of_le_length hsince]

/-- A full queue ends its block before the event. -/
theorem Served.publish_full (hend : s.ended name = none)
    (hfull : queueSize ≤ (s.bus.queues name).length) : (s.step (.publish event)).Served name := by
  obtain ⟨hsince, -, hdelivered, hsubscribed⟩ := h
  have hin := hsubscribed.mpr hend
  have hqueue := publish_queues hnodup event name
  have hmem := mem_publish_subscribers hnodup event name
  have hnow : (s.step (.publish event)).ended name = some s.published.length := by
    rw [ended_publish, if_pos hfull, endNow, hend]
    rfl
  rw [hend, Option.getD_none] at hsince
  rw [block, hend, Option.getD_none, List.take_length] at hdelivered
  rw [if_pos hin, putNowait, if_neg (not_lt.mpr hfull), Option.getD_none] at hqueue
  refine ⟨?_, ?_, ?_, iff_of_false (fun h => not_lt.mpr hfull (hmem.mp h).2) (by rw [hnow]; simp)⟩
  · rw [hnow, Option.getD_some]
    exact hsince
  · rw [hnow, Option.getD_some, step, List.length_append]
    exact Nat.le_add_right _ _
  · rw [block, hnow, Option.getD_some, step, List.take_left, hqueue, hdelivered]

/-- A block that has ended stays as it is. -/
theorem Served.publish_ended {stop : ℕ} (hend : s.ended name = some stop) :
    (s.step (.publish event)).Served name := by
  obtain ⟨hsince, hended, hdelivered, hsubscribed⟩ := h
  have hout : name ∉ s.bus.subscribers := by
    rw [hsubscribed, hend]
    exact Option.some_ne_none stop
  have hqueue := publish_queues hnodup event name
  have hmem := mem_publish_subscribers hnodup event name
  have hnow : (s.step (.publish event)).ended name = some stop := by
    rw [ended_publish, endNow, hend]
    exact ite_self _
  rw [hend, Option.getD_some] at hsince hended
  rw [block, hend, Option.getD_some] at hdelivered
  rw [if_neg hout] at hqueue
  refine ⟨?_, ?_, ?_, iff_of_false (fun h => hout (hmem.mp h).1) (by rw [hnow]; simp)⟩
  · rw [hnow]
    exact hsince
  · rw [hnow, Option.getD_some, step, List.length_append]
    exact hended.trans (Nat.le_add_right _ _)
  · rw [block, hnow, Option.getD_some, step, List.take_append_of_le_length hended, hqueue,
      hdelivered]

theorem Served.publish : (s.step (.publish event)).Served name := by
  cases hend : s.ended name with
  | none =>
    rcases lt_or_ge (s.bus.queues name).length queueSize with hroom | hfull
    · exact h.publish_room hnodup event hend hroom
    · exact h.publish_full hnodup event hend hfull
  | some stop => exact h.publish_ended hnodup event hend

end Publish

/-- Steps that leave a subscriber's own record and the published events alone. -/
theorem Served.of_eq {s' : LoggedBus α} {name : ℕ} (h : s.Served name)
    (hpublished : s'.published = s.published) (hsince : s'.since name = s.since name)
    (hended : s'.ended name = s.ended name)
    (hsame : s'.taken name ++ s'.bus.queues name = s.taken name ++ s.bus.queues name)
    (hmem : name ∈ s'.bus.subscribers ↔ name ∈ s.bus.subscribers) : s'.Served name where
  since := by rw [hsince, hended, hpublished]; exact h.since
  ended := by rw [hended, hpublished]; exact h.ended
  delivered := by rw [hsame, h.delivered, block, block, hpublished, hended, hsince]
  subscribed := by rw [hmem, h.subscribed, hended]

theorem Served.unsubscribe {name : ℕ} (h : s.Served name) (hnodup : s.bus.subscribers.Nodup)
    (other : ℕ) : (s.step (.unsubscribe other)).Served name := by
  by_cases heq : name = other
  · rw [← heq]
    have hout : name ∉ (s.bus.unsubscribe name).subscribers := by
      rw [unsubscribe_eq]
      exact hnodup.not_mem_erase
    have hqueues : (s.bus.unsubscribe name).queues = s.bus.queues := by rw [unsubscribe_eq]
    have hnow : (s.step (.unsubscribe name)).ended name =
        some ((s.ended name).getD s.published.length) := by
      refine (Function.update_self name (s.endNow name) s.ended).trans ?_
      rw [endNow]
      cases s.ended name <;> rfl
    refine ⟨?_, ?_, ?_, iff_of_false hout (by rw [hnow]; simp)⟩
    · rw [hnow]
      exact h.since
    · rw [hnow]
      exact h.ended
    · rw [block, hnow, step, hqueues, h.delivered]
      rfl
  · refine h.of_eq rfl rfl (Function.update_of_ne heq _ _) ?_ ?_
    all_goals rw [step, unsubscribe_eq]
    exact List.mem_erase_of_ne heq

theorem Served.take {name : ℕ} (h : s.Served name) (other : ℕ) :
    (s.step (.take other)).Served name := by
  refine h.of_eq rfl rfl rfl ?_ Iff.rfl
  change Function.update s.taken other (s.taken other ++ (s.bus.queues other).head?.toList) name ++
    Function.update s.bus.queues other (s.bus.queues other).tail name = _
  by_cases heq : name = other
  · rw [← heq, Function.update_self, Function.update_self, List.append_assoc]
    cases s.bus.queues name <;> rfl
  · rw [Function.update_of_ne heq, Function.update_of_ne heq]

theorem Served.subscribe {name : ℕ} (h : s.Served name) (hold : name < s.bus.created) :
    (s.step .subscribe).Served name := by
  have hne : name ≠ s.bus.created := hold.ne
  refine h.of_eq rfl (Function.update_of_ne hne _ _) (Function.update_of_ne hne _ _) ?_ ?_
  · exact congrArg₂ _ (Function.update_of_ne hne _ _) (Function.update_of_ne hne _ _)
  · change name ∈ s.bus.subscribers ++ [s.bus.created] ↔ _
    rw [List.mem_append, List.mem_singleton]
    exact or_iff_left hne

theorem served_created : (s.step .subscribe).Served s.bus.created := by
  have hsince : (s.step .subscribe).since s.bus.created = s.published.length :=
    Function.update_self _ _ _
  have hended : (s.step .subscribe).ended s.bus.created = none := Function.update_self _ _ _
  have htaken : (s.step .subscribe).taken s.bus.created = [] := Function.update_self _ _ _
  have hqueue : (s.step .subscribe).bus.queues s.bus.created = [] := Function.update_self _ _ _
  refine ⟨?_, ?_, ?_, iff_of_true List.mem_concat_self hended⟩
  · rw [hsince, hended]
    exact le_refl _
  · rw [hended, Option.getD_none]
  · rw [block, hsince, hended, htaken, hqueue, Option.getD_none, List.take_length]
    exact List.drop_length.symm

theorem Invariant.step (h : s.Invariant) (op : Op α) : (s.step op).Invariant := by
  obtain ⟨hnodup, hcreated, hserved, hhistory⟩ := h
  cases op with
  | publish event =>
    refine ⟨?_, ?_, fun name hname => (hserved name hname).publish hnodup event, ?_⟩
    · rw [LoggedBus.step, publish_subscribers hnodup]
      exact hnodup.filter _
    · intro name hname
      rw [LoggedBus.step, publish_subscribers hnodup, List.mem_filter] at hname
      exact hcreated name hname.1
    · rw [LoggedBus.step, SovereignEventBus.publish, SovereignEventBus.remember, hhistory,
        drop_concat]
  | subscribe =>
    have hfresh : s.bus.created ∉ s.bus.subscribers := fun hmem => (hcreated _ hmem).false
    have hconcat := hnodup.concat hfresh
    rw [List.concat_eq_append] at hconcat
    refine ⟨hconcat, ?_, fun name hname => ?_, hhistory⟩
    · intro name hname
      rcases List.mem_append.mp hname with hold | hnew
      · exact Nat.lt_succ_of_lt (hcreated name hold)
      · rw [List.mem_singleton.mp hnew]
        exact Nat.lt_succ_self _
    · rcases Nat.lt_succ_iff_lt_or_eq.mp hname with hold | hnew
      · exact (hserved name hold).subscribe hold
      · rw [hnew]
        exact served_created
  | unsubscribe other =>
    have hbus : (s.step (.unsubscribe other)).bus =
        { s.bus with subscribers := s.bus.subscribers.erase other } := unsubscribe_eq other
    refine ⟨?_, fun name hname => ?_, fun name hname => ?_, ?_⟩
    · rw [hbus]
      exact hnodup.erase other
    · rw [hbus] at hname ⊢
      exact hcreated name (List.mem_of_mem_erase hname)
    · rw [hbus] at hname
      exact (hserved name hname).unsubscribe hnodup other
    · rw [hbus]
      exact hhistory
  | take other =>
    exact ⟨hnodup, hcreated, fun name hname => (hserved name hname).take other, hhistory⟩

theorem run_invariant (h : s.Invariant) (ops : List (Op α)) : (s.run ops).Invariant := by
  induction ops generalizing s with
  | nil => exact h
  | cons op ops ih => exact ih (h.step op)

theorem step_bufferSize (op : Op α) : (s.step op).bus.bufferSize = s.bus.bufferSize := by
  cases op with
  | unsubscribe name =>
    rw [step, unsubscribe_eq]
  | _ => rfl

theorem run_bufferSize (ops : List (Op α)) : (s.run ops).bus.bufferSize = s.bus.bufferSize := by
  induction ops generalizing s with
  | nil => rfl
  | cons op ops ih => exact ih.trans (step_bufferSize op)

/-- In every run, subscribers have their blocks, a publication reaches each of them as its own
queue allows, and the history holds the last events. -/
theorem run_delivers (bufferSize : ℕ) (ops : List (Op α)) :
    let s := (start bufferSize).run ops
    (∀ name < s.bus.created, s.Served name) ∧
    (∀ event name, (s.bus.publish event).view name = receive event (s.bus.view name)) ∧
    (∀ name other, other ≠ name → (s.bus.unsubscribe name).view other = s.bus.view other) ∧
    s.bus.history <:+ s.published ∧ s.bus.history.length = min s.published.length bufferSize := by
  have h := run_invariant (start_invariant bufferSize) ops
  have hsize : ((start bufferSize).run ops).bus.bufferSize = bufferSize := run_bufferSize ops
  have hhistory := h.history
  rw [hsize] at hhistory
  refine ⟨h.served, fun event name => view_publish h.nodup event name,
    fun name other hne => view_unsubscribe name hne, ?_, ?_⟩
  · rw [hhistory]
    exact List.drop_suffix _ _
  · rw [hhistory, List.length_drop]
    omega

end LoggedBus

end ContinuityOS.Streaming
