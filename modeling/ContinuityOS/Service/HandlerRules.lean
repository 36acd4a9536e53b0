import ContinuityOS.Service.Handler
import ContinuityOS.Service.Replay

/-! # Rules for handlers

What a handler keeps of its state, and when two runs of it from different states answer alike.
Both are proved part by part.
-/
namespace ContinuityOS.Service
open Library

/-- A call of the store that may replace the file; answers whether it did. -/
def replaceStore (fate : Fate) (call : StateFile → Except StateError (Option Members)) :
    Handler Bool := fun s =>
  match fate, call s.store with
  | .failsBefore, _ => (.error internalServerError, s)
  | _, .error e => (.error e.toHttp, s)
  | _, .ok none => (.ok false, s)
  | .returns, .ok (some members) => (.ok true, { s with store := .parsed (.object members) })
  | .failsAfter, .ok (some members) =>
    (.error internalServerError, { s with store := .parsed (.object members) })

namespace Handler
variable {α β : Type}

/-- Some run of the handler gives the answer. -/
def Answers (h : Handler α) (a : α) : Prop := ∃ s, (h s).1 = .ok a

/-- A property of the state that every run leaves true. -/
def Keeps (I : ServiceState → Prop) (h : Handler α) : Prop := ∀ s, I s → I (h s).2

/-- Runs from related states answer alike and end in related states. -/
def Couples (R : ServiceState → ServiceState → Prop) (h : Handler α) : Prop :=
  ∀ s t, R s t → (h s).1 = (h t).1 ∧ R (h s).2 (h t).2

theorem bind_ok_run {h : Handler α} {s : ServiceState} {a : α} (hrun : (h s).1 = .ok a)
    (f : α → Handler β) : (h >>= f) s = f a (h s).2 :=
  bind_run (Prod.ext hrun rfl) f

theorem bind_error_run {h : Handler α} {s : ServiceState} {e : HttpError}
    (hrun : (h s).1 = .error e) (f : α → Handler β) : (h >>= f) s = (.error e, (h s).2) :=
  bind_run_error (Prod.ext hrun rfl) f

@[simp] theorem lift_ok_bind (a : α) (f : α → Handler β) : (lift (.ok a) >>= f) = f a := rfl

@[simp] theorem lift_error_bind (e : HttpError) (f : α → Handler β) :
    (lift (.error e) >>= f) = raise e := rfl

theorem lift_run (x : Except HttpError α) (s : ServiceState) : lift x s = (x, s) := by
  cases x <;> rfl

theorem answers_lift {x : Except HttpError α} {a : α} : Answers (lift x) a → x = .ok a := by
  rintro ⟨s, h⟩
  rwa [lift_run] at h

section Keeps
variable {I : ServiceState → Prop}

theorem keeps_pure (a : α) : Keeps I (pure a : Handler α) := fun _ hs => hs

theorem keeps_raise (e : HttpError) : Keeps I (raise e : Handler α) := fun _ hs => hs

theorem keeps_lift (x : Except HttpError α) : Keeps I (lift x) := by
  intro s hs
  rwa [lift_run]

theorem keeps_lookup (request : Request) (space : String) :
    Keeps I (lookupIdempotency request space) := by
  intro s hs
  rwa [lookupIdempotency, lift_run]

theorem Keeps.bind {h : Handler α} {f : α → Handler β} (hh : Keeps I h)
    (hf : ∀ a, Answers h a → Keeps I (f a)) : Keeps I (h >>= f) := by
  intro s hs
  cases hrun : (h s).1 with
  | ok a =>
    rw [bind_ok_run hrun]
    exact hf a ⟨s, hrun⟩ _ (hh s hs)
  | error e =>
    rw [bind_error_run hrun]
    exact hh s hs

/-- What the new file satisfies is kept, whatever the fate of the write. -/
theorem keeps_replaceStore {call : StateFile → Except StateError (Option Members)}
    (hcall : ∀ s members, I s → call s.store = .ok (some members) →
      I { s with store := .parsed (.object members) }) (fate : Fate) :
    Keeps I (replaceStore fate call) := by
  intro s hs
  unfold replaceStore
  split
  · exact hs
  · exact hs
  · exact hs
  · exact hcall s _ hs (by assumption)
  · exact hcall s _ hs (by assumption)

end Keeps

section Couples
variable {R : ServiceState → ServiceState → Prop}

theorem Couples.bind {h : Handler α} {f : α → Handler β} (hh : Couples R h)
    (hf : ∀ a, Answers h a → Couples R (f a)) : Couples R (h >>= f) := by
  intro s t hst
  obtain ⟨hanswer, hafter⟩ := hh s t hst
  cases hrun : (h s).1 with
  | ok a =>
    rw [bind_ok_run hrun, bind_ok_run (hanswer.symm.trans hrun)]
    exact hf a ⟨s, hrun⟩ _ _ hafter
  | error e =>
    rw [bind_error_run hrun, bind_error_run (hanswer.symm.trans hrun)]
    exact ⟨rfl, hafter⟩

end Couples

section Cells

/-- Two states with sound stores that hold the same values in the owned cells. -/
structure AgreeOn (owned : String → String → Prop) (s t : ServiceState) : Prop where
  left : s.store.Sound
  right : t.store.Sound
  value : ∀ name key, owned name key → s.store.valueAt name key = t.store.valueAt name key

theorem AgreeOn.symm {owned : String → String → Prop} {s t : ServiceState}
    (h : AgreeOn owned s t) : AgreeOn owned t s :=
  ⟨h.right, h.left, fun name key howned => (h.value name key howned).symm⟩

/-- How a decided write ends, given the states without and with it. -/
def settled (fate : Fate) (decision : Except StateError Bool) (before after : ServiceState) :
    Except HttpError Bool × ServiceState :=
  match fate, decision with
  | .failsBefore, _ => (.error internalServerError, before)
  | _, .error e => (.error e.toHttp, before)
  | _, .ok false => (.ok false, before)
  | .returns, .ok true => (.ok true, after)
  | .failsAfter, .ok true => (.error internalServerError, after)

variable {call : StateFile → Except StateError (Option Members)} {name key : String}
  {value : Json} {decision : Option Json → Except StateError Bool}

variable {owned : String → String → Prop}

end Cells

end Handler

end ContinuityOS.Service
