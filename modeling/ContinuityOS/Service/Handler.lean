import ContinuityOS.Service.Idempotency

/-! # Request handlers

A handler reads and changes the service state and answers or raises. What it changed before
it raises stays changed.
-/
namespace ContinuityOS.Service
open Library

def Handler (α : Type) := ServiceState → Except HttpError α × ServiceState

namespace Handler
variable {α β : Type}

instance : Monad Handler where
  pure a s := (.ok a, s)
  bind h f s :=
    match h s with
    | (.ok a, s') => f a s'
    | (.error e, s') => (.error e, s')

def raise (e : HttpError) : Handler α := fun s => (.error e, s)

def lift : Except HttpError α → Handler α
  | .ok a => pure a
  | .error e => raise e

/-- A call of the store that only reads. -/
def readStore (call : StateFile → Except StateError α) : Handler α :=
  fun s => lift (liftState (call s.store)) s

/-- A call of the store that replaces the file. -/
def writeStore (call : StateFile → Except StateError Members) : Handler Unit := fun s =>
  match call s.store with
  | .ok members => (.ok (), { s with store := .parsed (.object members) })
  | .error e => (.error e.toHttp, s)

def getValue (name key : String) : Handler (Option Json) :=
  readStore fun store => store.getValue name key

def setValue (name key : String) (value : Json) : Handler Unit :=
  writeStore fun store => store.setValue name key value

def appendLedger (record : LedgerRecord) : Handler Unit := fun s => (.ok (), s.append record)

def lookupIdempotency (request : Request) (space : String) : Handler IdempotencyContext :=
  fun s => lift (idempotencyContext s.store request space) s

def saveResponse (space : String) (context : IdempotencyContext) (response : String) :
    Handler Unit :=
  match context.key, context.fingerprint with
  | some key, some fingerprint =>
    writeStore fun store => store.saveIdempotent space key fingerprint response
  | _, _ => pure ()

theorem pure_run (a : α) (s : ServiceState) : (pure a : Handler α) s = (.ok a, s) := rfl

/-- A handler goes on with what its first part answers. -/
theorem bind_run {h : Handler α} {s s' : ServiceState} {a : α} (hrun : h s = (.ok a, s'))
    (f : α → Handler β) : (h >>= f) s = f a s' := by
  change (match h s with
    | (.ok a, s') => f a s'
    | (.error e, s') => (.error e, s')) = f a s'
  rw [hrun]

theorem bind_run_error {h : Handler α} {s s' : ServiceState} {e : HttpError}
    (hrun : h s = (.error e, s')) (f : α → Handler β) : (h >>= f) s = (.error e, s') := by
  change (match h s with
    | (.ok a, s') => f a s'
    | (.error e, s') => (.error e, s')) = (.error e, s')
  rw [hrun]

section Store
variable {s : ServiceState}

theorem getValue_run (h : s.store.Sound) (name key : String) :
    getValue name key s = (.ok (s.store.valueAt name key), s) := by
  rw [getValue, readStore, h.getValue]
  rfl

theorem setValue_run (h : s.store.Sound) (name key : String) (value : Json)
    (hvalue : value ≠ .null) : ∃ store, setValue name key value s = (.ok (), ⟨store, s.ledger⟩) ∧
      s.store.SetTo store name key value := by
  obtain ⟨members, hset, hto⟩ := h.setValue name key hvalue
  refine ⟨_, ?_, hto⟩
  rw [setValue, writeStore, hset]

theorem appendLedger_run (record : LedgerRecord) (s : ServiceState) :
    appendLedger record s = (.ok (), s.append record) := rfl

/-- Without a key nothing is saved; with one, the response is. -/
theorem saveResponse_run (h : s.store.Sound) {space : String} {request : Request} {key : String}
    {found : Option String}
    (hget : s.store.getIdempotent space key request.fingerprint = .ok found) (response : String) :
    ∃ store, saveResponse space ⟨some key, some request.fingerprint, found⟩ response s =
        (.ok (), ⟨store, s.ledger⟩) ∧
      s.store.SavedTo store space key request.fingerprint response := by
  obtain ⟨members, hsave, hto⟩ := h.saveIdempotent hget response
  refine ⟨_, ?_, hto⟩
  simp only [saveResponse, writeStore, hsave]

theorem lookupIdempotency_run {request : Request} {space : String} {context : IdempotencyContext}
    (h : idempotencyContext s.store request space = .ok context) :
    lookupIdempotency request space s = (.ok context, s) := by
  rw [lookupIdempotency, h]
  rfl

theorem lookupIdempotency_run_error {request : Request} {space : String} {e : HttpError}
    (h : idempotencyContext s.store request space = .error e) :
    lookupIdempotency request space s = (.error e, s) := by
  rw [lookupIdempotency, h]
  rfl

end Store

end Handler

end ContinuityOS.Service
