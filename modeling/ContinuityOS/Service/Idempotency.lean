import ContinuityOS.Library.Encoding
import ContinuityOS.Library.Sha256
import ContinuityOS.Library.Text
import ContinuityOS.Service.State

/-! # Idempotent requests

A request may carry a key. Its response is stored as text under the key together with a
fingerprint of the request, and a later request with the key is answered from the store.
-/
namespace ContinuityOS.Service
open Library

structure HttpError where
  status : ℕ
  detail : String
deriving DecidableEq

/-- An exception that no handler turns into a response of its own. -/
def internalServerError : HttpError := ⟨500, "Internal Server Error"⟩

def StateError.toHttp : StateError → HttpError
  | .conflict => ⟨409, "idempotency key was reused for a different request"⟩
  | _ => internalServerError

/-- The parts of a request that idempotency looks at. -/
structure Request where
  idempotencyKey : Option String := none
  body : List UInt8
  query : String := ""

/-- One record of the evidence ledger, its payload as JSON text. -/
structure LedgerRecord where
  recordType : String
  subjectId : String
  payload : String
deriving DecidableEq

structure ServiceState where
  store : StateFile
  ledger : List LedgerRecord := []

def ServiceState.append (s : ServiceState) (record : LedgerRecord) : ServiceState :=
  { s with ledger := s.ledger ++ [record] }

@[simp] theorem ServiceState.append_store (s : ServiceState) (record : LedgerRecord) :
    (s.append record).store = s.store := rfl

/-- A response model with its JSON text and the reading of stored texts. -/
structure ResponseCodec (R : Type) where
  dump : R → String
  validate : String → Option R

namespace ResponseCodec
variable {R : Type} (codec : ResponseCodec R)

/-- The text of a response is read as that response. -/
def ReadsBack (response : R) : Prop := codec.validate (codec.dump response) = some response

/-- The answer from a stored text. -/
def cachedResponse (text : String) : Except HttpError R :=
  match codec.validate text with
  | some response => .ok response
  | none => .error internalServerError

theorem cachedResponse_dump {response : R} (h : codec.ReadsBack response) :
    codec.cachedResponse (codec.dump response) = .ok response := by
  rw [cachedResponse, h]

/-- A codec that knows the texts of some responses. -/
def table [DecidableEq R] (dump : R → String) (responses : List R) : ResponseCodec R where
  dump := dump
  validate text := responses.find? fun response => dump response = text

theorem table_readsBack [DecidableEq R] (dump : R → String) (responses : List R)
    (hinj : ∀ r ∈ responses, ∀ r' ∈ responses, dump r = dump r' → r = r') :
    ∀ r ∈ responses, (table dump responses).ReadsBack r := by
  intro r hr
  have hsome : (responses.find? fun response => dump response = dump r).isSome := by
    rw [List.find?_isSome]
    exact ⟨r, hr, by simp⟩
  obtain ⟨r', hr'⟩ := Option.isSome_iff_exists.mp hsome
  have hdump : dump r' = dump r := by simpa using List.find?_some hr'
  have hmem : r' ∈ responses := List.mem_of_find?_eq_some hr'
  exact hr'.trans (congrArg some (hinj r' hmem r hr hdump))

/-- Two responses with different texts are both read back. -/
theorem table_pair_readsBack [DecidableEq R] {dump : R → String} {r r' : R}
    (h : dump r ≠ dump r') :
    (table dump [r, r']).ReadsBack r ∧ (table dump [r, r']).ReadsBack r' := by
  have hread := table_readsBack dump [r, r'] (by simp [h, h.symm])
  simpa using hread

end ResponseCodec

def fingerprintOf (body : List UInt8) (query : String) : String :=
  String.ofList (hexEncode (sha256 (body ++ encodeUtf8 query.toList)))

def validKey (key : String) : Bool :=
  key ≠ "" && decide (key.length ≤ 128) && !key.toList.any isStripped

def invalidKey : HttpError := ⟨400, "invalid idempotency key"⟩

structure IdempotencyContext where
  key : Option String
  fingerprint : Option String
  cached : Option String

def liftState {α : Type} : Except StateError α → Except HttpError α
  | .ok a => .ok a
  | .error e => .error e.toHttp

@[simp] theorem liftState_ok {α : Type} (a : α) : liftState (.ok a) = .ok a := rfl

@[simp] theorem liftState_error {α : Type} (e : StateError) :
    (liftState (.error e) : Except HttpError α) = .error e.toHttp := rfl

def Request.fingerprint (request : Request) : String := fingerprintOf request.body request.query

def idempotencyContext (store : StateFile) (request : Request) (space : String) :
    Except HttpError IdempotencyContext :=
  match request.idempotencyKey with
  | none => .ok ⟨none, none, none⟩
  | some key =>
    if validKey key then do
      let cached ← liftState (store.getIdempotent space key request.fingerprint)
      return ⟨some key, some request.fingerprint, cached⟩
    else .error invalidKey

/-- Nothing is saved for a request without a key. -/
def saveIdempotency (store : StateFile) (space : String) (key fingerprint : Option String)
    (response : String) : Except HttpError StateFile :=
  match key, fingerprint with
  | some key, some fingerprint => do
    let members ← liftState (store.saveIdempotent space key fingerprint response)
    return .parsed (.object members)
  | _, _ => .ok store

section Lookup
variable {store : StateFile} {request : Request} {space : String}

/-- What the lookup can answer. -/
theorem idempotencyContext_cases (store : StateFile) (request : Request) (space : String) :
    (∃ e, idempotencyContext store request space = .error e) ∨
    idempotencyContext store request space = .ok ⟨none, none, none⟩ ∨
    ∃ key cached, request.idempotencyKey = some key ∧ validKey key = true ∧
      store.getIdempotent space key request.fingerprint = .ok cached ∧
      idempotencyContext store request space =
        .ok ⟨some key, some request.fingerprint, cached⟩ := by
  unfold idempotencyContext
  cases request.idempotencyKey with
  | none => exact Or.inr (Or.inl rfl)
  | some key =>
    cases hvalid : validKey key with
    | false => exact Or.inl ⟨invalidKey, by simp [hvalid]⟩
    | true =>
      cases hget : store.getIdempotent space key request.fingerprint with
      | error e => exact Or.inl ⟨e.toHttp, by simp [hvalid, hget]⟩
      | ok cached => exact Or.inr (Or.inr ⟨key, cached, rfl, hvalid, hget, by simp [hvalid, hget]⟩)

theorem idempotencyContext_eq {key : String} {cached : Option String}
    (hkey : request.idempotencyKey = some key) (hvalid : validKey key = true)
    (hget : store.getIdempotent space key request.fingerprint = .ok cached) :
    idempotencyContext store request space = .ok ⟨some key, some request.fingerprint, cached⟩ := by
  simp [idempotencyContext, hkey, hvalid, hget]

/-- After a first response is saved, the lookup of the same request finds it. -/
theorem saveIdempotency_of_get {key : String} {found : Option String}
    (hget : store.getIdempotent space key request.fingerprint = .ok found) (response : String) :
    ∃ store', saveIdempotency store space (some key) (some request.fingerprint) response =
        .ok store' ∧
      store'.getIdempotent space key request.fingerprint = .ok (some response) := by
  obtain ⟨members, hmembers⟩ := StateFile.saveIdempotent_of_getIdempotent hget response
  refine ⟨.parsed (.object members), by simp [saveIdempotency, hmembers], ?_⟩
  rw [StateFile.getIdempotent_saveIdempotent hmembers, if_pos rfl, if_pos rfl]

end Lookup

end ContinuityOS.Service
