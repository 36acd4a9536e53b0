import ContinuityOS.Library.Json
import ContinuityOS.Service.Idempotency

/-! # Verification of reserve proofs

A proof holds when hashing it as often as the policy minimum gives the commitment. The
response is stored before an invalid proof is rejected, so a repeated request replays the
rejection only when there was none.
-/
namespace ContinuityOS.Service
open Library

def hashChain (seed : List UInt8) : ℕ → List UInt8
  | 0 => seed
  | n + 1 => hashChain (sha256 seed) n

structure ZKPReserveProof where
  commitmentHashHex : String
  policyMinimum : ℤ
  proofHashHex : String

/-- No answer when the proof is not hexadecimal. -/
def ZKPReserveProof.verify (proof : ZKPReserveProof) (maxCapacity : ℤ) : Option Bool :=
  if proof.policyMinimum < 0 ∨ maxCapacity < proof.policyMinimum then some false
  else do
    let bytes ← hexDecode proof.proofHashHex.toList
    return hexEncode (hashChain bytes proof.policyMinimum.toNat) = proof.commitmentHashHex.toList

structure VerifyReserveResponse where
  valid : Bool
  policyMinimum : ℤ
  commitmentHashHex : String
  message : String
deriving DecidableEq

def VerifyReserveResponse.toJson (r : VerifyReserveResponse) : Json :=
  .object [("valid", .bool r.valid), ("policy_minimum", .int r.policyMinimum),
    ("commitment_hash_hex", .string r.commitmentHashHex), ("message", .string r.message)]

def ZKPReserveProof.response (proof : ZKPReserveProof) (valid : Bool) : VerifyReserveResponse where
  valid := valid
  policyMinimum := proof.policyMinimum
  commitmentHashHex := proof.commitmentHashHex
  message := if valid then "Zero-Knowledge Proof mathematically verified."
    else "Zero-Knowledge Proof verification failed."

def proofRejected : HttpError := ⟨400, "ZKP Reserve Proof verification failed."⟩

variable (codec : ResponseCodec VerifyReserveResponse)

def verifyReserveProof (request : Request) (proof : ZKPReserveProof) (s : ServiceState) :
    Except HttpError VerifyReserveResponse × ServiceState :=
  match idempotencyContext s.store request "verify-reserve" with
  | .error e => (.error e, s)
  | .ok ⟨_, _, some cached⟩ => (codec.cachedResponse cached, s)
  | .ok ⟨key, fingerprint, none⟩ =>
    match proof.verify 1000 with
    | none => (.error internalServerError, s)
    | some valid =>
      let response := proof.response valid
      let s := s.append ⟨"zkp_reserve_verification", proof.commitmentHashHex, codec.dump response⟩
      match saveIdempotency s.store "verify-reserve" key fingerprint (codec.dump response) with
      | .error e => (.error e, s)
      | .ok store =>
        if valid then (.ok response, { s with store := store })
        else (.error proofRejected, { s with store := store })

/-- The answers to a request that is sent some number of times. -/
def repeatedAnswers (request : Request) (proof : ZKPReserveProof) :
    ℕ → ServiceState → List (Except HttpError VerifyReserveResponse)
  | 0, _ => []
  | n + 1, s =>
    (verifyReserveProof codec request proof s).1 ::
      repeatedAnswers request proof n (verifyReserveProof codec request proof s).2

def statusClass : Except HttpError VerifyReserveResponse → ℕ
  | .ok _ => 2
  | .error e => e.status / 100

/-- The verdict on the proof that an answer gives. -/
def verdict : Except HttpError VerifyReserveResponse → Option Bool
  | .ok response => some response.valid
  | .error e => if e = proofRejected then some false else none

def SameOutcome (a b : Except HttpError VerifyReserveResponse) : Prop :=
  statusClass a = statusClass b ∧ verdict a = verdict b

/-- The request carries a usable key that nothing is stored under. -/
def FirstUnderKey (request : Request) (s : ServiceState) : Prop :=
  ∃ key, request.idempotencyKey = some key ∧ validKey key = true ∧
    s.store.getIdempotent "verify-reserve" key request.fingerprint = .ok none

section Steps
variable {codec} {request : Request} {proof : ZKPReserveProof} {s : ServiceState}

/-- A stored response is the answer, and nothing changes. -/
theorem verifyReserveProof_cached {key text : String} (hkey : request.idempotencyKey = some key)
    (hvalid : validKey key = true)
    (hget : s.store.getIdempotent "verify-reserve" key request.fingerprint = .ok (some text)) :
    verifyReserveProof codec request proof s = (codec.cachedResponse text, s) := by
  rw [verifyReserveProof, idempotencyContext_eq hkey hvalid hget]

/-- The first request under a key stores its response, whatever the verdict. -/
theorem verifyReserveProof_first (codec : ResponseCodec VerifyReserveResponse) (s : ServiceState)
    {key : String} (hkey : request.idempotencyKey = some key)
    (hvalid : validKey key = true)
    (hget : s.store.getIdempotent "verify-reserve" key request.fingerprint = .ok none)
    {valid : Bool} (hverify : proof.verify 1000 = some valid) :
    ∃ s', verifyReserveProof codec request proof s =
        (if valid then .ok (proof.response valid) else .error proofRejected, s') ∧
      s'.store.getIdempotent "verify-reserve" key request.fingerprint =
        .ok (some (codec.dump (proof.response valid))) := by
  obtain ⟨store, hsave, hfound⟩ :=
    saveIdempotency_of_get hget (codec.dump (proof.response valid))
  rw [verifyReserveProof, idempotencyContext_eq hkey hvalid hget]
  simp only [hverify, ServiceState.append_store, hsave]
  cases valid with
  | false => exact ⟨_, rfl, hfound⟩
  | true => exact ⟨_, rfl, hfound⟩

/-- Any other request leaves the store alone and is answered from the store only. -/
theorem verifyReserveProof_unstored (codec : ResponseCodec VerifyReserveResponse)
    (h : ¬ FirstUnderKey request s)
    (hhex : proof.verify 1000 ≠ none) :
    (verifyReserveProof codec request proof s).2.store = s.store ∧
      ∀ t : ServiceState, t.store = s.store →
        (verifyReserveProof codec request proof t).1 =
          (verifyReserveProof codec request proof s).1 := by
  obtain ⟨valid, hverify⟩ := Option.ne_none_iff_exists'.mp hhex
  rcases idempotencyContext_cases s.store request "verify-reserve" with
    ⟨e, he⟩ | hnone | ⟨key, cached, hkey, hvalid, hget, hcontext⟩
  · constructor
    · simp only [verifyReserveProof, he]
    · intro t ht
      simp only [verifyReserveProof, ht, he]
  · constructor
    · simp only [verifyReserveProof, hnone, hverify, saveIdempotency]
      split_ifs <;> rfl
    · intro t ht
      simp only [verifyReserveProof, ht, hnone, hverify, saveIdempotency]
      split_ifs <;> rfl
  · cases cached with
    | none => exact absurd ⟨key, hkey, hvalid, hget⟩ h
    | some text =>
      rw [verifyReserveProof_cached hkey hvalid hget]
      constructor
      · rfl
      · intro t ht
        rw [← ht] at hget
        rw [verifyReserveProof_cached hkey hvalid hget]

/-- A stored response answers every repetition. -/
theorem repeatedAnswers_cached {key text : String} (hkey : request.idempotencyKey = some key)
    (hvalid : validKey key = true)
    (hget : s.store.getIdempotent "verify-reserve" key request.fingerprint = .ok (some text))
    (n : ℕ) : ∀ answer ∈ repeatedAnswers codec request proof n s,
      answer = codec.cachedResponse text := by
  induction n with
  | zero =>
    intro answer hanswer
    cases hanswer
  | succ n ih =>
    rw [repeatedAnswers, verifyReserveProof_cached hkey hvalid hget, List.forall_mem_cons]
    exact ⟨rfl, ih⟩

/-- Requests that leave the store alone are all answered alike. -/
theorem repeatedAnswers_unstored (h : ¬ FirstUnderKey request s)
    (hhex : proof.verify 1000 ≠ none) (n : ℕ) (t : ServiceState) (ht : t.store = s.store) :
    ∀ answer ∈ repeatedAnswers codec request proof n t,
      answer = (verifyReserveProof codec request proof s).1 := by
  obtain ⟨hstore, hsame⟩ := verifyReserveProof_unstored codec h hhex
  have hfirst : ∀ t : ServiceState, t.store = s.store → ¬ FirstUnderKey request t := by
    intro t ht hfirst
    unfold FirstUnderKey at hfirst h
    rw [ht] at hfirst
    exact h hfirst
  induction n generalizing t with
  | zero =>
    intro answer hanswer
    cases hanswer
  | succ n ih =>
    rw [repeatedAnswers, List.forall_mem_cons]
    constructor
    · exact hsame t ht
    · apply ih
      exact ((verifyReserveProof_unstored codec (hfirst t ht) hhex).1).trans ht

end Steps

theorem sameOutcome_refl (a : Except HttpError VerifyReserveResponse) : SameOutcome a a :=
  ⟨rfl, rfl⟩

/-- Every repetition has the outcome of the first request exactly when the proof verifies,
or the first request is not the one that stores a response. -/
theorem repeatedAnswers_same_iff (request : Request) (proof : ZKPReserveProof) (s : ServiceState)
    (hhex : proof.verify 1000 ≠ none)
    (hread : ∀ valid, codec.ReadsBack (proof.response valid)) :
    (∀ n, ∀ answer ∈ repeatedAnswers codec request proof n s,
      SameOutcome answer (verifyReserveProof codec request proof s).1) ↔
    proof.verify 1000 = some true ∨ ¬ FirstUnderKey request s := by
  constructor
  · intro hsame
    by_contra hcondition
    rw [not_or, not_not] at hcondition
    obtain ⟨hinvalid, key, hkey, hvalid, hget⟩ := hcondition
    obtain ⟨valid, hverify⟩ := Option.ne_none_iff_exists'.mp hhex
    obtain rfl : valid = false := by
      cases valid with
      | false => rfl
      | true => exact absurd hverify hinvalid
    obtain ⟨s', hstep, hfound⟩ := verifyReserveProof_first codec s hkey hvalid hget hverify
    have hsecond : codec.cachedResponse (codec.dump (proof.response false)) ∈
        repeatedAnswers codec request proof 2 s := by
      simp [repeatedAnswers, hstep, verifyReserveProof_cached hkey hvalid hfound]
    have hclass := (hsame 2 _ hsecond).1
    rw [codec.cachedResponse_dump (hread false), hstep] at hclass
    simp [statusClass, proofRejected] at hclass
  · rintro (hverify | hnot)
    · by_cases hfirst : FirstUnderKey request s
      · obtain ⟨key, hkey, hvalid, hget⟩ := hfirst
        obtain ⟨s', hstep, hfound⟩ :=
          verifyReserveProof_first codec s hkey hvalid hget hverify
        intro n answer hanswer
        cases n with
        | zero => cases hanswer
        | succ n =>
          rw [repeatedAnswers, hstep, List.mem_cons] at hanswer
          rw [hstep]
          rcases hanswer with rfl | hanswer
          · exact sameOutcome_refl _
          · rw [repeatedAnswers_cached hkey hvalid hfound n answer hanswer,
              codec.cachedResponse_dump (hread true)]
            exact sameOutcome_refl _
      · intro n answer hanswer
        rw [repeatedAnswers_unstored hfirst hhex n s rfl answer hanswer]
        exact sameOutcome_refl _
    · intro n answer hanswer
      rw [repeatedAnswers_unstored hnot hhex n s rfl answer hanswer]
      exact sameOutcome_refl _

/-- A proof of a negative minimum. -/
def negativeProof : ZKPReserveProof where
  commitmentHashHex := "00"
  policyMinimum := -1
  proofHashHex := "00"

def keyedRequest : Request where
  idempotencyKey := some "k1"
  body := []

def reserveText (r : VerifyReserveResponse) : String := String.ofList r.toJson.dumps

def reserveCodec : ResponseCodec VerifyReserveResponse :=
  .table reserveText [negativeProof.response true, negativeProof.response false]

theorem reserveCodec_readsBack (valid : Bool) :
    reserveCodec.ReadsBack (negativeProof.response valid) := by
  have htexts : reserveText (negativeProof.response true) ≠
      reserveText (negativeProof.response false) := by
    simp only [reserveText, Ne, String.ofList_inj]
    decide
  have hread := ResponseCodec.table_pair_readsBack htexts
  cases valid with
  | false => exact hread.2
  | true => exact hread.1

theorem repeatedAnswers_same_iff_witness :
    (∀ n, ∀ answer ∈ repeatedAnswers reserveCodec keyedRequest negativeProof n ⟨.missing, []⟩,
      SameOutcome answer
        (verifyReserveProof reserveCodec keyedRequest negativeProof ⟨.missing, []⟩).1) ↔
    negativeProof.verify 1000 = some true ∨ ¬ FirstUnderKey keyedRequest ⟨.missing, []⟩ :=
  repeatedAnswers_same_iff reserveCodec keyedRequest negativeProof ⟨.missing, []⟩ (by decide)
    reserveCodec_readsBack

theorem repeatedAnswers_differ :
    ¬ ∀ (codec : ResponseCodec VerifyReserveResponse) (request : Request)
      (proof : ZKPReserveProof) (s : ServiceState), proof.verify 1000 ≠ none →
      (∀ valid, codec.ReadsBack (proof.response valid)) →
      ∀ n, ∀ answer ∈ repeatedAnswers codec request proof n s,
        SameOutcome answer (verifyReserveProof codec request proof s).1 := by
  intro h
  have hget : StateFile.missing.getIdempotent "verify-reserve" "k1" keyedRequest.fingerprint =
      .ok none := rfl
  obtain ⟨s', hstep, hfound⟩ := verifyReserveProof_first reserveCodec ⟨.missing, []⟩
    (show keyedRequest.idempotencyKey = some "k1" from rfl) (by decide) hget
    (show negativeProof.verify 1000 = some false from rfl)
  have hsecond : reserveCodec.cachedResponse (reserveCodec.dump (negativeProof.response false)) ∈
      repeatedAnswers reserveCodec keyedRequest negativeProof 2 ⟨.missing, []⟩ := by
    simp [repeatedAnswers, hstep, verifyReserveProof_cached rfl (by decide) hfound]
  have hclass := (h _ _ _ _ (by decide) reserveCodec_readsBack 2 _ hsecond).1
  rw [reserveCodec.cachedResponse_dump (reserveCodec_readsBack false), hstep] at hclass
  simp [statusClass, proofRejected] at hclass

end ContinuityOS.Service
