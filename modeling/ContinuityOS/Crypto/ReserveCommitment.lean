import ContinuityOS.Service.ReserveProof

/-! # Commitments to a reserve

The commitment is the seed hashed as often as the capacity, whatever the reserve. Whoever has
the seed can therefore prove every minimum up to the capacity.
-/
namespace ContinuityOS.Crypto
open Library Service

/-- A prover whose reserve is within its capacity. -/
structure ZKPProver where
  actualReserve : ℤ
  maxCapacity : ℤ
  secretSeed : List UInt8
  nonneg : 0 ≤ actualReserve
  le_capacity : actualReserve ≤ maxCapacity

def ZKPProver.new (actualReserve maxCapacity : ℤ) (seed : List UInt8) : Except String ZKPProver :=
  if h : actualReserve < 0 ∨ maxCapacity < actualReserve then
    .error ("Reserve " ++ toString actualReserve ++ " out of bounds (0-" ++ toString maxCapacity ++ ")")
  else
    .ok ⟨actualReserve, maxCapacity, seed, not_lt.mp (not_or.mp h).1, not_lt.mp (not_or.mp h).2⟩

namespace ZKPProver
variable (p : ZKPProver)

def commitmentBytes : List UInt8 := hashChain p.secretSeed p.maxCapacity.toNat

def commitmentHashHex : String := String.ofList (hexEncode p.commitmentBytes)

def proveMinimum (requiredMinimum : ℤ) : Except String ZKPReserveProof :=
  if p.actualReserve < requiredMinimum then
    .error "Cannot generate proof: actual reserve is below required minimum."
  else .ok
    { commitmentHashHex := p.commitmentHashHex
      policyMinimum := requiredMinimum
      proofHashHex := String.ofList
        (hexEncode (hashChain p.secretSeed (p.maxCapacity - requiredMinimum).toNat)) }

/-- A proof of any minimum made from the seed, past the check of the reserve. -/
def forgedProof (k : ℕ) (minimum : ℤ) : ZKPReserveProof where
  commitmentHashHex := p.commitmentHashHex
  policyMinimum := minimum
  proofHashHex := String.ofList (hexEncode (hashChain p.secretSeed k))

/-- No proof made from the seed passes for more than the reserve. -/
def Binding : Prop :=
  ∀ (k : ℕ) (minimum : ℤ), p.actualReserve < minimum →
    (p.forgedProof k minimum).verify p.maxCapacity ≠ some true

theorem hashChain_add (seed : List UInt8) (m n : ℕ) :
    hashChain (hashChain seed m) n = hashChain seed (m + n) := by
  induction m generalizing seed with
  | zero => rw [hashChain, Nat.zero_add]
  | succ m ih =>
    have hshift : m + 1 + n = m + n + 1 := by omega
    rw [hashChain, hshift, hashChain, ih]

theorem forgedProof_verify (k : ℕ) {minimum : ℤ} (hlow : 0 ≤ minimum)
    (hhigh : minimum ≤ p.maxCapacity) :
    (p.forgedProof k minimum).verify p.maxCapacity =
      some (decide (hashChain p.secretSeed (k + minimum.toNat) = p.commitmentBytes)) := by
  have hrange : ¬ (minimum < 0 ∨ p.maxCapacity < minimum) := by omega
  have hexact : hexEncode (hashChain p.secretSeed (k + minimum.toNat)) = hexEncode p.commitmentBytes ↔
      hashChain p.secretSeed (k + minimum.toNat) = p.commitmentBytes := by
    constructor
    · intro h
      have hdecoded := congrArg hexDecode h
      rw [hexDecode_hexEncode, hexDecode_hexEncode] at hdecoded
      exact Option.some.inj hdecoded
    · exact congrArg hexEncode
  rw [ZKPReserveProof.verify, forgedProof, if_neg hrange, commitmentHashHex]
  simp only [String.toList_ofList, hexDecode_hexEncode, Option.bind_eq_bind, Option.bind_some,
    Option.pure_def, hashChain_add, hexact]

/-- The seed proves every minimum up to the capacity. -/
theorem forgedProof_accepted {minimum : ℤ} (hlow : 0 ≤ minimum) (hhigh : minimum ≤ p.maxCapacity) :
    (p.forgedProof (p.maxCapacity - minimum).toNat minimum).verify p.maxCapacity = some true := by
  have hsum : (p.maxCapacity - minimum).toNat + minimum.toNat = p.maxCapacity.toNat := by omega
  rw [p.forgedProof_verify _ hlow hhigh, hsum]
  exact congrArg some (decide_eq_true rfl)

/-- The commitment binds exactly the provers that hold all they could. -/
theorem binding_iff : p.Binding ↔ p.actualReserve = p.maxCapacity := by
  constructor
  · intro hbinding
    by_contra hne
    have hlt : p.actualReserve < p.maxCapacity := lt_of_le_of_ne p.le_capacity hne
    have hcapacity : 0 ≤ p.maxCapacity := p.nonneg.trans p.le_capacity
    exact hbinding _ p.maxCapacity hlt (p.forgedProof_accepted hcapacity (le_refl _))
  · intro heq k minimum hlt haccepted
    have hrange : minimum < 0 ∨ p.maxCapacity < minimum := Or.inr (heq ▸ hlt)
    rw [ZKPReserveProof.verify, forgedProof, if_pos hrange] at haccepted
    cases haccepted

/-- An empty reserve with room for one day proves that day. -/
theorem not_binding : ¬ ∀ p : ZKPProver, p.Binding := by
  intro h
  have hforged : ((⟨0, 1, List.replicate 32 0, le_refl _, by decide⟩ : ZKPProver).forgedProof 0
      1).verify 1 = some true := forgedProof_accepted _ (by decide) (le_refl _)
  exact h _ 0 1 (by decide) hforged

section Restated

/-- A proof carries the hash of the seed that is left for its minimum. -/
theorem proveMinimum_eq {requiredMinimum : ℤ} (h : requiredMinimum ≤ p.actualReserve) :
    p.proveMinimum requiredMinimum =
      .ok (p.forgedProof (p.maxCapacity - requiredMinimum).toNat requiredMinimum) := by
  rw [proveMinimum, if_neg (not_lt.mpr h)]
  rfl

/-- Under another minimum the verifier's walk ends elsewhere on the chain. -/
theorem forgedProof_restated
    (hchain : Set.InjOn (hashChain p.secretSeed) {n | n ≤ 2 * p.maxCapacity.toNat})
    {minimum restated : ℤ} (hlow : 0 ≤ minimum) (hne : restated ≠ minimum)
    (hlow' : 0 ≤ restated) (hhigh' : restated ≤ p.maxCapacity) (hhigh : minimum ≤ p.maxCapacity) :
    (p.forgedProof (p.maxCapacity - minimum).toNat restated).verify p.maxCapacity =
      some false := by
  rw [p.forgedProof_verify _ hlow' hhigh', Option.some.injEq, decide_eq_false_iff_not]
  intro hsame
  have hwalk : (p.maxCapacity - minimum).toNat + restated.toNat ≤ 2 * p.maxCapacity.toNat := by
    omega
  have hend : p.maxCapacity.toNat ≤ 2 * p.maxCapacity.toNat := by omega
  have hlength := hchain hwalk hend hsame
  omega

/-- A proof is refused exactly above the reserve; an honest one verifies, and under no other
minimum of the range. -/
theorem proveMinimum_honest (p : ZKPProver)
    (hchain : Set.InjOn (hashChain p.secretSeed) {n | n ≤ 2 * p.maxCapacity.toNat}) (m : ℤ) :
    ((∃ e, p.proveMinimum m = .error e) ↔ p.actualReserve < m) ∧
      (0 ≤ m → m ≤ p.actualReserve → ∃ proof, p.proveMinimum m = .ok proof ∧
        proof.verify p.maxCapacity = some true ∧
        ∀ m', m' ≠ m → 0 ≤ m' → m' ≤ p.maxCapacity →
          { proof with policyMinimum := m' }.verify p.maxCapacity = some false) := by
  constructor
  · rcases lt_or_ge p.actualReserve m with hlt | hle
    · refine iff_of_true ?_ hlt
      rw [proveMinimum, if_pos hlt]
      exact ⟨_, rfl⟩
    · refine iff_of_false ?_ (not_lt.mpr hle)
      rintro ⟨e, herror⟩
      rw [p.proveMinimum_eq hle] at herror
      cases herror
  · intro hlow hreserve
    have hhigh := hreserve.trans p.le_capacity
    exact ⟨_, p.proveMinimum_eq hreserve, p.forgedProof_accepted hlow hhigh,
      fun m' hne hlow' hhigh' => p.forgedProof_restated hchain hlow hne hlow' hhigh' hhigh⟩

/-- Room for one day, and one day in reserve. -/
def oneDayProver : ZKPProver := ⟨1, 1, List.replicate 32 0, by decide, le_refl _⟩

theorem oneDayProver_chain :
    Set.InjOn (hashChain oneDayProver.secretSeed) {n | n ≤ 2 * oneDayProver.maxCapacity.toNat} := by
  have hnodup : ((List.range 3).map (hashChain oneDayProver.secretSeed)).Nodup := by
    decide +kernel
  intro i hi j hj hij
  refine List.inj_on_of_nodup_map hnodup (List.mem_range.mpr ?_) (List.mem_range.mpr ?_) hij
  · exact Nat.lt_succ_of_le hi
  · exact Nat.lt_succ_of_le hj

theorem proveMinimum_honest_oneDay :
    ∃ proof, oneDayProver.proveMinimum 1 = .ok proof ∧ proof.verify 1 = some true ∧
      { proof with policyMinimum := 0 }.verify 1 = some false := by
  obtain ⟨proof, hproof, hverify, hrestated⟩ :=
    (proveMinimum_honest oneDayProver oneDayProver_chain 1).2 (by decide) (le_refl 1)
  exact ⟨proof, hproof, hverify, hrestated 0 (by decide) (by decide) (by decide)⟩

end Restated

end ZKPProver

end ContinuityOS.Crypto
