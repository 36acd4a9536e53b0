import ContinuityOS.Evidence.Lines

/-! # What verification checks

The reported errors are read as statements about the records found in the file: no error
at all means that every line is a record, that the records are a linked chain and that
every signature that is present is accepted. Links and hashes are checked over the lines
that are records, whatever is reported for the others.
-/
namespace ContinuityOS.Evidence
open Library

/-- Reports of a broken link or of a hash that does not match its record. -/
def VerifyError.isChainError : VerifyError → Bool
  | .previousHashMismatch _ => true
  | .recordHashMismatch _ => true
  | _ => false

namespace EvidenceLedger
variable {ed : Ed25519} (L : EvidenceLedger ed)

def parseLine (text : List Char) : Option EvidenceRecord :=
  (L.codec.validateJson (String.ofList text)).toOption

def fileLines (file : File) : Except LedgerError (List (List Char)) :=
  match file with
  | none => .ok []
  | some bytes => (readText bytes).map splitlines

/-- The records verification finds in a file. -/
def fileRecords (file : File) : List EvidenceRecord :=
  match fileLines file with
  | .error _ => []
  | .ok lines => lines.filterMap L.parseLine

theorem verify_eq_map (file : File) :
    L.verify file = (fileLines file).map (L.verifyLines 1 genesis) := by
  cases file with
  | none => rfl
  | some bytes =>
    rw [verify, fileLines]
    cases readText bytes with
    | error e => rfl
    | ok text => rfl

theorem verifyLines_cons (line : ℕ) (previous : String) (text : List Char)
    (lines : List (List Char)) :
    (∃ message, L.parseLine text = none ∧ L.verifyLines line previous (text :: lines)
        = .invalidRecord line message :: L.verifyLines (line + 1) previous lines) ∨
      ∃ record, L.parseLine text = some record ∧ L.verifyLines line previous (text :: lines)
        = L.recordErrors line previous record
          ++ L.verifyLines (line + 1) record.recordHash lines := by
  rw [verifyLines, parseLine]
  cases L.codec.validateJson (String.ofList text) with
  | error message => exact Or.inl ⟨message, rfl, rfl⟩
  | ok record => exact Or.inr ⟨record, rfl, rfl⟩

section Signature

/-- A signature that is present verifies under the configured key over the bytes of the
record's hash. -/
def SignatureAccepted (r : EvidenceRecord) : Prop :=
  ∀ signature, r.signature = some signature → signature ≠ "" →
    ∃ key bytes message, L.publicKey = some key ∧ base64Decode signature.toList = some bytes ∧
      hexDecode r.recordHash.toList = some message ∧ ed.verify key bytes message = true

theorem signatureErrors_eq_nil_iff (line : ℕ) (r : EvidenceRecord) :
    L.signatureErrors line r = [] ↔ L.SignatureAccepted r := by
  rw [signatureErrors, SignatureAccepted]
  cases hs : r.signature with
  | none => simp
  | some signature =>
    by_cases hempty : signature = ""
    · simp [hempty]
    · cases hk : L.publicKey with
      | none => simp [hempty]
      | some key =>
        cases hb : base64Decode signature.toList with
        | none => simp [hempty, hb]
        | some bytes =>
          cases hm : hexDecode r.recordHash.toList with
          | none => simp [hempty]
          | some message => simp [hempty, hb]

theorem isChainError_signatureErrors (line : ℕ) (r : EvidenceRecord) :
    ∀ e ∈ L.signatureErrors line r, e.isChainError = false := by
  intro e he
  rw [signatureErrors] at he
  repeat' split at he
  all_goals simp at he
  all_goals
    rw [he]
    rfl

end Signature

section Chain

theorem recordErrors_eq_nil_iff (line : ℕ) (previous : String) (r : EvidenceRecord) :
    L.recordErrors line previous r = [] ↔
      r.previousHash = previous ∧ r.unsigned.hash = r.recordHash ∧ L.SignatureAccepted r := by
  rw [recordErrors, List.append_eq_nil_iff, List.append_eq_nil_iff, signatureErrors_eq_nil_iff,
    and_assoc]
  simp

theorem recordErrors_chain_iff (line : ℕ) (previous : String) (r : EvidenceRecord) :
    (∀ e ∈ L.recordErrors line previous r, e.isChainError = false) ↔
      r.previousHash = previous ∧ r.unsigned.hash = r.recordHash := by
  have hprevious : (∀ e ∈ (if r.previousHash ≠ previous then
      [VerifyError.previousHashMismatch line] else []), e.isChainError = false) ↔
        r.previousHash = previous := by
    split_ifs with h <;> simp_all [VerifyError.isChainError]
  have hhash : (∀ e ∈ (if r.unsigned.hash ≠ r.recordHash then
      [VerifyError.recordHashMismatch line] else []), e.isChainError = false) ↔
        r.unsigned.hash = r.recordHash := by
    split_ifs with h <;> simp_all [VerifyError.isChainError]
  rw [recordErrors, List.forall_mem_append, List.forall_mem_append, hprevious, hhash]
  exact and_iff_left (L.isChainError_signatureErrors line r)

/-- Nothing is reported exactly for lines of records in a linked chain with accepted
signatures. -/
theorem verifyLines_eq_nil_iff (line : ℕ) (previous : String) (lines : List (List Char)) :
    L.verifyLines line previous lines = [] ↔
      (∀ text ∈ lines, (L.parseLine text).isSome) ∧
        chain.Linked previous (lines.filterMap L.parseLine) ∧
        ∀ r ∈ lines.filterMap L.parseLine, L.SignatureAccepted r := by
  induction lines generalizing line previous with
  | nil => simp [verifyLines, HashChain.Linked]
  | cons text lines ih =>
    obtain ⟨message, hp, hv⟩ | ⟨record, hp, hv⟩ := L.verifyLines_cons line previous text lines
    · rw [hv]
      simp [hp]
    · rw [hv, List.append_eq_nil_iff, recordErrors_eq_nil_iff, ih, List.filterMap_cons_some hp,
        List.forall_mem_cons, List.forall_mem_cons, hp]
      simp only [Option.isSome_some, true_and, HashChain.Linked]
      constructor
      · rintro ⟨⟨hprev, hhash, hsig⟩, hall, hlinked, haccepted⟩
        exact ⟨hall, ⟨hprev, hhash, hlinked⟩, hsig, haccepted⟩
      · rintro ⟨hall, ⟨hprev, hhash, hlinked⟩, hsig, haccepted⟩
        exact ⟨⟨hprev, hhash, hsig⟩, hall, hlinked, haccepted⟩

/-- No link or hash is reported exactly when the lines that are records form a chain. -/
theorem verifyLines_chain_iff (line : ℕ) (previous : String) (lines : List (List Char)) :
    (∀ e ∈ L.verifyLines line previous lines, e.isChainError = false) ↔
      chain.Linked previous (lines.filterMap L.parseLine) := by
  induction lines generalizing line previous with
  | nil => simp [verifyLines, HashChain.Linked]
  | cons text lines ih =>
    obtain ⟨message, hp, hv⟩ | ⟨record, hp, hv⟩ := L.verifyLines_cons line previous text lines
    · rw [hv, List.forall_mem_cons, ih, List.filterMap_cons_none hp]
      simp [VerifyError.isChainError]
    · rw [hv, List.forall_mem_append, recordErrors_chain_iff, ih, List.filterMap_cons_some hp,
        and_assoc]
      rfl

end Chain

/-- A file passes verification exactly when it can be read, every line is a record, the
records are a linked chain from the first hash, and every signature present is accepted. -/
theorem verify_eq_nil_iff (file : File) :
    L.verify file = .ok [] ↔
      ∃ lines, fileLines file = .ok lines ∧ (∀ text ∈ lines, (L.parseLine text).isSome) ∧
        chain.Linked genesis (L.fileRecords file) ∧
        ∀ r ∈ L.fileRecords file, L.SignatureAccepted r := by
  rw [verify_eq_map, fileRecords]
  cases fileLines file with
  | error e => simp [Except.map]
  | ok lines => simp [Except.map, verifyLines_eq_nil_iff]

/-- Verification can read the file and reports no broken link and no wrong hash. -/
def ChainAccepted (file : File) : Prop :=
  ∃ errors, L.verify file = .ok errors ∧ ∀ e ∈ errors, e.isChainError = false

theorem chainAccepted_iff (file : File) :
    L.ChainAccepted file ↔
      (∃ lines, fileLines file = .ok lines) ∧ chain.Linked genesis (L.fileRecords file) := by
  rw [ChainAccepted, verify_eq_map, fileRecords]
  cases fileLines file with
  | error e => simp [Except.map]
  | ok lines => simp [Except.map, verifyLines_chain_iff]

end EvidenceLedger

end ContinuityOS.Evidence
