import ContinuityOS.Evidence.RoundTrip

/-! # What signatures cover

A record without a signature, or with an empty one, is not checked against the configured key. The
signatures that are present have to be made with the matching private key over the record's hash,
so a file that passes is covered exactly as far as its records are signed.
-/
namespace ContinuityOS.Evidence.EvidenceLedger
open Library

variable {ed : Ed25519}

/-- The record carries a signature that the holder of the key has made over its hash. -/
def SignedUnder (key : ed.PublicKey) (r : EvidenceRecord) : Prop :=
  ∃ signature bytes message, r.signature = some signature ∧ signature ≠ "" ∧
    base64Decode signature.toList = some bytes ∧ hexDecode r.recordHash.toList = some message ∧
    ed.verify key bytes message = true ∧
    ∃ signer, ed.publicKey signer = key ∧ bytes = ed.sign signer message

/-- A file that passes under a configured public key is covered by signatures exactly when each
of its records carries one that is not empty. -/
theorem verify_signature_coverage_iff (hsound : ed.Sound) (L : EvidenceLedger ed)
    (key : ed.PublicKey) (hkey : L.publicKey = some key) (file : File)
    (hok : L.verify file = .ok []) :
    (∀ r ∈ L.fileRecords file, SignedUnder key r) ↔
      ∀ r ∈ L.fileRecords file, ∃ signature, r.signature = some signature ∧ signature ≠ "" := by
  obtain ⟨lines, -, -, -, haccepted⟩ := (L.verify_eq_nil_iff file).mp hok
  refine forall₂_congr fun r hr => ?_
  constructor
  · rintro ⟨signature, -, -, hsome, hne, -⟩
    exact ⟨signature, hsome, hne⟩
  · rintro ⟨signature, hsome, hne⟩
    obtain ⟨key', bytes, message, hkey', hbytes, hmessage, hverify⟩ :=
      haccepted r hr signature hsome hne
    obtain rfl : key = key' := Option.some.inj (hkey.symm.trans hkey')
    exact ⟨signature, bytes, message, hsome, hne, hbytes, hmessage, hverify,
      hsound key bytes message hverify⟩

section Sample

/-- The file of the two signed records. -/
def signedFile : File := some (sampleLedger.fileBytes [firstRecord, secondRecord])

theorem signedFile_getD : signedFile.getD [] = sampleLedger.fileBytes [firstRecord, secondRecord] :=
  Option.getD_some

theorem sampleRecords_separable :
    sampleLedger.Separable {r | r ∈ [firstRecord, secondRecord]} [firstRecord, secondRecord] := by
  intro r hr
  have hchars := sampleLedger.recordsFor_not_separator genesis_not_separator
    sampleCalls_not_separator
  rw [recordsFor_sampleCalls] at hchars
  exact ⟨hr, dump_not_separator sampleLedger_lawfulOn hr (hchars r hr)⟩

theorem sampleLedger_keysMatch : sampleLedger.KeysMatch := by
  apply init_keysMatch
  intro key _ shared hshared
  cases hshared

theorem sampleLedger_verify : sampleLedger.verify signedFile = .ok [] := by
  have hlinked := sampleLedger.linked_recordsFor genesis [firstCall, secondCall]
  have hsigned := sampleLedger.signatureAccepted_recordsFor sampleScheme_correct
    sampleLedger_keysMatch genesis [firstCall, secondCall]
  rw [recordsFor_sampleCalls] at hlinked hsigned
  exact verify_eq_nil_of_linked sampleLedger_lawfulOn sampleRecords_separable hlinked hsigned
    signedFile_getD

theorem fileRecords_signedFile :
    sampleLedger.fileRecords signedFile = [firstRecord, secondRecord] :=
  fileRecords_fileBytes sampleLedger_lawfulOn sampleRecords_separable signedFile_getD

theorem verify_signature_coverage_sample :
    sampleLedger.verify signedFile = .ok [] ∧
      ((∀ r ∈ sampleLedger.fileRecords signedFile, @SignedUnder sampleScheme () r) ↔
        ∀ r ∈ sampleLedger.fileRecords signedFile,
          ∃ signature, r.signature = some signature ∧ signature ≠ "") ∧
      ∀ r ∈ sampleLedger.fileRecords signedFile,
        ∃ signature, r.signature = some signature ∧ signature ≠ "" := by
  have hcovered := verify_signature_coverage_iff (tableScheme_sound _ _) sampleLedger () rfl
    signedFile sampleLedger_verify
  refine ⟨sampleLedger_verify, hcovered, ?_⟩
  rw [fileRecords_signedFile, List.forall_mem_cons, List.forall_mem_singleton]
  exact ⟨⟨_, rfl, by decide +kernel⟩, _, rfl, by decide +kernel⟩

end Sample

section Forged

/-- The first record rewritten without the key: another payload, the hash computed again
and the signature dropped. -/
def forgedRecord : EvidenceRecord where
  recordId := "r1"
  createdAt := "t1"
  recordType := "assessment"
  subjectId := "a-1"
  payload := [("risk", .int 9)]
  previousHash := genesis
  recordHash := "72b21a2548f08f004f802326da15046fee1eca95de03e3b4a69a40fccec1e324"
  signature := none
  signingKeyId := none

def auditLedger : EvidenceLedger sampleScheme := init (tableCodec [forgedRecord]) none (some ())

theorem auditLedger_lawfulOn : auditLedger.codec.LawfulOn {r | r ∈ [forgedRecord]} := by
  have htable : (tableCodec [forgedRecord]).LawfulOn {r | r ∈ [forgedRecord]} :=
    tableCodec_lawfulOn (by decide) (by decide)
  exact htable

theorem verify_forgedRecord_accepted :
    auditLedger.publicKey = some () ∧
      auditLedger.verify (some (auditLedger.fileBytes [forgedRecord])) = .ok [] ∧
      auditLedger.fileRecords (some (auditLedger.fileBytes [forgedRecord])) = [forgedRecord] ∧
      forgedRecord.signature = none := by
  have hsep : auditLedger.Separable {r | r ∈ [forgedRecord]} [forgedRecord] := by
    intro r hr
    have hprintable : ∀ s ∈ [forgedRecord], Json.printable s.chars = true := by decide +kernel
    have hchars := not_separator_of_printable (hprintable r hr)
    exact ⟨hr, dump_not_separator auditLedger_lawfulOn hr hchars⟩
  have hhash : forgedRecord.unsigned.hash = forgedRecord.recordHash := by
    rw [UnsignedRecord.hash, UnsignedRecord.canonical, UnsignedRecord.sortKeys_toJson,
      ← String.toList_inj]
    simp only [EvidenceRecord.unsigned, forgedRecord]
    simp only [Json.dumps, Json.dumpsMembers, Json.quote]
    rw [genesis_toList]
    repeat rw [String.toList_ofList]
    rw [encodeUtf8_ascii (List.all_iff_forall_prop.mp (by decide +kernel))]
    decide +kernel
  have hlinked : chain.Linked genesis [forgedRecord] := ⟨rfl, hhash, trivial⟩
  have hsigned : ∀ r ∈ [forgedRecord], auditLedger.SignatureAccepted r := by
    intro r hr signature hsome
    rw [List.mem_singleton.mp hr] at hsome
    cases hsome
  have hverify := verify_eq_nil_of_linked auditLedger_lawfulOn hsep hlinked hsigned
    (Option.getD_some (a := auditLedger.fileBytes [forgedRecord]) (b := []))
  exact ⟨rfl, hverify, fileRecords_fileBytes auditLedger_lawfulOn hsep Option.getD_some, rfl⟩

end Forged

end ContinuityOS.Evidence.EvidenceLedger
