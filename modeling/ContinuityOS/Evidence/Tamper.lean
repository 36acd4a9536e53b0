import ContinuityOS.Evidence.Signatures

/-! # Tampering with the chain

Where the hashes of the records at hand do not collide, the number of records and the last
hash of a file that passes the chain checks determine the hashed fields of every record.
Lines that are no records are reported and skipped, so they play no part in this.
-/
namespace ContinuityOS.Evidence
open Library

/-- Agreement on the hashed fields and the hash, with payloads compared as dictionaries. -/
structure EvidenceRecord.SameFields (r s : EvidenceRecord) : Prop where
  recordId : r.recordId = s.recordId
  createdAt : r.createdAt = s.createdAt
  recordType : r.recordType = s.recordType
  subjectId : r.subjectId = s.subjectId
  payload : Json.sortKeys (.object r.payload) = Json.sortKeys (.object s.payload)
  previousHash : r.previousHash = s.previousHash
  recordHash : r.recordHash = s.recordHash

theorem sameFields_of_content {r s : EvidenceRecord} (hcontent : chain.content r = chain.content s)
    (hstored : chain.stored r = chain.stored s) : r.SameFields s where
  recordId := congrArg UnsignedRecord.recordId hcontent
  createdAt := congrArg UnsignedRecord.createdAt hcontent
  recordType := congrArg UnsignedRecord.recordType hcontent
  subjectId := congrArg UnsignedRecord.subjectId hcontent
  payload := by
    rw [Json.sortKeys, Json.sortKeys]
    exact congrArg (fun u => Json.object (UnsignedRecord.payload u)) hcontent
  previousHash := congrArg UnsignedRecord.previousHash hcontent
  recordHash := hstored

theorem forall₂_sameFields {rs ss : List EvidenceRecord}
    (hcontent : rs.map chain.content = ss.map chain.content)
    (hstored : rs.map chain.stored = ss.map chain.stored) :
    List.Forall₂ EvidenceRecord.SameFields rs ss := by
  induction rs generalizing ss with
  | nil =>
    cases ss with
    | nil => exact .nil
    | cons s ss => simp at hcontent
  | cons r rs ih =>
    cases ss with
    | nil => simp at hcontent
    | cons s ss =>
      rw [List.map_cons, List.map_cons, List.cons.injEq] at hcontent hstored
      exact .cons (sameFields_of_content hcontent.1 hstored.1) (ih hcontent.2 hstored.2)

namespace EvidenceLedger
variable {ed : Ed25519} (L : EvidenceLedger ed)

/-- The hash stored in the last record of a file. -/
def headHash (file : File) : Option String :=
  (L.fileRecords file).getLast?.map EvidenceRecord.recordHash

variable {L} {A B : File}

theorem head_eq_of_headHash (hhead : L.headHash A = L.headHash B) :
    chain.head genesis (L.fileRecords A) = chain.head genesis (L.fileRecords B) := by
  rw [HashChain.head_eq_getLast?, HashChain.head_eq_getLast?]
  exact congrArg (fun h => Option.getD h genesis) hhead

/-- A file that verification reads but whose chain is not accepted has an error reported. -/
theorem exists_chainError (hB : ¬ L.ChainAccepted B) {errors : List VerifyError}
    (hverify : L.verify B = .ok errors) : ∃ e ∈ errors, e.isChainError = true := by
  by_contra hnone
  apply hB
  refine ⟨errors, hverify, ?_⟩
  intro e he
  by_contra herr
  exact hnone ⟨e, he, by simpa using herr⟩

theorem linked_of_chainAccepted (hA : L.ChainAccepted A) :
    chain.Linked genesis (L.fileRecords A) := ((L.chainAccepted_iff A).mp hA).2

theorem sameFields_of_chainAccepted (hA : L.ChainAccepted A) (hB : L.ChainAccepted B)
    (hcf : chain.CollisionFree (L.fileRecords A) (L.fileRecords B))
    (hlen : (L.fileRecords A).length = (L.fileRecords B).length)
    (hhead : L.headHash A = L.headHash B) :
    List.Forall₂ EvidenceRecord.SameFields (L.fileRecords A) (L.fileRecords B) := by
  have hagree := HashChain.agree_of_head_eq (linked_of_chainAccepted hA)
    (linked_of_chainAccepted hB) hcf hlen (head_eq_of_headHash hhead)
  exact forall₂_sameFields hagree.1 hagree.2.1

/-- Accepted chains with the same last hash that differ in length store the hash a chain
starts from. -/
theorem genesis_stored_of_chainAccepted (hA : L.ChainAccepted A) (hB : L.ChainAccepted B)
    (hcf : chain.CollisionFree (L.fileRecords A) (L.fileRecords B))
    (hlen : (L.fileRecords A).length ≠ (L.fileRecords B).length)
    (hhead : L.headHash A = L.headHash B) :
    ∃ r ∈ L.fileRecords A ++ L.fileRecords B, r.recordHash = genesis := by
  have hchains := head_eq_of_headHash hhead
  cases lt_or_gt_of_ne hlen with
  | inl hlt =>
    obtain ⟨r, hr, hstored⟩ := HashChain.start_stored_of_length_lt (linked_of_chainAccepted hA)
      (linked_of_chainAccepted hB) hcf hlt hchains
    exact ⟨r, List.mem_append_right _ hr, hstored⟩
  | inr hgt =>
    obtain ⟨r, hr, hstored⟩ := HashChain.start_stored_of_length_lt (linked_of_chainAccepted hB)
      (linked_of_chainAccepted hA) hcf.symm hgt hchains.symm
    exact ⟨r, List.mem_append_left _ hr, hstored⟩

/-- Against a file whose chain is accepted, a second file with the same last hash either
agrees with it record by record on the hashed fields or has a chain error reported: for
files with as many records always, and for files with fewer or more records unless some
record stores the hash that chains start from. -/
theorem verify_tamper_evident (L : EvidenceLedger ed) (A B : File)
    (hcf : chain.CollisionFree (L.fileRecords A) (L.fileRecords B)) (hA : L.ChainAccepted A)
    (hhead : L.headHash A = L.headHash B) :
    ((L.fileRecords A).length = (L.fileRecords B).length → L.ChainAccepted B →
        List.Forall₂ EvidenceRecord.SameFields (L.fileRecords A) (L.fileRecords B)) ∧
      (¬ List.Forall₂ EvidenceRecord.SameFields (L.fileRecords A) (L.fileRecords B) →
        ((L.fileRecords A).length = (L.fileRecords B).length ∨
          ∀ r ∈ L.fileRecords A ++ L.fileRecords B, r.recordHash ≠ genesis) →
        ∀ errors, L.verify B = .ok errors → ∃ e ∈ errors, e.isChainError = true) := by
  constructor
  · intro hlen hB
    exact sameFields_of_chainAccepted hA hB hcf hlen hhead
  · intro hdiffer hcases errors hverify
    apply exists_chainError _ hverify
    intro hB
    by_cases hlen : (L.fileRecords A).length = (L.fileRecords B).length
    · exact hdiffer (sameFields_of_chainAccepted hA hB hcf hlen hhead)
    · obtain ⟨r, hr, hgenesis⟩ := genesis_stored_of_chainAccepted hA hB hcf hlen hhead
      cases hcases with
      | inl heq => exact hlen heq
      | inr hne => exact hne r hr hgenesis

section Sample

theorem sampleRecords_linked : chain.Linked genesis [firstRecord, secondRecord] := by
  rw [← recordsFor_sampleCalls]
  exact sampleLedger.linked_recordsFor genesis [firstCall, secondCall]

theorem sampleRecords_collisionFree :
    chain.CollisionFree [firstRecord, secondRecord] [firstRecord, secondRecord] := by
  have hfirst : chain.digest firstRecord = firstRecord.recordHash := sampleRecords_linked.2.1
  have hsecond : chain.digest secondRecord = secondRecord.recordHash :=
    sampleRecords_linked.2.2.2.1
  have hne : firstRecord.recordHash ≠ secondRecord.recordHash := by decide +kernel
  intro r hr s hs hdigest
  simp only [List.mem_cons, List.not_mem_nil, or_false] at hr hs
  rcases hr with rfl | rfl <;> rcases hs with rfl | rfl
  · rfl
  · rw [hfirst, hsecond] at hdigest
    exact absurd hdigest hne
  · rw [hfirst, hsecond] at hdigest
    exact absurd hdigest.symm hne
  · rfl

/-- The two records after an empty line, which is reported without touching the chain. -/
def spacedFile : File := some (10 :: sampleLedger.fileBytes [firstRecord, secondRecord])

theorem fileLines_spacedFile :
    fileLines spacedFile = .ok ([] :: sampleLedger.dumpLines [firstRecord, secondRecord]) := by
  have hjoin : joinLines ([] :: sampleLedger.dumpLines [firstRecord, secondRecord])
      = ['\n'] ++ joinLines (sampleLedger.dumpLines [firstRecord, secondRecord]) := by
    simp [joinLines]
  have hbytes : 10 :: sampleLedger.fileBytes [firstRecord, secondRecord]
      = encodeUtf8 (joinLines ([] :: sampleLedger.dumpLines [firstRecord, secondRecord])) := by
    rw [hjoin, encodeUtf8_append, encodeUtf8_newline, fileBytes_eq_encodeUtf8,
      List.singleton_append]
  have hlines : ∀ line ∈ [] :: sampleLedger.dumpLines [firstRecord, secondRecord],
      ∀ c ∈ line, c ∉ lineBoundaries := by
    rw [List.forall_mem_cons]
    exact ⟨List.forall_mem_nil _,
      dumpLines_not_boundary sampleLedger_lawfulOn sampleRecords_separable⟩
  rw [spacedFile, fileLines, hbytes, readText_joinLines hlines]
  simp only [Except.map, splitlines_joinLines hlines]

theorem fileRecords_spacedFile :
    sampleLedger.fileRecords spacedFile = [firstRecord, secondRecord] := by
  have hempty : sampleLedger.parseLine [] = none := by
    have herror := tableCodec_validate_nil [firstRecord, secondRecord]
    have hcodec : sampleLedger.codec = tableCodec [firstRecord, secondRecord] := rfl
    rw [parseLine, hcodec, herror]
    rfl
  rw [fileRecords, fileLines_spacedFile]
  simp only
  rw [List.filterMap_cons_none hempty]
  exact filterMap_parseLine_dumpLines sampleLedger_lawfulOn fun r hr => hr

theorem verify_tamper_evident_sample :
    sampleLedger.ChainAccepted spacedFile ∧
      List.Forall₂ EvidenceRecord.SameFields (sampleLedger.fileRecords signedFile)
        (sampleLedger.fileRecords spacedFile) := by
  have hcf : chain.CollisionFree (sampleLedger.fileRecords signedFile)
      (sampleLedger.fileRecords spacedFile) := by
    rw [fileRecords_signedFile, fileRecords_spacedFile]
    exact sampleRecords_collisionFree
  have hA : sampleLedger.ChainAccepted signedFile :=
    ⟨[], sampleLedger_verify, List.forall_mem_nil _⟩
  have hB : sampleLedger.ChainAccepted spacedFile := by
    rw [chainAccepted_iff, fileRecords_spacedFile]
    exact ⟨⟨_, fileLines_spacedFile⟩, sampleRecords_linked⟩
  have hhead : sampleLedger.headHash signedFile = sampleLedger.headHash spacedFile := by
    rw [headHash, headHash, fileRecords_signedFile, fileRecords_spacedFile]
  have hlen : (sampleLedger.fileRecords signedFile).length
      = (sampleLedger.fileRecords spacedFile).length := by
    rw [fileRecords_signedFile, fileRecords_spacedFile]
  exact ⟨hB, (verify_tamper_evident sampleLedger _ spacedFile hcf hA hhead).1 hlen hB⟩

end Sample

end EvidenceLedger

end ContinuityOS.Evidence
