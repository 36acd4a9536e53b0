import ContinuityOS.Crypto.MerkleCompleteness
import ContinuityOS.Service.Exchange

/-! # Inclusion proofs of ledger records

The command that proves a record included in the ledger. It asks for more records than a read of
the ledger allows, so it fails on every ledger; what it would do with the records that it reads is
correct for each of them.
-/
namespace ContinuityOS.Service
open Library Evidence Crypto

inductive ProofCommandError where
  | ledger (error : LedgerError)
  | ledgerIsEmpty
  | merkle (error : MerkleError)

/-- What the command writes. -/
structure ProofOutput where
  merkleRootHash : String
  recordIndex : ℤ
  leafHash : String
  inclusionProofValid : Bool
  auditPathDepth : ℕ

/-- The proof of one of the records that were read; an index after the last stands for the last. -/
def proofOutput (records : List EvidenceRecord) (index : ℤ) :
    Except ProofCommandError ProofOutput :=
  if records = [] then .error .ledgerIsEmpty
  else
    match MerkleTree.new (records.map EvidenceRecord.recordHash) with
    | .error e => .error (.merkle e)
    | .ok tree =>
      let idx := min index ((records.length : ℤ) - 1)
      match tree.generateInclusionProof idx with
      | .error e => .error (.merkle e)
      | .ok proof =>
        match tree.rootHash, proof.verify with
        | some rootHash, some verified => .ok
          { merkleRootHash := rootHash, recordIndex := idx, leafHash := proof.leafHash
            inclusionProofValid := verified, auditPathDepth := proof.auditPath.length }
        | _, _ => .error (.merkle .notHexadecimal)

section Command
variable {ed : Ed25519}

def commandMerkleProof (L : EvidenceLedger ed) (file : File) (index : ℤ) :
    Except ProofCommandError ProofOutput :=
  match L.records file 0 10000 with
  | .error e => .error (.ledger e)
  | .ok records => proofOutput records index

/-- The output proves the record at an index included in the tree of all records. -/
structure ProvesRecord (records : List EvidenceRecord) (index : ℕ) (out : ProofOutput) : Prop where
  root : rootOf (records.map EvidenceRecord.recordHash) = some out.merkleRootHash
  recordIndex : out.recordIndex = index
  leaf : records[index]?.map EvidenceRecord.recordHash = some out.leafHash
  valid : out.inclusionProofValid = true

/-- With the records at hand the proof of each of them succeeds. -/
theorem proofOutput_provesRecord {records : List EvidenceRecord}
    (hhex : ∀ r ∈ records, IsHex r.recordHash) {index : ℕ} (hindex : index < records.length) :
    ∃ out, proofOutput records index = .ok out ∧ ProvesRecord records index out := by
  have hne : records ≠ [] := List.ne_nil_of_length_pos (by omega)
  have hleaves : records.map EvidenceRecord.recordHash ≠ [] := mt List.map_eq_nil_iff.mp hne
  have hhash : (records.map EvidenceRecord.recordHash)[index]? =
      some (records[index].recordHash) := by
    rw [List.getElem?_map, List.getElem?_eq_getElem hindex, Option.map_some]
  obtain ⟨levels, path, root, hbuild, hpath, hroot, hclimb⟩ :=
    exists_climb (List.forall_mem_map.mpr hhex) hhash
  have htree : MerkleTree.new (records.map EvidenceRecord.recordHash) =
      .ok ⟨records.map EvidenceRecord.recordHash, levels⟩ := by
    rw [MerkleTree.new, if_neg hleaves, hbuild]
  have hmin : min (index : ℤ) ((records.length : ℤ) - 1) = index := by omega
  have hrange : 0 ≤ (index : ℤ) ∧
      (index : ℤ) < (records.map EvidenceRecord.recordHash).length := by
    rw [List.length_map]
    omega
  have hproof : MerkleTree.generateInclusionProof ⟨records.map EvidenceRecord.recordHash, levels⟩
      index = .ok ⟨index, records[index].recordHash, root, path⟩ := by
    rw [MerkleTree.generateInclusionProof, if_pos hrange, Int.toNat_natCast, hpath, hhash,
      MerkleTree.rootHash, hroot]
  have hverify : MerkleInclusionProof.verify ⟨index, records[index].recordHash, root, path⟩ =
      some true := by
    rw [MerkleInclusionProof.verify, hclimb]
    exact congrArg some (decide_eq_true rfl)
  refine ⟨⟨root, index, records[index].recordHash, true, path.length⟩, ?_, ?_, rfl, ?_, rfl⟩
  · simp only [proofOutput, if_neg hne, htree, hmin, hproof, hverify, MerkleTree.rootHash, hroot]
  · simp only [rootOf, htree, MerkleTree.rootHash, hroot]
  · rw [← List.getElem?_map, hhash]

/-- The read asks for ten times the largest number of records allowed. -/
theorem commandMerkleProof_raises (L : EvidenceLedger ed) (file : File) (index : ℤ) :
    commandMerkleProof L file index = .error (.ledger (.valueError
      "offset must be non-negative and limit must be between 1 and 1000")) := by
  have hargs : (0 : ℤ) < 0 ∨ (10000 : ℤ) < 1 ∨ (1000 : ℤ) < 10000 := by decide
  rw [commandMerkleProof, EvidenceLedger.records.eq_def, if_pos hargs]

/-- No record of any ledger is proved included. -/
theorem commandMerkleProof_never (L : EvidenceLedger ed) (file : File)
    (records : List EvidenceRecord) (index : ℕ) :
    ¬ ∃ out, commandMerkleProof L file index = .ok out ∧ ProvesRecord records index out := by
  rintro ⟨out, hout, -⟩
  rw [commandMerkleProof_raises] at hout
  cases hout

end Command

/-- A verified ledger of one record. -/
theorem commandMerkleProof_misses :
    ¬ ∀ (L : EvidenceLedger EvidenceLedger.sampleScheme) (file : File)
        (records : List EvidenceRecord) (index : ℕ),
      L.verify file = .ok [] → HoldsRecords L file records → index < records.length →
        ∃ out, commandMerkleProof L file index = .ok out ∧ ProvesRecord records index out := by
  intro h
  obtain ⟨hverified, hholds⟩ := plainSeries_holds 1
  have hlength : 0 < (plainRecords (seriesCalls 1)).length := by
    rw [plainRecords, EvidenceLedger.recordsFor_length, seriesCalls, List.length_map,
      List.length_range]
    exact one_pos
  obtain ⟨out, hout, -⟩ := h (plainLedger (plainRecords (seriesCalls 1))) (plainFile (seriesCalls 1))
    (plainRecords (seriesCalls 1)) 0 hverified hholds hlength
  rw [commandMerkleProof_raises] at hout
  cases hout

end ContinuityOS.Service
