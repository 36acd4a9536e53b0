import ContinuityOS.Evidence.RoundTrip

/-! # Exported records

A record is found by its identifier among the lines of the file, and the pages of the export,
written one record a line, add up to the bytes of the file.
-/
namespace ContinuityOS.Evidence
open Library

/-- One record a line, for staging. -/
def ndjsonBytes (codec : RecordCodec) (records : List EvidenceRecord) : List UInt8 :=
  (records.map fun record => encodeUtf8 (codec.dumpJson record).toList ++ [10]).flatten

namespace EvidenceLedger
variable {ed : Ed25519} {L : EvidenceLedger ed} {R : Set EvidenceRecord}

/-- Lines that are no records are passed over. -/
def getRecord (L : EvidenceLedger ed) (file : File) (recordId : String) :
    Except LedgerError (Option EvidenceRecord) := do
  let lines ← fileLines file
  return (lines.filterMap L.parseLine).find? fun record => record.recordId = recordId

theorem ndjsonBytes_eq_fileBytes (records : List EvidenceRecord) :
    ndjsonBytes L.codec records = L.fileBytes records := by
  rw [ndjsonBytes, fileBytes, List.flatMap_def]
  rfl

theorem getRecord_fileBytes (hlaw : L.codec.LawfulOn R) {rs : List EvidenceRecord}
    (hrs : L.Separable R rs) {file : File} (hfile : file.getD [] = L.fileBytes rs)
    (recordId : String) :
    L.getRecord file recordId = .ok (rs.find? fun record => record.recordId = recordId) := by
  rw [getRecord, fileLines_fileBytes hlaw hrs hfile]
  exact congrArg Except.ok (congrArg (List.find? _)
    (filterMap_parseLine_dumpLines hlaw fun r hr => (hrs r hr).1))

/-- The lines of the pages are the bytes of the file. -/
theorem flatMap_ndjsonBytes (L : EvidenceLedger ed) (rs : List EvidenceRecord) {limit n : ℕ}
    (hn : rs.length ≤ n * limit) :
    (List.range n).flatMap (fun k => ndjsonBytes L.codec ((rs.drop (k * limit)).take limit)) =
      L.fileBytes rs := by
  have hpages := flatMap_pages rs limit n
  rw [List.take_of_length_le hn] at hpages
  calc (List.range n).flatMap (fun k => ndjsonBytes L.codec ((rs.drop (k * limit)).take limit))
      = (List.range n).flatMap (fun k => L.fileBytes ((rs.drop (k * limit)).take limit)) := by
        simp only [ndjsonBytes_eq_fileBytes]
    _ = L.fileBytes ((List.range n).flatMap fun k => (rs.drop (k * limit)).take limit) := by
        rw [fileBytes, List.flatMap_assoc]
        rfl
    _ = L.fileBytes rs := by rw [hpages]

end EvidenceLedger

section Export
open EvidenceLedger

/-- After any appends to an empty ledger without unescaped separators, while last lines fit: a
record is found by its identifier, and the export pages of any size, written one record a line,
add up to the bytes of the file. -/
theorem appendAll_exports (ed : Ed25519) (codec : RecordCodec)
    (privateKey : Option ed.PrivateKey) (publicKey : Option ed.PublicKey)
    (file : File) (hempty : file.getD [] = []) (calls : List AppendCall)
    (hlaw : codec.LawfulOn {r | r ∈ (init codec privateKey publicKey).recordsFor genesis calls})
    (hcalls : ∀ call ∈ calls, ∀ c ∈ call.chars, c ∉ separators)
    (hfit : (init codec privateKey publicKey).LastLinesFit file calls) :
    ∃ records next, (init codec privateKey publicKey).appendAll file calls = .ok (records, next) ∧
      records.map EvidenceRecord.recordId = calls.map AppendCall.recordId ∧
      (∀ recordId, (init codec privateKey publicKey).getRecord next recordId =
        .ok (records.find? fun record => record.recordId = recordId)) ∧
      ∀ limit : ℕ, 1 ≤ limit → limit ≤ 1000 → ∃ page : ℕ → List EvidenceRecord,
        (∀ k : ℕ, (init codec privateKey publicKey).records next (k * limit : ℕ) limit =
          .ok (page k)) ∧
        ∀ n, records.length ≤ n * limit →
          (List.range n).flatMap (fun k => ndjsonBytes codec (page k)) = next.getD [] := by
  generalize hL : init codec privateKey publicKey = L at *
  have hcodec : L.codec = codec := by rw [← hL]; rfl
  rw [← hcodec] at hlaw ⊢
  have hfile : file.getD [] = L.fileBytes [] := hempty
  obtain ⟨next, hrun, hbytes⟩ :=
    appendAll_fileBytes hlaw (List.forall_mem_nil _) hfile (fun r hr => hr) hfit
  rw [List.nil_append] at hbytes
  have hsep : L.Separable {r | r ∈ L.recordsFor genesis calls} (L.recordsFor genesis calls) := by
    intro r hr
    have hchars := L.recordsFor_not_separator genesis_not_separator hcalls r hr
    exact ⟨hr, dump_not_separator hlaw hr hchars⟩
  refine ⟨L.recordsFor genesis calls, next, hrun, L.recordsFor_map (fun _ _ => rfl) _ _, ?_, ?_⟩
  · exact getRecord_fileBytes hlaw hsep hbytes
  · intro limit hpos hlimit
    refine ⟨fun k => ((L.recordsFor genesis calls).drop (k * limit)).take limit, ?_, ?_⟩
    · intro k
      exact records_fileBytes hlaw hsep hbytes (k * limit) limit hpos hlimit
    · intro n hn
      rw [hbytes]
      exact L.flatMap_ndjsonBytes _ hn

theorem appendAll_exports_sample :
    ∃ records next, sampleLedger.appendAll none [firstCall, secondCall] = .ok (records, next) ∧
      records.map EvidenceRecord.recordId = ["r1", "r2"] ∧
      (∀ recordId, sampleLedger.getRecord next recordId =
        .ok (records.find? fun record => record.recordId = recordId)) ∧
      ∀ limit : ℕ, 1 ≤ limit → limit ≤ 1000 → ∃ page : ℕ → List EvidenceRecord,
        (∀ k : ℕ, sampleLedger.records next (k * limit : ℕ) limit = .ok (page k)) ∧
        ∀ n, records.length ≤ n * limit →
          (List.range n).flatMap (fun k => ndjsonBytes sampleCodec (page k)) = next.getD [] := by
  have hlaw : sampleCodec.LawfulOn
      {r | r ∈ sampleLedger.recordsFor genesis [firstCall, secondCall]} := by
    rw [recordsFor_sampleCalls]
    exact sampleCodec_lawfulOn
  exact appendAll_exports sampleScheme sampleCodec (some ()) none none rfl [firstCall, secondCall]
    hlaw sampleCalls_not_separator sampleLedger_lastLinesFit

end Export

end ContinuityOS.Evidence
