import ContinuityOS.Evidence.Append
import ContinuityOS.Library.Paging

/-! # Appended records come back

A run of appends from an empty ledger returns the records that verification then accepts
and that the pages of the export list in order. Two things can go wrong on the way: the
scan for the last hash reads one chunk of a longer line, and a separator inside a string
ends a line for the readers that split text.
-/
namespace ContinuityOS.Evidence
open Library

namespace EvidenceLedger
variable {ed : Ed25519} {L : EvidenceLedger ed} {R : Set EvidenceRecord}

theorem filterMap_parseLine_dumpLines (hlaw : L.codec.LawfulOn R) {rs : List EvidenceRecord}
    (hrs : ∀ r ∈ rs, r ∈ R) : (L.dumpLines rs).filterMap L.parseLine = rs := by
  induction rs with
  | nil => rfl
  | cons r rs ih =>
    rw [List.forall_mem_cons] at hrs
    have hparse : L.parseLine (L.codec.dumpJson r).toList = some r := by
      rw [parseLine, String.ofList_toList, hlaw.validate_dump r hrs.1]
      rfl
    have hcons : L.dumpLines (r :: rs) = (L.codec.dumpJson r).toList :: L.dumpLines rs := rfl
    rw [hcons, List.filterMap_cons_some hparse, ih hrs.2]

theorem parseLine_dumpLines_isSome (hlaw : L.codec.LawfulOn R) {rs : List EvidenceRecord}
    (hrs : ∀ r ∈ rs, r ∈ R) : ∀ text ∈ L.dumpLines rs, (L.parseLine text).isSome := by
  intro text htext
  obtain ⟨r, hr, heq⟩ := List.mem_map.mp htext
  rw [← heq, parseLine, String.ofList_toList, hlaw.validate_dump r (hrs r hr)]
  rfl

theorem fileLines_fileBytes (hlaw : L.codec.LawfulOn R) {rs : List EvidenceRecord}
    (hrs : L.Separable R rs) {file : File} (hfile : file.getD [] = L.fileBytes rs) :
    fileLines file = .ok (L.dumpLines rs) := by
  cases file with
  | none =>
    cases rs with
    | nil => rfl
    | cons r rs => simp [fileBytes, lineOf] at hfile
  | some bytes =>
    have hbytes : bytes = L.fileBytes rs := hfile
    rw [fileLines, hbytes]
    simp only [readText_fileBytes hlaw hrs, Except.map, splitlines_fileLines hlaw hrs]

theorem fileRecords_fileBytes (hlaw : L.codec.LawfulOn R) {rs : List EvidenceRecord}
    (hrs : L.Separable R rs) {file : File} (hfile : file.getD [] = L.fileBytes rs) :
    L.fileRecords file = rs := by
  rw [fileRecords, fileLines_fileBytes hlaw hrs hfile]
  exact filterMap_parseLine_dumpLines hlaw fun r hr => (hrs r hr).1

/-- A file that holds a linked chain of separable records with accepted signatures is
accepted. -/
theorem verify_eq_nil_of_linked (hlaw : L.codec.LawfulOn R) {rs : List EvidenceRecord}
    (hrs : L.Separable R rs) (hlinked : chain.Linked genesis rs)
    (hsigned : ∀ r ∈ rs, L.SignatureAccepted r) {file : File}
    (hfile : file.getD [] = L.fileBytes rs) : L.verify file = .ok [] := by
  have hmem : ∀ r ∈ rs, r ∈ R := fun r hr => (hrs r hr).1
  rw [verify_eq_map, fileLines_fileBytes hlaw hrs hfile]
  refine congrArg Except.ok ?_
  rw [verifyLines_eq_nil_iff, filterMap_parseLine_dumpLines hlaw hmem]
  exact ⟨parseLine_dumpLines_isSome hlaw hmem, hlinked, hsigned⟩

/-- From an empty ledger, calls without unescaped separators whose last lines fit before
every append all succeed; the ledger then verifies, and for every page size the pages of
the export add up to the returned records. -/
theorem appendAll_roundTrip (ed : Ed25519) (hed : ed.Correct) (codec : RecordCodec)
    (privateKey : Option ed.PrivateKey) (publicKey : Option ed.PublicKey)
    (hkeys : ∀ key, privateKey = some key → ∀ shared, publicKey = some shared →
      shared = ed.publicKey key)
    (file : File) (hempty : file.getD [] = []) (calls : List AppendCall)
    (hlaw : codec.LawfulOn
      {r | r ∈ (init codec privateKey publicKey).recordsFor genesis calls})
    (hcalls : ∀ call ∈ calls, ∀ c ∈ call.chars, c ∉ separators)
    (hfit : (init codec privateKey publicKey).LastLinesFit file calls) :
    ∃ records next, (init codec privateKey publicKey).appendAll file calls = .ok (records, next) ∧
      records.length = calls.length ∧
      (init codec privateKey publicKey).verify next = .ok [] ∧
      ∀ limit : ℕ, 1 ≤ limit → limit ≤ 1000 →
        ∃ page : ℕ → List EvidenceRecord,
          (∀ k : ℕ, (init codec privateKey publicKey).records next (k * limit : ℕ) limit
            = .ok (page k)) ∧
          ∀ n, records.length ≤ n * limit → (List.range n).flatMap page = records := by
  have hmatch : (init codec privateKey publicKey).KeysMatch := init_keysMatch hkeys
  generalize hL : init codec privateKey publicKey = L at *
  have hcodec : L.codec = codec := by rw [← hL]; rfl
  rw [← hcodec] at hlaw
  have hfile : file.getD [] = L.fileBytes [] := hempty
  obtain ⟨next, hrun, hbytes⟩ :=
    appendAll_fileBytes hlaw (List.forall_mem_nil _) hfile (fun r hr => hr) hfit
  rw [List.nil_append] at hbytes
  have hsep : L.Separable {r | r ∈ L.recordsFor genesis calls} (L.recordsFor genesis calls) := by
    intro r hr
    have hchars := L.recordsFor_not_separator genesis_not_separator hcalls r hr
    exact ⟨hr, dump_not_separator hlaw hr hchars⟩
  refine ⟨L.recordsFor genesis calls, next, hrun, L.recordsFor_length genesis calls, ?_, ?_⟩
  · exact verify_eq_nil_of_linked hlaw hsep (L.linked_recordsFor genesis calls)
      (L.signatureAccepted_recordsFor hed hmatch genesis calls) hbytes
  · intro limit hpos hlimit
    refine ⟨fun k => ((L.recordsFor genesis calls).drop (k * limit)).take limit, ?_, ?_⟩
    · intro k
      exact records_fileBytes hlaw hsep hbytes (k * limit) limit hpos hlimit
    · intro n hn
      rw [flatMap_pages, List.take_of_length_le hn]

section Sample

/-- A key pair with its signatures for the hashes of the two records below. -/
def sampleScheme : Ed25519 :=
  tableScheme "d75a980182b10ab7d54bfed3c964073a0ee172f3daa62325af021a68f707511a"
    [("c53be2aff9735550a4e2993719ad2a9c7b88b4f22960e5c631c667d1beae9435",
      "qr79UIiBVqn5L+fz6QXf76lCGhg7QeDinUCohp1Wgtdf8ZD465IqIz9bzLZHqLS1P08Og1E7clxyk58kRTjCAQ=="),
     ("8a1afa3be09cdfab7ce9e5c5c4f138a3a42be4be486d6cab73bcee2665624abc",
      "dXfj0uXoUOzXZxMz2U8YKy/DFu+cbh1lR5+9UMRdktI+jNJiiq5cxU4twXqQsGDanCkDN6svf3lTEksXPstfDw==")]

def firstCall : AppendCall where
  recordId := "r1"
  createdAt := "t1"
  recordType := "assessment"
  subjectId := "a-1"
  payload := [("risk", .int 4)]

def secondCall : AppendCall where
  recordId := "r2"
  createdAt := "t2"
  recordType := "plan"
  subjectId := "p-1"
  payload := [("cost", .int 100)]

def firstRecord : EvidenceRecord where
  recordId := "r1"
  createdAt := "t1"
  recordType := "assessment"
  subjectId := "a-1"
  payload := [("risk", .int 4)]
  previousHash := genesis
  recordHash := "c53be2aff9735550a4e2993719ad2a9c7b88b4f22960e5c631c667d1beae9435"
  signature := some
    "qr79UIiBVqn5L+fz6QXf76lCGhg7QeDinUCohp1Wgtdf8ZD465IqIz9bzLZHqLS1P08Og1E7clxyk58kRTjCAQ=="
  signingKeyId := some "21fe31dfa154a261"

def secondRecord : EvidenceRecord where
  recordId := "r2"
  createdAt := "t2"
  recordType := "plan"
  subjectId := "p-1"
  payload := [("cost", .int 100)]
  previousHash := "c53be2aff9735550a4e2993719ad2a9c7b88b4f22960e5c631c667d1beae9435"
  recordHash := "8a1afa3be09cdfab7ce9e5c5c4f138a3a42be4be486d6cab73bcee2665624abc"
  signature := some
    "dXfj0uXoUOzXZxMz2U8YKy/DFu+cbh1lR5+9UMRdktI+jNJiiq5cxU4twXqQsGDanCkDN6svf3lTEksXPstfDw=="
  signingKeyId := some "21fe31dfa154a261"

def sampleCodec : RecordCodec := tableCodec [firstRecord, secondRecord]

/-- A ledger that signs with the sample key and reads the two records. -/
def sampleLedger : EvidenceLedger sampleScheme := init sampleCodec (some ()) none

theorem signature_of_chars {digest signature : String} {key : ed.PrivateKey}
    (h : (hexDecode digest.toList).map (fun message => base64Encode (ed.sign key message))
      = some signature.toList) :
    ((some key).bind fun key => (hexDecode digest.toList).map fun message =>
      String.ofList (base64Encode (ed.sign key message))) = some signature := by
  have hmap := congrArg (Option.map String.ofList) h
  rw [Option.map_map, Option.map_some, String.ofList_toList] at hmap
  exact hmap

/-- The records of the two calls, hashed and signed. -/
theorem recordFor_sampleCalls : sampleLedger.recordFor genesis firstCall = firstRecord ∧
    sampleLedger.recordFor firstRecord.recordHash secondCall = secondRecord := by
  have hkeyId : sampleLedger.signingKeyId = some "21fe31dfa154a261" := by decide +kernel
  constructor
  · have hhash : (unsignedFor genesis firstCall).hash = firstRecord.recordHash := by
      rw [UnsignedRecord.hash, UnsignedRecord.canonical, UnsignedRecord.sortKeys_toJson,
        ← String.toList_inj]
      simp only [unsignedFor, firstCall, firstRecord]
      simp only [Json.dumps, Json.dumpsMembers, Json.quote]
      rw [genesis_toList]
      repeat rw [String.toList_ofList]
      rw [encodeUtf8_ascii (List.all_iff_forall_prop.mp (by decide +kernel))]
      decide +kernel
    have hsignature : (sampleLedger.privateKey.bind fun key =>
        (hexDecode firstRecord.recordHash.toList).map fun message =>
          String.ofList (base64Encode (sampleScheme.sign key message))) = firstRecord.signature := by
      refine signature_of_chars ?_
      simp only [firstRecord, sampleScheme, tableScheme, tableScheme.signed, List.find?_cons]
      repeat rw [String.toList_ofList]
      decide +kernel
    rw [recordFor_of_hash _ hhash, hsignature, hkeyId]
    rfl
  · have hhash : (unsignedFor firstRecord.recordHash secondCall).hash = secondRecord.recordHash := by
      rw [UnsignedRecord.hash, UnsignedRecord.canonical, UnsignedRecord.sortKeys_toJson,
        ← String.toList_inj]
      simp only [unsignedFor, firstRecord, secondCall, secondRecord]
      simp only [Json.dumps, Json.dumpsMembers, Json.quote]
      repeat rw [String.toList_ofList]
      rw [encodeUtf8_ascii (List.all_iff_forall_prop.mp (by decide +kernel))]
      decide +kernel
    have hsignature : (sampleLedger.privateKey.bind fun key =>
        (hexDecode secondRecord.recordHash.toList).map fun message =>
          String.ofList (base64Encode (sampleScheme.sign key message))) =
        secondRecord.signature := by
      refine signature_of_chars ?_
      simp only [secondRecord, sampleScheme, tableScheme, tableScheme.signed, List.find?_cons]
      repeat rw [String.toList_ofList]
      decide +kernel
    rw [recordFor_of_hash _ hhash, hsignature, hkeyId]
    rfl

theorem recordsFor_sampleCalls :
    sampleLedger.recordsFor genesis [firstCall, secondCall] = [firstRecord, secondRecord] := by
  rw [recordsFor, recordFor_sampleCalls.1, recordsFor, recordFor_sampleCalls.2, recordsFor]

/-- The texts of the two records differ and are short. -/
theorem sampleRecords_texts :
    ([firstRecord, secondRecord].Pairwise fun r s => r.toJson.dumps ≠ s.toJson.dumps) ∧
      ∀ r ∈ [firstRecord, secondRecord], r.toJson.dumps.length ≤ 1000 := by
  constructor
  · decide +kernel
  · simp only [List.forall_mem_cons, firstRecord, secondRecord, EvidenceRecord.toJson, Json.dumps,
      Json.dumpsMembers, Json.quote, Option.map_some, Option.getD_some]
    repeat rw [String.toList_ofList]
    decide +kernel

theorem sampleCodec_lawfulOn : sampleCodec.LawfulOn {r | r ∈ [firstRecord, secondRecord]} := by
  rw [sampleCodec]
  exact tableCodec_lawfulOn sampleRecords_texts.1 (by decide)

theorem sampleScheme_correct : sampleScheme.Correct := tableScheme_correct _ _

theorem sampleLedger_lawfulOn :
    sampleLedger.codec.LawfulOn {r | r ∈ [firstRecord, secondRecord]} :=
  sampleCodec_lawfulOn

theorem sampleCalls_not_separator :
    ∀ call ∈ [firstCall, secondCall], ∀ c ∈ call.chars, c ∉ separators := by
  have hprintable : ∀ call ∈ [firstCall, secondCall], Json.printable call.chars = true := by decide
  exact fun call hcall => not_separator_of_printable (hprintable call hcall)

theorem sampleRecords_lines :
    ∀ r ∈ [firstRecord, secondRecord], (sampleLedger.lineOf r).length ≤ 4001 := by
  intro r hr
  have hdump : (sampleLedger.codec.dumpJson r).toList = r.toJson.dumps := String.toList_ofList
  have hbytes := encodeUtf8_length_le r.toJson.dumps
  have htext := sampleRecords_texts.2 r hr
  rw [lineOf, hdump, List.length_append, List.length_singleton]
  omega

theorem sampleLedger_lastLinesFit : sampleLedger.LastLinesFit none [firstCall, secondCall] := by
  have hnew : ∀ r ∈ sampleLedger.recordsFor genesis [firstCall, secondCall],
      r ∈ [firstRecord, secondRecord] := by
    rw [recordsFor_sampleCalls]
    exact fun r hr => hr
  have hlines : ∀ r ∈ sampleLedger.recordsFor genesis [firstCall, secondCall],
      (sampleLedger.lineOf r).length ≤ chunkSize := by
    rw [recordsFor_sampleCalls]
    have hchunk : 4001 ≤ chunkSize := by decide
    exact fun r hr => (sampleRecords_lines r hr).trans hchunk
  have hfile : Option.getD (none : File) [] = sampleLedger.fileBytes [] := rfl
  exact lastLinesFit_of_lines sampleLedger_lawfulOn (List.forall_mem_nil _) hfile hnew (by decide) hlines

theorem appendAll_roundTrip_sample :
    ∃ records next, sampleLedger.appendAll none [firstCall, secondCall] = .ok (records, next) ∧
      records.length = 2 ∧ sampleLedger.verify next = .ok [] ∧
      ∀ limit : ℕ, 1 ≤ limit → limit ≤ 1000 →
        ∃ page : ℕ → List EvidenceRecord,
          (∀ k : ℕ, sampleLedger.records next (k * limit : ℕ) limit = .ok (page k)) ∧
          ∀ n, records.length ≤ n * limit → (List.range n).flatMap page = records := by
  have hlaw : sampleCodec.LawfulOn
      {r | r ∈ sampleLedger.recordsFor genesis [firstCall, secondCall]} := by
    rw [recordsFor_sampleCalls]
    exact sampleCodec_lawfulOn
  have hkeys : ∀ key, some () = some key → ∀ shared, (none : Option Unit) = some shared →
      shared = sampleScheme.publicKey key := by
    intro key _ shared hshared
    cases hshared
  exact appendAll_roundTrip sampleScheme sampleScheme_correct sampleCodec (some ()) none hkeys
    none rfl [firstCall, secondCall] hlaw sampleCalls_not_separator sampleLedger_lastLinesFit

end Sample

section Separator

def separatorCall : AppendCall where
  recordId := "r1"
  createdAt := "t1"
  recordType := "observation"
  subjectId := "a\u2028b"
  payload := []

def separatorRecord : EvidenceRecord where
  recordId := "r1"
  createdAt := "t1"
  recordType := "observation"
  subjectId := "a\u2028b"
  payload := []
  previousHash := genesis
  recordHash := "e68c188f568f6ee9a4021fc1deb06b3dc09583d267e989b4948bb18703065877"
  signature := none
  signingKeyId := none

def unsignedLedger : EvidenceLedger sampleScheme := init (tableCodec [separatorRecord]) none none

theorem recordFor_separatorCall :
    unsignedLedger.recordFor genesis separatorCall = separatorRecord := by
  have hhash : (unsignedFor genesis separatorCall).hash = separatorRecord.recordHash := by
    rw [UnsignedRecord.hash, UnsignedRecord.canonical, UnsignedRecord.sortKeys_toJson,
      ← String.toList_inj]
    simp only [unsignedFor, separatorCall, separatorRecord]
    simp only [Json.dumps, Json.dumpsMembers, Json.quote]
    rw [genesis_toList]
    repeat rw [String.toList_ofList]
    decide +kernel
  rw [recordFor_of_hash _ hhash]
  rfl

theorem unsignedLedger_lawfulOn : unsignedLedger.codec.LawfulOn {r | r ∈ [separatorRecord]} := by
  have htable : (tableCodec [separatorRecord]).LawfulOn {r | r ∈ [separatorRecord]} :=
    tableCodec_lawfulOn (by decide) (by decide)
  exact htable

theorem append_separatorCall : unsignedLedger.append none separatorCall
    = .ok (separatorRecord, some (unsignedLedger.fileBytes [separatorRecord])) := by
  have hfile : Option.getD (none : File) [] = unsignedLedger.fileBytes [] := rfl
  have happend := append_fileBytes unsignedLedger_lawfulOn (List.forall_mem_nil _) hfile
    (by decide) separatorCall
  have hhead : chain.head genesis [] = genesis := rfl
  rw [hhead, recordFor_separatorCall] at happend
  exact happend

theorem verify_separatorRecord :
    unsignedLedger.verify (some (unsignedLedger.fileBytes [separatorRecord]))
      = .ok [.invalidRecord 1 "Invalid JSON", .invalidRecord 2 "Invalid JSON"] := by
  have hlines : unsignedLedger.verifyLines 1 genesis
      (splitlines (universalNewlines (joinLines (unsignedLedger.dumpLines [separatorRecord]))))
        = [.invalidRecord 1 "Invalid JSON", .invalidRecord 2 "Invalid JSON"] := by
    simp only [dumpLines, unsignedLedger, init, tableCodec, List.map_cons, List.map_nil,
      String.toList_ofList]
    decide +kernel
  rw [verify, readText, fileBytes_eq_encodeUtf8, decodeUtf8_encodeUtf8, ← hlines]
  rfl

/-- The record is written as one line, which the readers of text take for two. -/
theorem appendAll_separator_rejected :
    unsignedLedger.codec.LawfulOn {r | r ∈ unsignedLedger.recordsFor genesis [separatorCall]} ∧
      ∃ next, unsignedLedger.appendAll none [separatorCall] = .ok ([separatorRecord], next) ∧
        unsignedLedger.verify next
          = .ok [.invalidRecord 1 "Invalid JSON", .invalidRecord 2 "Invalid JSON"] := by
  refine ⟨?_, some (unsignedLedger.fileBytes [separatorRecord]), ?_, verify_separatorRecord⟩
  · rw [recordsFor, recordFor_separatorCall, recordsFor]
    exact unsignedLedger_lawfulOn
  · rw [appendAll, append_separatorCall]
    rfl

end Separator

end EvidenceLedger

end ContinuityOS.Evidence
