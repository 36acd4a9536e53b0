import ContinuityOS.Evidence.RoundTrip
import ContinuityOS.Library.JsonScan

/-! # Reading the tail against reading the file

The hash to continue from is read in chunks from the end. The scan stops at the first chunk
with a line that is not blank and takes that line for a record, so a last line longer than
a chunk is read without its front.
-/
namespace ContinuityOS.Evidence
open Library

/-- Records are printed as dictionaries, and a text that is read as a record has its brackets
and quotes closed, as JSON text does. -/
structure RecordCodec.FramedOn (codec : RecordCodec) (R : Set EvidenceRecord) : Prop where
  dump_dictionary : ∀ r ∈ R, IsDictionary (codec.dumpJson r).toList
  accepted_balanced : ∀ text r, codec.validateJson text = .ok r → Balanced text.toList

namespace EvidenceLedger
variable {ed : Ed25519} (L : EvidenceLedger ed)

/-- The hash stored in the last line of the whole file that is not blank. -/
def plainLastHash (file : File) : Except LedgerError String :=
  match (nonEmpty (splitOn 10 (file.getD []))).getLast? with
  | none => .ok genesis
  | some line =>
    match decodeUtf8 line with
    | none => .error .undecodable
    | some text => (L.validate text).map EvidenceRecord.recordHash

variable {L} {R : Set EvidenceRecord}

section Fragment
variable (hframed : L.codec.FramedOn R) {r : EvidenceRecord} (hr : r ∈ R)
include hframed hr

/-- A line without its front is no record. -/
theorem validate_fragment {k : ℕ} (hpos : 0 < k)
    (hk : k < (encodeUtf8 (L.codec.dumpJson r).toList).length) {text : List Char}
    (htext : decodeUtf8 ((encodeUtf8 (L.codec.dumpJson r).toList).drop k) = some text)
    (found : EvidenceRecord) : L.validate text ≠ .ok found := by
  intro hfound
  have hbytes := encodeUtf8_of_decodeUtf8 htext
  have hsplit : encodeUtf8 (L.codec.dumpJson r).toList
      = (encodeUtf8 (L.codec.dumpJson r).toList).take k ++ encodeUtf8 text := by
    rw [hbytes, List.take_append_drop]
  obtain ⟨front, hfront⟩ := encodeUtf8_suffix hsplit
  have hlength := congrArg List.length hbytes
  rw [List.length_drop] at hlength
  have hnonempty : text ≠ [] := by
    rintro rfl
    have hzero : (encodeUtf8 []).length = 0 := rfl
    omega
  have hcut : front ≠ [] := by
    rintro rfl
    rw [hfront, List.nil_append] at hlength hk
    omega
  have hbalanced : Balanced text := by
    rw [validate] at hfound
    cases hread : L.codec.validateJson (String.ofList text) with
    | error message =>
      rw [hread] at hfound
      cases hfound
    | ok record =>
      have haccepted := hframed.accepted_balanced _ _ hread
      rwa [String.toList_ofList] at haccepted
  exact (hframed.dump_dictionary r hr).not_balanced hfront hcut hnonempty hbalanced

theorem dumpBytes_ends : ∃ before, encodeUtf8 (L.codec.dumpJson r).toList = before ++ [125] := by
  obtain ⟨inner, hinner, -⟩ := hframed.dump_dictionary r hr
  have hbrace : encodeUtf8 ['\x7d'] = [125] := by decide
  rw [hinner, ← List.cons_append, encodeUtf8_append, hbrace]
  exact ⟨_, rfl⟩

/-- What is left of a line that is cut still has its closing bracket. -/
theorem fragment_not_blank {k : ℕ} (hk : k < (encodeUtf8 (L.codec.dumpJson r).toList).length) :
    ((encodeUtf8 (L.codec.dumpJson r).toList).drop k).any (fun b => !isSpaceByte b) = true := by
  obtain ⟨before, hbefore⟩ := dumpBytes_ends hframed hr
  rw [hbefore, List.length_append, List.length_singleton] at hk
  rw [hbefore, List.drop_append_of_le_length (by omega), List.any_append]
  exact Bool.or_eq_true_iff.mpr (Or.inr (by decide))

end Fragment

section Agreement
variable (hlaw : L.codec.LawfulOn R)
include hlaw

theorem plainLastHash_fileBytes {file : File} {rs : List EvidenceRecord} (hrs : ∀ r ∈ rs, r ∈ R)
    (hfile : file.getD [] = L.fileBytes rs) :
    L.plainLastHash file = .ok (chain.head genesis rs) := by
  rw [plainLastHash, hfile]
  cases rs using List.reverseRecOn with
  | nil => rfl
  | append_singleton rs r =>
    have hr : r ∈ R := hrs r (List.mem_append_right rs List.mem_cons_self)
    have hstart : L.fileBytes rs = [] ∨ ∃ q, L.fileBytes rs = q ++ [10] := drop_fileBytes rs 0
    rw [fileBytes_concat, getLast?_nonEmpty_splitOn hlaw hr hstart]
    simp only [decodeUtf8_encodeUtf8, validate_dump hlaw hr, HashChain.head_concat]
    rfl

/-- A last line longer than a chunk ends the scan in an error. -/
theorem lastHash_concat_long (hframed : L.codec.FramedOn R) {r : EvidenceRecord} (hr : r ∈ R)
    {file : File} {rs : List EvidenceRecord}
    (hfile : file.getD [] = L.fileBytes (rs ++ [r]))
    (hlong : chunkSize ≤ (encodeUtf8 (L.codec.dumpJson r).toList).length) (hash : String) :
    L.lastHash file ≠ .ok hash := by
  cases file with
  | none =>
    rw [fileBytes_concat, lineOf] at hfile
    simp at hfile
  | some bytes =>
    set dump := encodeUtf8 (L.codec.dumpJson r).toList with hdump
    have hchunk : 1 < chunkSize := by decide
    have hbytes : bytes = L.fileBytes rs ++ (dump ++ [10]) := by
      rw [hdump, ← lineOf, ← fileBytes_concat]
      exact hfile
    have hlen : bytes.length = (L.fileBytes rs).length + (dump.length + 1) := by
      rw [hbytes, List.length_append, List.length_append, List.length_singleton]
    obtain ⟨k, hkpos, hk, hstart⟩ : ∃ k, 0 < k ∧ k < dump.length ∧
        bytes.length - chunkSize = (L.fileBytes rs).length + k :=
      ⟨dump.length + 1 - chunkSize, by omega, by omega, by omega⟩
    have hcut : bytes.drop (bytes.length - chunkSize) = [] ++ (dump.drop k ++ [10]) := by
      rw [hstart, hbytes, List.drop_length_add_append, List.drop_append_of_le_length hk.le,
        List.nil_append]
    have hnewline : (10 : UInt8) ∉ dump.drop k :=
      fun hmem => newline_not_mem_dumpBytes hlaw hr (List.mem_of_mem_drop hmem)
    have hlast := getLast?_nonEmpty_line (Or.inl rfl) hnewline (fragment_not_blank hframed hr hk)
    rw [← hcut] at hlast
    rw [lastHash_of_chunk (by omega) hlast]
    cases htext : decodeUtf8 (dump.drop k) with
    | none => simp
    | some text =>
      intro hfound
      cases hread : L.validate text with
      | error e =>
        simp only [hread, Except.map] at hfound
        cases hfound
      | ok found => exact validate_fragment hframed hr hkpos hk htext found hread

/-- The tail read finds the last stored hash, as reading the whole file does, exactly when
the last line with its newline fits in one chunk; it fails otherwise. -/
theorem lastHash_eq_plainLastHash_iff (hframed : L.codec.FramedOn R) {file : File}
    {rs : List EvidenceRecord} (hrs : ∀ r ∈ rs, r ∈ R) (hfile : file.getD [] = L.fileBytes rs) :
    L.plainLastHash file = .ok ((rs.getLast?.map EvidenceRecord.recordHash).getD genesis) ∧
      (L.lastHash file = L.plainLastHash file ↔ (lastLine file).length < chunkSize) ∧
      ((∃ hash, L.lastHash file = .ok hash) ↔ (lastLine file).length < chunkSize) := by
  have hplain := plainLastHash_fileBytes hlaw hrs hfile
  have hfits : (lastLine file).length < chunkSize → L.lastHash file = L.plainLastHash file := by
    intro hfit
    rw [hplain, lastHash_fileBytes hlaw hrs hfile hfit]
  have hfails : chunkSize ≤ (lastLine file).length → ∀ hash, L.lastHash file ≠ .ok hash := by
    intro hlong
    cases rs using List.reverseRecOn with
    | nil =>
      have hempty : (lastLine file).length = 0 := by
        rw [lastLine, hfile]
        rfl
      have hchunk : 0 < chunkSize := by decide
      omega
    | append_singleton rs r =>
      have hr : r ∈ R := hrs r (List.mem_append_right rs List.mem_cons_self)
      rw [lastLine_concat hlaw hr hfile] at hlong
      exact lastHash_concat_long hlaw hframed hr hfile hlong
  refine ⟨?_, ⟨fun heq => ?_, hfits⟩, ⟨?_, fun hfit => ?_⟩⟩
  · rw [hplain, HashChain.head_eq_getLast?]
    rfl
  · by_contra hlong
    exact hfails (not_lt.mp hlong) _ (heq.trans hplain)
  · rintro ⟨hash, hok⟩
    by_contra hlong
    exact hfails (not_lt.mp hlong) hash hok
  · exact ⟨_, (hfits hfit).trans hplain⟩

end Agreement

section Sample

/-- The codec of a table prints dictionaries and accepts only its own texts. -/
theorem tableCodec_framedOn {table : List EvidenceRecord}
    (hnumbers : ∀ r ∈ table, ∀ c ∈ Json.literalsMembers r.payload, Plain c) :
    (tableCodec table).FramedOn {r | r ∈ table} where
  dump_dictionary r hr := by
    rw [tableCodec, String.toList_ofList]
    have hliterals : ∀ c ∈ r.toJson.literals, Plain c := by
      rw [r.toJson_literals]
      exact hnumbers r hr
    exact isDictionary_dumps hliterals
  accepted_balanced text r hread := by
    simp only [tableCodec] at hread
    cases hfind : table.find? fun r => String.ofList r.toJson.dumps = text with
    | none =>
      simp only [hfind] at hread
      cases hread
    | some entry =>
      have htext : String.ofList entry.toJson.dumps = text := by
        have hentry := List.find?_some hfind
        exact of_decide_eq_true hentry
      rw [← htext, String.toList_ofList]
      apply scan_dumps
      rw [entry.toJson_literals]
      exact hnumbers entry (List.mem_of_find?_eq_some hfind)

theorem sampleLedger_framedOn :
    sampleLedger.codec.FramedOn {r | r ∈ [firstRecord, secondRecord]} := by
  have htable : (tableCodec [firstRecord, secondRecord]).FramedOn
      {r | r ∈ [firstRecord, secondRecord]} :=
    tableCodec_framedOn (List.forall_mem_cons.mpr ⟨List.forall_mem_nil _,
      List.forall_mem_singleton.mpr (List.forall_mem_nil _)⟩)
  exact htable

theorem lastHash_eq_plainLastHash_sample :
    sampleLedger.lastHash (some (sampleLedger.fileBytes [firstRecord, secondRecord]))
        = sampleLedger.plainLastHash (some (sampleLedger.fileBytes [firstRecord, secondRecord])) ∧
      sampleLedger.plainLastHash (some (sampleLedger.fileBytes [firstRecord, secondRecord]))
        = .ok secondRecord.recordHash := by
  have hfile : Option.getD (some (sampleLedger.fileBytes [firstRecord, secondRecord])) []
      = sampleLedger.fileBytes ([firstRecord] ++ [secondRecord]) := by
    rw [Option.getD_some, List.singleton_append]
  have hsecond : secondRecord ∈ [firstRecord, secondRecord] :=
    List.mem_cons_of_mem _ List.mem_cons_self
  have hline := sampleRecords_lines secondRecord hsecond
  have hfit : (lastLine (some (sampleLedger.fileBytes [firstRecord, secondRecord]))).length
      < chunkSize := by
    have hchunk : 4001 < chunkSize := by decide
    rw [lastLine_concat sampleLedger_lawfulOn hsecond hfile]
    rw [lineOf, List.length_append] at hline
    omega
  obtain ⟨hplain, hiff, -⟩ := lastHash_eq_plainLastHash_iff sampleLedger_lawfulOn
    sampleLedger_framedOn (fun _ hr => hr) hfile
  exact ⟨hiff.mpr hfit, hplain⟩

end Sample

section LongRecord

/-- A decision packet with one text in it. -/
def packetCall (rationale : String) : AppendCall where
  recordId := "r1"
  createdAt := "t1"
  recordType := "decision_packet"
  subjectId := "s1"
  payload := [("rationale", .string rationale)]

def packetRecord (rationale : String) : EvidenceRecord where
  recordId := "r1"
  createdAt := "t1"
  recordType := "decision_packet"
  subjectId := "s1"
  payload := [("rationale", .string rationale)]
  previousHash := genesis
  recordHash := (unsignedFor genesis (packetCall rationale)).hash
  signature := none
  signingKeyId := none

def packetLedger (rationale : String) : EvidenceLedger sampleScheme :=
  init (tableCodec [packetRecord rationale]) none none

variable (rationale : String)

theorem packetLedger_lawfulOn :
    (packetLedger rationale).codec.LawfulOn {r | r ∈ [packetRecord rationale]} := by
  have htable : (tableCodec [packetRecord rationale]).LawfulOn {r | r ∈ [packetRecord rationale]} :=
    tableCodec_lawfulOn (List.pairwise_singleton _ _) (List.forall_mem_singleton.mpr rfl)
  exact htable

theorem packetLedger_framedOn :
    (packetLedger rationale).codec.FramedOn {r | r ∈ [packetRecord rationale]} := by
  have htable : (tableCodec [packetRecord rationale]).FramedOn {r | r ∈ [packetRecord rationale]} :=
    tableCodec_framedOn (List.forall_mem_singleton.mpr (List.forall_mem_nil _))
  exact htable

theorem packetRecord_line : rationale.toList.length
    ≤ (encodeUtf8 ((packetLedger rationale).codec.dumpJson (packetRecord rationale)).toList).length := by
  have hdump : ((packetLedger rationale).codec.dumpJson (packetRecord rationale)).toList
      = (packetRecord rationale).toJson.dumps := String.toList_ofList
  have hbytes := length_le_encodeUtf8 (packetRecord rationale).toJson.dumps
  have htext := Json.length_le_quote rationale
  have hmember : (Json.quote rationale).length ≤ (packetRecord rationale).toJson.dumps.length := by
    simp only [EvidenceRecord.toJson, packetRecord, Json.dumps, Json.dumpsMembers, List.length_cons,
      List.length_append]
    omega
  rw [hdump]
  omega

theorem append_packetCall : (packetLedger rationale).append none (packetCall rationale)
    = .ok (packetRecord rationale, some ((packetLedger rationale).fileBytes [packetRecord rationale])) := by
  have hfile : Option.getD (none : File) [] = (packetLedger rationale).fileBytes [] := rfl
  have happend := append_fileBytes (packetLedger_lawfulOn rationale) (List.forall_mem_nil _) hfile
    (by decide) (packetCall rationale)
  have hrecord : (packetLedger rationale).recordFor (chain.head genesis []) (packetCall rationale)
      = packetRecord rationale := rfl
  rw [hrecord] at happend
  exact happend

/-- After a packet with a text longer than a chunk the stored hash is no longer found. -/
theorem lastHash_packetRecord (hlong : chunkSize ≤ rationale.toList.length) :
    (packetLedger rationale).plainLastHash
        (some ((packetLedger rationale).fileBytes [packetRecord rationale]))
        = .ok (packetRecord rationale).recordHash ∧
      ∀ hash, (packetLedger rationale).lastHash
        (some ((packetLedger rationale).fileBytes [packetRecord rationale])) ≠ .ok hash := by
  have hfile : Option.getD (some ((packetLedger rationale).fileBytes [packetRecord rationale])) []
      = (packetLedger rationale).fileBytes ([] ++ [packetRecord rationale]) := by
    rw [Option.getD_some, List.nil_append]
  have hmem : packetRecord rationale ∈ {r | r ∈ [packetRecord rationale]} :=
    List.mem_singleton_self _
  refine ⟨plainLastHash_fileBytes (packetLedger_lawfulOn rationale) (fun _ hr => hr) hfile, ?_⟩
  exact lastHash_concat_long (packetLedger_lawfulOn rationale) (packetLedger_framedOn rationale)
    hmem hfile (hlong.trans (packetRecord_line rationale))

def repeated (n : ℕ) : String := String.ofList (List.replicate n 'a')

theorem repeated_length (n : ℕ) : (repeated n).toList.length = n := by
  rw [repeated, String.toList_ofList, List.length_replicate]

/-- The ledger writes a packet of five thousand characters and cannot read its hash back. -/
theorem lastHash_fails_after_append :
    (packetLedger (repeated 5000)).codec.LawfulOn {r | r ∈ [packetRecord (repeated 5000)]} ∧
      (packetLedger (repeated 5000)).append none (packetCall (repeated 5000))
        = .ok (packetRecord (repeated 5000),
          some ((packetLedger (repeated 5000)).fileBytes [packetRecord (repeated 5000)])) ∧
      (packetLedger (repeated 5000)).plainLastHash
          (some ((packetLedger (repeated 5000)).fileBytes [packetRecord (repeated 5000)]))
        = .ok (packetRecord (repeated 5000)).recordHash ∧
      ∀ hash, (packetLedger (repeated 5000)).lastHash
        (some ((packetLedger (repeated 5000)).fileBytes [packetRecord (repeated 5000)])) ≠ .ok hash := by
  have hlong : chunkSize ≤ (repeated 5000).toList.length := by
    rw [repeated_length]
    decide
  exact ⟨packetLedger_lawfulOn (repeated 5000), append_packetCall (repeated 5000),
    lastHash_packetRecord (repeated 5000) hlong⟩

end LongRecord

end EvidenceLedger

end ContinuityOS.Evidence
