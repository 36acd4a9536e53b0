import Mathlib.Data.Bool.AllAny
import ContinuityOS.Evidence.Ledger

/-! # The file as lines of records

The bytes of a ledger are the lines of its records. The three readers (the scan for the
last hash, verification and export) find exactly these records again: the scan as long as
the last line fits in one chunk, the others as long as no string has a line separator
that is written unescaped.
-/
namespace ContinuityOS.Evidence.EvidenceLedger
open Library

variable {ed : Ed25519} (L : EvidenceLedger ed)

def fileBytes (rs : List EvidenceRecord) : List UInt8 := rs.flatMap L.lineOf

theorem fileBytes_concat (rs : List EvidenceRecord) (r : EvidenceRecord) :
    L.fileBytes (rs ++ [r]) = L.fileBytes rs ++ L.lineOf r := by
  simp [fileBytes]

/-- The line separators that JSON text leaves unescaped. -/
def separators : List Char := ['\u0085', '\u2028', '\u2029']

variable {L} {R : Set EvidenceRecord}

section Dump
variable (hlaw : L.codec.LawfulOn R) {r : EvidenceRecord} (hr : r ∈ R)
include hlaw hr

theorem newline_not_mem_dump : '\n' ∉ (L.codec.dumpJson r).toList := by
  intro hmem
  exact absurd (hlaw.dump_chars r hr '\n' hmem).1 (by decide)

theorem newline_not_mem_dumpBytes : (10 : UInt8) ∉ encodeUtf8 (L.codec.dumpJson r).toList :=
  newline_not_mem_encodeUtf8 (newline_not_mem_dump hlaw hr)

theorem dump_not_separator (hsep : ∀ c ∈ r.chars, c ∉ separators) :
    ∀ c ∈ (L.codec.dumpJson r).toList, c ∉ separators := by
  intro c hc
  cases (hlaw.dump_chars r hr c hc).2 with
  | inl hle =>
    have hgt : ∀ d ∈ separators, ¬ d ≤ '~' := List.all_iff_forall_prop.mp (by decide)
    exact fun hmem => hgt c hmem hle
  | inr hchars => exact hsep c hchars

theorem dump_not_boundary (hsep : ∀ c ∈ (L.codec.dumpJson r).toList, c ∉ separators) :
    ∀ c ∈ (L.codec.dumpJson r).toList, c ∉ lineBoundaries := by
  intro c hc hb
  have hcases : c < ' ' ∨ c ∈ separators := by
    have hall : ∀ d ∈ lineBoundaries, d < ' ' ∨ d ∈ separators :=
      List.all_iff_forall_prop.mp (by decide)
    exact hall c hb
  cases hcases with
  | inl hlt => exact absurd hlt (not_lt.mpr (hlaw.dump_chars r hr c hc).1)
  | inr hmem => exact hsep c hc hmem

theorem dumpBytes_not_blank :
    (encodeUtf8 (L.codec.dumpJson r).toList).any (fun b => !isSpaceByte b) = true := by
  rw [List.any_eq_true]
  have hbrace : (123 : UInt8) ∈ encodeUtf8 (L.codec.dumpJson r).toList :=
    List.mem_flatMap.mpr ⟨'\x7b', hlaw.dump_brace r hr, by decide⟩
  exact ⟨123, hbrace, by decide⟩

end Dump

section Scan

/-- What is cut off the end of the file is empty or ends a line. -/
theorem drop_fileBytes (rs : List EvidenceRecord) (n : ℕ) :
    (L.fileBytes rs).drop n = [] ∨ ∃ q, (L.fileBytes rs).drop n = q ++ [10] := by
  cases rs using List.reverseRecOn with
  | nil => exact Or.inl (by simp [fileBytes])
  | append_singleton rs r =>
    rw [fileBytes_concat, lineOf, ← List.append_assoc, List.drop_append]
    by_cases hn : n ≤ (L.fileBytes rs ++ encodeUtf8 (L.codec.dumpJson r).toList).length
    · right
      rw [Nat.sub_eq_zero_of_le hn, List.drop_zero]
      exact ⟨_, rfl⟩
    · left
      rw [List.drop_eq_nil_of_le (by omega), List.drop_eq_nil_of_le]
      · rfl
      · rw [List.length_singleton]
        omega

/-- After a line end, a line that is not blank is the last one of its kind. -/
theorem getLast?_nonEmpty_line {q line : List UInt8} (hq : q = [] ∨ ∃ p, q = p ++ [10])
    (hnewline : (10 : UInt8) ∉ line) (hblank : line.any (fun b => !isSpaceByte b) = true) :
    (nonEmpty (splitOn 10 (q ++ (line ++ [10])))).getLast? = some line := by
  have hline : splitOn 10 (line ++ [10]) = [line, []] := by
    rw [splitOn_append, splitOn_of_not_mem hnewline]
    rfl
  have hsplit : ∃ before, splitOn 10 (q ++ (line ++ [10])) = before ++ [line, []] := by
    cases hq with
    | inl hnil =>
      rw [hnil, List.nil_append, hline]
      exact ⟨[], rfl⟩
    | inr hend =>
      obtain ⟨p, hp⟩ := hend
      rw [hp, List.append_assoc, List.singleton_append, splitOn_append, hline]
      exact ⟨_, rfl⟩
  obtain ⟨before, hbefore⟩ := hsplit
  rw [hbefore, nonEmpty, List.filter_append, List.filter_cons, if_pos hblank, List.filter_cons]
  simp

/-- A line in the last chunk that is not blank ends the scan, as it was read. -/
theorem lastHash_of_chunk {bytes line : List UInt8} (hpos : 0 < bytes.length)
    (hline : (nonEmpty (splitOn 10 (bytes.drop (bytes.length - chunkSize)))).getLast? = some line) :
    L.lastHash (some bytes) =
      match decodeUtf8 line with
      | none => .error .undecodable
      | some text => (L.validate text).map EvidenceRecord.recordHash := by
  have hstart : bytes.length - min chunkSize bytes.length = bytes.length - chunkSize := by omega
  have hbuffer : (bytes.drop (bytes.length - chunkSize)).take (min chunkSize bytes.length) ++ []
      = bytes.drop (bytes.length - chunkSize) := by
    rw [List.append_nil, List.take_of_length_le]
    rw [List.length_drop]
    omega
  obtain ⟨fuel, hfuel⟩ : ∃ fuel, bytes.length = fuel + 1 := Nat.exists_eq_succ_of_ne_zero hpos.ne'
  have hscan : L.scanBack bytes (fuel + 1) bytes.length [] =
      match decodeUtf8 line with
      | none => .error .undecodable
      | some text => (L.validate text).map EvidenceRecord.recordHash := by
    rw [scanBack, if_pos hpos]
    cases htext : decodeUtf8 line <;> simp only [hstart, hbuffer, hline, htext]
  rw [lastHash]
  nth_rewrite 1 [hfuel]
  exact hscan

variable (hlaw : L.codec.LawfulOn R) {r : EvidenceRecord} (hr : r ∈ R)
include hlaw hr

theorem getLast?_nonEmpty_splitOn {q : List UInt8} (hq : q = [] ∨ ∃ p, q = p ++ [10]) :
    (nonEmpty (splitOn 10 (q ++ L.lineOf r))).getLast?
      = some (encodeUtf8 (L.codec.dumpJson r).toList) :=
  getLast?_nonEmpty_line hq (newline_not_mem_dumpBytes hlaw hr) (dumpBytes_not_blank hlaw hr)

theorem validate_dump : L.validate (L.codec.dumpJson r).toList = .ok r := by
  rw [validate, String.ofList_toList, hlaw.validate_dump r hr]

/-- The scan finds the last hash in its first chunk. -/
theorem lastHash_concat {file : File} {rs : List EvidenceRecord}
    (hfile : file.getD [] = L.fileBytes (rs ++ [r])) (hfit : (L.lineOf r).length ≤ chunkSize) :
    L.lastHash file = .ok r.recordHash := by
  cases file with
  | none =>
    rw [fileBytes_concat, lineOf] at hfile
    simp at hfile
  | some bytes =>
    have hbytes : bytes = L.fileBytes rs ++ L.lineOf r := by
      rw [← fileBytes_concat]
      exact hfile
    have hlen : bytes.length = (L.fileBytes rs).length + (L.lineOf r).length := by
      rw [hbytes, List.length_append]
    have hpos : 0 < (L.lineOf r).length := by simp [lineOf]
    have hstart : bytes.length - chunkSize ≤ (L.fileBytes rs).length := by omega
    have hchunk : bytes.drop (bytes.length - chunkSize)
        = (L.fileBytes rs).drop (bytes.length - chunkSize) ++ L.lineOf r := by
      rw [← List.drop_append_of_le_length hstart, ← hbytes]
    have hlast := getLast?_nonEmpty_splitOn hlaw hr
      (drop_fileBytes (L := L) rs (bytes.length - chunkSize))
    rw [← hchunk] at hlast
    rw [lastHash_of_chunk (by omega) hlast]
    simp only [decodeUtf8_encodeUtf8, validate_dump hlaw hr]
    rfl

end Scan

section Text

/-- The lines of the file as text. -/
def dumpLines (L : EvidenceLedger ed) (rs : List EvidenceRecord) : List (List Char) :=
  rs.map fun r => (L.codec.dumpJson r).toList

theorem fileBytes_eq_encodeUtf8 (rs : List EvidenceRecord) :
    L.fileBytes rs = encodeUtf8 (joinLines (L.dumpLines rs)) := by
  induction rs with
  | nil => rfl
  | cons r rs ih =>
    have hjoin : joinLines (L.dumpLines (r :: rs))
        = (L.codec.dumpJson r).toList ++ ['\n'] ++ joinLines (L.dumpLines rs) := rfl
    have hbytes : L.fileBytes (r :: rs) = L.lineOf r ++ L.fileBytes rs := rfl
    rw [hjoin, hbytes, encodeUtf8_append, encodeUtf8_append, ih, encodeUtf8_newline, lineOf]

/-- Reading in text mode leaves lines without boundaries as they are. -/
theorem readText_joinLines {lines : List (List Char)}
    (hlines : ∀ line ∈ lines, ∀ c ∈ line, c ∉ lineBoundaries) :
    readText (encodeUtf8 (joinLines lines)) = .ok (joinLines lines) := by
  have hreturn : '\r' ∉ joinLines lines := by
    intro hmem
    obtain ⟨line, hline, hc⟩ := List.mem_flatMap.mp hmem
    cases List.mem_append.mp hc with
    | inl h => exact hlines line hline '\r' h (by decide)
    | inr h => exact absurd h (by decide)
  rw [readText, decodeUtf8_encodeUtf8]
  simp only [universalNewlines_eq hreturn]

/-- Records of the lawful set whose text has no separator. -/
def Separable (L : EvidenceLedger ed) (R : Set EvidenceRecord) (rs : List EvidenceRecord) : Prop :=
  ∀ r ∈ rs, r ∈ R ∧ ∀ c ∈ (L.codec.dumpJson r).toList, c ∉ separators

variable (hlaw : L.codec.LawfulOn R) {rs : List EvidenceRecord} (hrs : L.Separable R rs)
include hlaw hrs

theorem dumpLines_not_boundary : ∀ line ∈ L.dumpLines rs, ∀ c ∈ line, c ∉ lineBoundaries := by
  intro line hline
  obtain ⟨r, hr, heq⟩ := List.mem_map.mp hline
  rw [← heq]
  exact dump_not_boundary hlaw (hrs r hr).1 (hrs r hr).2

theorem readText_fileBytes :
    readText (L.fileBytes rs) = .ok (joinLines (L.dumpLines rs)) := by
  rw [fileBytes_eq_encodeUtf8]
  exact readText_joinLines (dumpLines_not_boundary hlaw hrs)

theorem splitlines_fileLines : splitlines (joinLines (L.dumpLines rs)) = L.dumpLines rs :=
  splitlines_joinLines (dumpLines_not_boundary hlaw hrs)

theorem mapM_validate_dumpLines {page : List EvidenceRecord} (hpage : page ⊆ rs) :
    (L.dumpLines page).mapM L.validate = .ok page := by
  induction page with
  | nil => rfl
  | cons r page ih =>
    have hr : r ∈ R := (hrs r (hpage List.mem_cons_self)).1
    have hrest := ih fun x hx => hpage (List.mem_cons_of_mem r hx)
    have hcons : L.dumpLines (r :: page) = (L.codec.dumpJson r).toList :: L.dumpLines page := rfl
    rw [hcons, List.mapM_cons, validate_dump hlaw hr, hrest]
    rfl

/-- A page of the export is the slice of the records. -/
theorem records_fileBytes {file : File} (hfile : file.getD [] = L.fileBytes rs) (offset limit : ℕ)
    (hpos : 1 ≤ limit) (hlimit : limit ≤ 1000) :
    L.records file offset limit = .ok ((rs.drop offset).take limit) := by
  have hargs : ¬((offset : ℤ) < 0 ∨ (limit : ℤ) < 1 ∨ 1000 < (limit : ℤ)) := by omega
  cases file with
  | none =>
    cases rs with
    | nil =>
      rw [records, if_neg hargs, List.drop_nil, List.take_nil]
    | cons r rs => simp [fileBytes, lineOf] at hfile
  | some bytes =>
    have hbytes : bytes = L.fileBytes rs := hfile
    have hlen : (L.dumpLines rs).length = rs.length := List.length_map _
    have hpage : ((L.dumpLines rs).drop offset).take limit
        = L.dumpLines ((rs.drop offset).take limit) := by
      simp only [dumpLines, List.map_take, List.map_drop]
    have hsub : (rs.drop offset).take limit ⊆ rs :=
      List.Subset.trans (List.take_subset _ _) (List.drop_subset _ _)
    have hread : L.records (some bytes) offset limit
        = if (rs.length : ℤ) ≤ offset then .ok [] else
          (L.dumpLines ((rs.drop offset).take limit)).mapM L.validate := by
      rw [← hpage, ← hlen, records, if_neg hargs, hbytes, readText_fileBytes hlaw hrs]
      simp only [Except.bind, bind, splitlines_fileLines hlaw hrs, Int.toNat_natCast]
    rw [hread, mapM_validate_dumpLines hlaw hrs hsub]
    split_ifs with hend
    · rw [List.drop_eq_nil_of_le (by omega), List.take_nil]
    · rfl

end Text

end ContinuityOS.Evidence.EvidenceLedger
