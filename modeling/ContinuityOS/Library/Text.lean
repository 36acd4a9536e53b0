import Mathlib.Data.List.Basic
import Mathlib.Data.List.DropRight
import Mathlib.Tactic

/-! # Text and lines

UTF-8 as lists of bytes, splitting at one separator, and splitting a text at every
line boundary. Lines without boundaries survive being written one after the other,
each followed by a newline.
-/
namespace ContinuityOS.Library

section Utf8

def encodeUtf8 (text : List Char) : List UInt8 := text.flatMap String.utf8EncodeChar

def decodeUtf8 (bytes : List UInt8) : Option (List Char) :=
  bytes.toByteArray.utf8Decode?.map Array.toList

theorem decodeUtf8_encodeUtf8 (text : List Char) : decodeUtf8 (encodeUtf8 text) = some text := by
  have h : (encodeUtf8 text).toByteArray.utf8Decode? = some text.toArray :=
    List.utf8Decode?_utf8Encode
  rw [decodeUtf8, h]
  rfl

theorem encodeUtf8_injective : Function.Injective encodeUtf8 := by
  intro a b h
  have hdecoded := congrArg decodeUtf8 h
  rw [decodeUtf8_encodeUtf8, decodeUtf8_encodeUtf8, Option.some.injEq] at hdecoded
  exact hdecoded

theorem encodeUtf8_append (a b : List Char) :
    encodeUtf8 (a ++ b) = encodeUtf8 a ++ encodeUtf8 b := List.flatMap_append

theorem encodeUtf8_cons (c : Char) (text : List Char) :
    encodeUtf8 (c :: text) = String.utf8EncodeChar c ++ encodeUtf8 text := rfl

theorem encodeUtf8_length_le (text : List Char) : (encodeUtf8 text).length ≤ 4 * text.length := by
  induction text with
  | nil => exact le_refl 0
  | cons c text ih =>
    have hc : (String.utf8EncodeChar c).length ≤ 4 := by
      rw [String.length_utf8EncodeChar]
      exact c.utf8Size_le_four
    rw [encodeUtf8_cons, List.length_append, List.length_cons]
    omega

theorem length_le_encodeUtf8 (text : List Char) : text.length ≤ (encodeUtf8 text).length := by
  induction text with
  | nil => exact le_refl 0
  | cons c text ih =>
    have hc : 0 < (String.utf8EncodeChar c).length := by
      rw [String.length_utf8EncodeChar]
      exact c.utf8Size_pos
    rw [encodeUtf8_cons, List.length_append, List.length_cons]
    omega

theorem encodeUtf8_ascii {text : List Char} (h : ∀ c ∈ text, c.toNat < 128) :
    encodeUtf8 text = text.map fun c => UInt8.ofNat c.toNat := by
  induction text with
  | nil => rfl
  | cons c text ih =>
    rw [List.forall_mem_cons] at h
    have hsize : c.utf8Size = 1 :=
      Char.utf8Size_eq_one_iff.mpr (UInt32.le_iff_toNat_le.mpr (Nat.le_of_lt_succ h.1))
    have hc : String.utf8EncodeChar c = [UInt8.ofNat c.toNat] := String.utf8EncodeChar_eq_singleton hsize
    rw [encodeUtf8_cons, hc, ih h.2]
    rfl

theorem encodeUtf8_newline : encodeUtf8 ['\n'] = [10] := by decide

/-- The newline byte encodes nothing but a newline. -/
theorem newline_not_mem_encodeChar {c : Char} (h : c ≠ '\n') :
    (10 : UInt8) ∉ String.utf8EncodeChar c := by
  have hval : c.val.toNat ≠ 10 := by
    intro hc
    apply h
    apply Char.ext
    exact UInt32.toNat_inj.mp hc
  have hbyte : ∀ n : ℕ, (10 : UInt8) = UInt8.ofNat n → n % 256 = 10 := by
    intro n hn
    have hnat := congrArg UInt8.toNat hn
    simpa using hnat.symm
  intro hmem
  simp only [String.utf8EncodeChar] at hmem
  split_ifs at hmem <;> simp only [List.mem_cons, List.not_mem_nil, or_false] at hmem
  · have := hbyte _ hmem
    omega
  · rcases hmem with hm | hm <;> have := hbyte _ hm <;> omega
  · rcases hmem with hm | hm | hm <;> have := hbyte _ hm <;> omega
  · rcases hmem with hm | hm | hm | hm <;> have := hbyte _ hm <;> omega

theorem newline_not_mem_encodeUtf8 {text : List Char} (h : '\n' ∉ text) :
    (10 : UInt8) ∉ encodeUtf8 text := by
  intro hmem
  obtain ⟨c, hc, hbyte⟩ := List.mem_flatMap.mp hmem
  exact newline_not_mem_encodeChar (fun he => h (he ▸ hc)) hbyte

theorem encodeUtf8_of_decodeUtf8 {bytes : List UInt8} {text : List Char}
    (h : decodeUtf8 bytes = some text) : encodeUtf8 text = bytes := by
  obtain ⟨chars, hchars, rfl⟩ := Option.map_eq_some_iff.mp h
  have hsome : bytes.toByteArray.utf8Decode?.isSome = true := by rw [hchars, Option.isSome_some]
  have hbytes : (bytes.toByteArray.utf8Decode?.get hsome).toList.utf8Encode = bytes.toByteArray :=
    ByteArray.utf8Encode_get_utf8Decode?
  simp only [hchars, Option.get_some] at hbytes
  have hdata := congrArg (fun b : ByteArray => b.data.toList) hbytes
  simpa [List.utf8Encode, encodeUtf8] using hdata

/-- A text whose encoding ends that of another is cut off the end of it: no character
starts inside another's bytes. -/
theorem encodeUtf8_suffix {text rest : List Char} {bytes : List UInt8}
    (h : encodeUtf8 text = bytes ++ encodeUtf8 rest) : ∃ front, text = front ++ rest := by
  induction text generalizing bytes with
  | nil =>
    have hrest : encodeUtf8 rest = encodeUtf8 [] := (List.append_eq_nil_iff.mp h.symm).2
    exact ⟨[], (encodeUtf8_injective hrest).symm⟩
  | cons c text ih =>
    rw [encodeUtf8_cons] at h
    by_cases hlen : (String.utf8EncodeChar c).length ≤ bytes.length
    · obtain ⟨after, rfl⟩ : String.utf8EncodeChar c <+: bytes :=
        List.prefix_of_prefix_length_le (h ▸ List.prefix_append _ _) (List.prefix_append _ _) hlen
      rw [List.append_assoc] at h
      obtain ⟨front, rfl⟩ := ih (List.append_cancel_left h)
      exact ⟨c :: front, rfl⟩
    · cases rest with
      | nil => exact ⟨c :: text, (List.append_nil _).symm⟩
      | cons d rest =>
        cases bytes with
        | nil => exact ⟨[], encodeUtf8_injective h⟩
        | cons b bytes =>
          -- the first byte of `d` would be a later byte of `c`
          have hlast : (b :: bytes).length < (String.utf8EncodeChar c).length := not_le.mp hlen
          have hfirst : 0 < (String.utf8EncodeChar d).length := by
            rw [String.length_utf8EncodeChar]
            exact d.utf8Size_pos
          have hsame := congrArg (fun l : List UInt8 => l[(b :: bytes).length]?) h
          rw [encodeUtf8_cons, List.getElem?_append_left hlast,
            List.getElem?_append_right (le_refl _), Nat.sub_self,
            List.getElem?_append_left hfirst, List.getElem?_eq_getElem hlast,
            List.getElem?_eq_getElem hfirst, Option.some.injEq] at hsame
          have hstart : (String.utf8EncodeChar c)[(b :: bytes).length].IsUTF8FirstByte := by
            rw [hsame, UInt8.isUTF8FirstByte_getElem_utf8EncodeChar]
          cases UInt8.isUTF8FirstByte_getElem_utf8EncodeChar.mp hstart

end Utf8

section Strip

/-- The characters that stripping a string removes. -/
def isStripped (c : Char) : Bool :=
  (9 ≤ c.toNat && c.toNat ≤ 13) || (28 ≤ c.toNat && c.toNat ≤ 32) || c.toNat = 0x85 ||
    c.toNat = 0xA0 || c.toNat = 0x1680 || (0x2000 ≤ c.toNat && c.toNat ≤ 0x200A) ||
    c.toNat = 0x2028 || c.toNat = 0x2029 || c.toNat = 0x202F || c.toNat = 0x205F ||
    c.toNat = 0x3000

/-- A text without the white space at either end. -/
def strip (text : List Char) : List Char := text.rdropWhile isStripped |>.dropWhile isStripped

end Strip

section Split
variable {α : Type*} [DecidableEq α]

/-- The pieces between separators; one more than there are separators. -/
def splitOn (sep : α) : List α → List (List α)
  | [] => [[]]
  | a :: l =>
    if a = sep then [] :: splitOn sep l
    else
      match splitOn sep l with
      | [] => [[a]]
      | piece :: pieces => (a :: piece) :: pieces

theorem splitOn_ne_nil (sep : α) (l : List α) : splitOn sep l ≠ [] := by
  cases l with
  | nil => simp [splitOn]
  | cons a l =>
    rw [splitOn]
    split_ifs
    · simp
    · split <;> simp

theorem splitOn_of_not_mem {sep : α} {l : List α} (h : sep ∉ l) : splitOn sep l = [l] := by
  induction l with
  | nil => rfl
  | cons a l ih =>
    rw [List.mem_cons, not_or] at h
    rw [splitOn, if_neg (Ne.symm h.1), ih h.2]

omit [DecidableEq α] in
/-- A text without the separator before the first one is determined by the whole. -/
theorem append_separator_inj {sep : α} {l m r t : List α} (hl : sep ∉ l) (hm : sep ∉ m)
    (h : l ++ sep :: r = m ++ sep :: t) : l = m ∧ r = t := by
  induction l generalizing m with
  | nil =>
    cases m with
    | nil => exact ⟨rfl, (List.cons.inj h).2⟩
    | cons b m => exact absurd ((List.cons.inj h).1 ▸ List.mem_cons_self) hm
  | cons a l ih =>
    cases m with
    | nil => exact absurd ((List.cons.inj h).1 ▸ List.mem_cons_self) hl
    | cons b m =>
      rw [List.mem_cons, not_or] at hl hm
      obtain ⟨hhead, htail⟩ := List.cons.inj h
      obtain ⟨hrest, hafter⟩ := ih hl.2 hm.2 htail
      exact ⟨by rw [hhead, hrest], hafter⟩

/-- The same for texts joined by a separator of one character. -/
theorem joined_inj {sep left left' right right' : String} {c : Char} (hsep : sep.toList = [c])
    (hl : c ∉ left.toList) (hl' : c ∉ left'.toList)
    (h : left ++ sep ++ right = left' ++ sep ++ right') : left = left' ∧ right = right' := by
  have hlist := congrArg String.toList h
  simp only [String.toList_append, List.append_assoc, hsep, List.singleton_append] at hlist
  obtain ⟨hleft, hright⟩ := append_separator_inj hl hl' hlist
  exact ⟨String.toList_inj.mp hleft, String.toList_inj.mp hright⟩

theorem splitOn_append (sep : α) (l m : List α) :
    splitOn sep (l ++ sep :: m) = splitOn sep l ++ splitOn sep m := by
  induction l with
  | nil => simp [splitOn]
  | cons a l ih =>
    rw [List.cons_append, splitOn, splitOn]
    split_ifs
    · rw [ih]
      rfl
    · rw [ih]
      cases hs : splitOn sep l with
      | nil => exact absurd hs (splitOn_ne_nil sep l)
      | cons piece pieces => rfl

end Split

section Lines

/-- The characters at which `splitlines` ends a line. -/
def lineBoundaries : List Char :=
  ['\n', '\r', '\x0b', '\x0c', '\x1c', '\x1d', '\x1e', '\u0085', '\u2028', '\u2029']

/-- The lines of a text without their ends; a carriage return and newline end one line. -/
def splitlines : List Char → List (List Char)
  | [] => []
  | '\r' :: '\n' :: text => [] :: splitlines text
  | c :: text =>
    if c ∈ lineBoundaries then [] :: splitlines text
    else
      match splitlines text with
      | [] => [[c]]
      | line :: lines => (c :: line) :: lines

/-- What reading in text mode does to line ends. -/
def universalNewlines : List Char → List Char
  | [] => []
  | '\r' :: '\n' :: text => '\n' :: universalNewlines text
  | c :: text => (if c = '\r' then '\n' else c) :: universalNewlines text

theorem universalNewlines_cons {c : Char} (hc : c ≠ '\r') (text : List Char) :
    universalNewlines (c :: text) = c :: universalNewlines text := by
  rw [universalNewlines]
  · rw [if_neg hc]
  · intro rest hr _
    exact hc hr

theorem universalNewlines_eq {text : List Char} (h : '\r' ∉ text) :
    universalNewlines text = text := by
  induction text with
  | nil => rfl
  | cons c text ih =>
    rw [List.mem_cons, not_or] at h
    rw [universalNewlines_cons (Ne.symm h.1), ih h.2]

theorem splitlines_newline (text : List Char) :
    splitlines ('\n' :: text) = [] :: splitlines text := by
  rw [splitlines]
  · rw [if_pos (by decide)]
  · intro rest hr _
    exact absurd hr (by decide)

theorem splitlines_cons {c : Char} (hc : c ∉ lineBoundaries) (text : List Char) :
    splitlines (c :: text) = match splitlines text with
      | [] => [[c]]
      | line :: lines => (c :: line) :: lines := by
  rw [splitlines]
  · rw [if_neg hc]
  · intro rest hr _
    exact hc (hr ▸ by decide)

theorem splitlines_line {line : List Char} (h : ∀ c ∈ line, c ∉ lineBoundaries) (text : List Char) :
    splitlines (line ++ '\n' :: text) = line :: splitlines text := by
  induction line with
  | nil => exact splitlines_newline text
  | cons c line ih =>
    rw [List.cons_append, splitlines_cons (h c List.mem_cons_self),
      ih fun d hd => h d (List.mem_cons_of_mem c hd)]

/-- Lines written one after the other, each ended by a newline. -/
def joinLines (lines : List (List Char)) : List Char := lines.flatMap fun line => line ++ ['\n']

theorem splitlines_joinLines {lines : List (List Char)}
    (h : ∀ line ∈ lines, ∀ c ∈ line, c ∉ lineBoundaries) : splitlines (joinLines lines) = lines := by
  induction lines with
  | nil => rfl
  | cons line lines ih =>
    have hsplit : joinLines (line :: lines) = line ++ '\n' :: joinLines lines := by
      simp [joinLines]
    rw [hsplit, splitlines_line (h line List.mem_cons_self),
      ih fun l hl => h l (List.mem_cons_of_mem line hl)]

end Lines

end ContinuityOS.Library
