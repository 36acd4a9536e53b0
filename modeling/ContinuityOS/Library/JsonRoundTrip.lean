import ContinuityOS.Library.JsonRead
import ContinuityOS.Library.JsonText
import Mathlib.Data.List.TakeWhile

/-! # What is written is read back

A style of writing says how characters are escaped and which blanks follow commas and colons.
Whatever the style, the reader gets back every value whose dictionaries have distinct keys and
whose literals are those of numbers, whatever stands behind it that no number goes on with.
-/
namespace ContinuityOS.Library.Json

/-- Text that does not continue a number. -/
def Ends (rest : List Char) : Prop :=
  ∀ c ∈ rest.head?, c.isDigit = false ∧ c ∉ ['.', 'e', 'E', '+', '-']

theorem ends_nil : Ends [] := fun _ h => nomatch h

theorem ends_cons {c : Char} {rest : List Char} (hdigit : c.isDigit = false)
    (h : c ∉ ['.', 'e', 'E', '+', '-']) : Ends (c :: rest) := by
  intro d hd
  rw [List.head?_cons, Option.mem_some_iff] at hd
  exact hd ▸ ⟨hdigit, h⟩

section Numbers
variable {rest : List Char}

theorem span_append (hends : Ends rest) (text : List Char) :
    (text ++ rest).span Char.isDigit =
      ((text.span Char.isDigit).1, (text.span Char.isDigit).2 ++ rest) := by
  simp only [List.span_eq_takeWhile_dropWhile]
  induction text with
  | nil =>
    cases rest with
    | nil => rfl
    | cons c rest =>
      have hc := (hends c rfl).1
      simp [hc]
  | cons c text ih =>
    cases hc : c.isDigit with
    | true => simpa [hc] using ih
    | false => simp [hc]

theorem optionalDigits_append (hends : Ends rest) (lead text : List Char) :
    optionalDigits lead (text ++ rest) =
      ((optionalDigits lead text).1, (optionalDigits lead text).2 ++ rest) := by
  unfold optionalDigits
  rw [span_append hends]
  rcases text.span Char.isDigit with ⟨digits, left⟩
  cases digits with
  | nil => simp
  | cons d digits => rfl

theorem fraction_append (hends : Ends rest) (text : List Char) :
    fraction (text ++ rest) = ((fraction text).1, (fraction text).2 ++ rest) := by
  have hother : ∀ {l : List Char}, l.head? ≠ some '.' → fraction l = ([], l) := by
    intro l hl
    unfold fraction
    split
    · exact absurd rfl hl
    · rfl
  cases text with
  | nil =>
    rw [List.nil_append, hother, hother]
    · rfl
    · simp
    · intro hdot
      have hc := (hends '.' hdot).2
      simp at hc
  | cons c text =>
    by_cases hc : c = '.'
    · rw [hc]
      exact optionalDigits_append hends ['.'] text
    · rw [List.cons_append, hother (by simpa using hc), hother (by simpa using hc)]
      rfl

theorem exponentSign_other {e : Char} {l : List Char} (hplus : l.head? ≠ some '+')
    (hminus : l.head? ≠ some '-') : exponentSign e l = optionalDigits [e] l := by
  unfold exponentSign
  split
  · exact absurd rfl hplus
  · exact absurd rfl hminus
  · rfl

theorem exponentSign_append (hends : Ends rest) (e : Char) (text : List Char) :
    exponentSign e (text ++ rest) =
      ((exponentSign e text).1, (exponentSign e text).2 ++ rest) := by
  cases text with
  | nil =>
    have hhead : ∀ c ∈ ['+', '-'], rest.head? ≠ some c := by
      intro c hc hrest
      have hnot := (hends c hrest).2
      simp only [List.mem_cons, List.not_mem_nil, or_false, not_or] at hc hnot
      rcases hc with rfl | rfl
      · exact hnot.2.2.2.1 rfl
      · exact hnot.2.2.2.2 rfl
    rw [List.nil_append, exponentSign_other (hhead '+' (by simp)) (hhead '-' (by simp)),
      exponentSign_other (by simp) (by simp)]
    exact optionalDigits_append hends [e] []
  | cons c text =>
    by_cases hplus : c = '+'
    · rw [hplus]
      exact optionalDigits_append hends [e, '+'] text
    · by_cases hminus : c = '-'
      · rw [hminus]
        exact optionalDigits_append hends [e, '-'] text
      · rw [List.cons_append, exponentSign_other (by simpa using hplus) (by simpa using hminus),
          exponentSign_other (by simpa using hplus) (by simpa using hminus)]
        exact optionalDigits_append hends [e] (c :: text)

theorem exponent_append (hends : Ends rest) (text : List Char) :
    exponent (text ++ rest) = ((exponent text).1, (exponent text).2 ++ rest) := by
  cases text with
  | nil =>
    cases rest with
    | nil => rfl
    | cons c rest =>
      have hc := (hends c rfl).2
      simp only [List.mem_cons, List.not_mem_nil, or_false, not_or] at hc
      simp [exponent, hc]
  | cons c text =>
    rw [List.cons_append, exponent, exponent]
    split_ifs
    · exact exponentSign_append hends c text
    · rfl

theorem integerPart_append (hends : Ends rest) {text digits left : List Char}
    (h : integerPart text = some (digits, left)) :
    integerPart (text ++ rest) = some (digits, left ++ rest) := by
  have hother : ∀ {l : List Char}, l.head? ≠ some '0' → integerPart l =
      if (l.span Char.isDigit).1 = [] then none else some (l.span Char.isDigit) := by
    intro l hl
    unfold integerPart
    split
    · exact absurd rfl hl
    · generalize l.span Char.isDigit = read
      obtain ⟨found, after⟩ := read
      cases found <;> rfl
  cases text with
  | nil => cases h
  | cons c text =>
    by_cases hc : c = '0'
    · rw [hc] at h ⊢
      cases h
      rfl
    · rw [hother (by simpa using hc)] at h
      rw [hother (by simpa using hc), span_append hends]
      generalize (c :: text).span Char.isDigit = read at h
      obtain ⟨found, after⟩ := read
      cases found with
      | nil => cases h
      | cons d found =>
        rw [if_neg (List.cons_ne_nil _ _)] at h ⊢
        cases h
        rfl

theorem signPart_append {text : List Char} (hne : text ≠ []) :
    signPart (text ++ rest) = ((signPart text).1, (signPart text).2 ++ rest) := by
  obtain ⟨c, text, rfl⟩ := List.exists_cons_of_ne_nil hne
  by_cases hc : c = '-'
  · rw [hc]
    rfl
  · have hother : ∀ l : List Char, signPart (c :: l) = ([], c :: l) := by
      intro l
      unfold signPart
      split
      · next heq => exact absurd (List.cons.inj heq).1 hc
      · rfl
    rw [List.cons_append, hother, hother]
    rfl

/-- A number is read the same way whatever ends it. -/
theorem readNumber_append (hends : Ends rest) {text left : List Char} {value : Json}
    (h : readNumber text = some (value, left)) :
    readNumber (text ++ rest) = some (value, left ++ rest) := by
  have hne : text ≠ [] := by
    rintro rfl
    cases h
  rw [readNumber, Option.map_eq_some_iff] at h
  obtain ⟨⟨digits, after⟩, hinteger, hread⟩ := h
  rw [Prod.mk.injEq] at hread
  rw [readNumber, signPart_append hne, integerPart_append hends hinteger, Option.map_some]
  simp only [fraction_append hends, exponent_append hends]
  rw [← hread.1, ← hread.2]

theorem head_toDigits {n : ℕ} (h : n ≠ 0) : (Nat.toDigits 10 n).head? ≠ some '0' := by
  induction n using Nat.strong_induction_on with
  | _ n ih =>
    rcases Nat.lt_or_ge n 10 with hlow | hhigh
    · rw [Nat.toDigits_of_lt_base hlow]
      interval_cases n
      · exact absurd rfl h
      all_goals decide
    · have hquotient : n / 10 ≠ 0 := by omega
      rw [Nat.toDigits_of_base_le (by omega) hhigh,
        List.head?_append_of_ne_nil _ Nat.toDigits_ne_nil]
      exact ih (n / 10) (by omega) hquotient

theorem integerPart_toDigits (n : ℕ) :
    integerPart (Nat.toDigits 10 n) = some (Nat.toDigits 10 n, []) := by
  by_cases hn : n = 0
  · rw [hn]
    rfl
  · have hdigits : ∀ c ∈ Nat.toDigits 10 n, c.isDigit = true := fun c hc =>
      Nat.isDigit_of_mem_toDigits (by omega) (by omega) hc
    have hspan : (Nat.toDigits 10 n).span Char.isDigit = (Nat.toDigits 10 n, []) := by
      rw [List.span_eq_takeWhile_dropWhile, List.takeWhile_eq_self_iff.mpr hdigits,
        List.dropWhile_eq_nil_iff.mpr hdigits]
    have hhead := head_toDigits hn
    have hne : Nat.toDigits 10 n ≠ [] := Nat.toDigits_ne_nil
    generalize Nat.toDigits 10 n = digits at *
    unfold integerPart
    split
    · exact absurd rfl hhead
    · rw [hspan]
      cases digits with
      | nil => exact absurd rfl hne
      | cons d digits => rfl

theorem readNumber_nat (n : ℕ) : readNumber (toString n).toList = some (.int n, []) := by
  have hsign : signPart (Nat.toDigits 10 n) = ([], Nat.toDigits 10 n) := by
    unfold signPart
    split
    · next text heq =>
      have hminus : '-' ∈ Nat.toDigits 10 n := by
        rw [heq]
        exact List.mem_cons_self
      exact absurd (Nat.isDigit_of_mem_toDigits (by omega) (by omega) hminus) (by decide)
    · rfl
  rw [Nat.toString_eq_repr, Nat.toList_repr, readNumber, hsign, integerPart_toDigits]
  simp [numeral, integerOf, fraction, exponent, Nat.ofDigitChars_ten_toDigits]

theorem readNumber_negative (n : ℕ) :
    readNumber ('-' :: (toString n).toList) = some (.int (-n), []) := by
  rw [Nat.toString_eq_repr, Nat.toList_repr, readNumber, signPart, integerPart_toDigits]
  simp [numeral, integerOf, fraction, exponent, Nat.ofDigitChars_ten_toDigits]

theorem readNumber_int (n : ℤ) : readNumber (toString n).toList = some (.int n, []) := by
  rw [Int.toString_eq_repr, Int.repr_eq_if]
  split_ifs with hn
  · have hread := readNumber_nat n.toNat
    rwa [Nat.toString_eq_repr, Int.toNat_of_nonneg hn] at hread
  · have hread := readNumber_negative (-n).toNat
    rw [Nat.toString_eq_repr, Int.toNat_of_nonneg (by omega), neg_neg] at hread
    rw [String.toList_append]
    exact hread

end Numbers

section Strings

theorem hexDigit_digitChar {k : ℕ} (h : k < 16) : hexDigit (Nat.digitChar k) = some k := by
  have hall : ∀ k < 16, hexDigit (Nat.digitChar k) = some k := by decide
  exact hall k h

/-- A unit is read from its four digits. -/
theorem hexUnit_digits {n : ℕ} (h : n < 65536) (rest : List Char) :
    hexUnit (([n / 4096 % 16, n / 256 % 16, n / 16 % 16, n % 16].map Nat.digitChar) ++ rest) =
      some (n, rest) := by
  have hdigit : ∀ k : ℕ, hexDigit (Nat.digitChar (k % 16)) = some (k % 16) := fun k =>
    hexDigit_digitChar (Nat.mod_lt k (by omega))
  simp only [List.map_cons, List.map_nil, List.cons_append, List.nil_append, hexUnit, hdigit,
    Option.bind_eq_bind, Option.bind_some, Option.pure_def, Option.some.injEq, Prod.mk.injEq,
    and_true]
  omega

theorem nextChar_escapeUnit (n : ℕ) (rest : List Char) :
    nextChar (escapeUnit n ++ rest) = unicodeEscape
      (([n / 4096 % 16, n / 256 % 16, n / 16 % 16, n % 16].map Nat.digitChar) ++ rest) := rfl

theorem isSurrogate_or (c : Char) : c.toNat < 0xd800 ∨ 0xe000 ≤ c.toNat ∧ c.toNat < 0x110000 := by
  have h := c.valid
  change c.toNat < 0xd800 ∨ 0xdfff < c.toNat ∧ c.toNat < 0x110000 at h
  omega

theorem nextChar_unit {c : Char} (h : c.toNat < 0x10000) (rest : List Char) :
    nextChar (escapeUnit c.toNat ++ rest) = some (c, rest) := by
  have hrange := isSurrogate_or c
  rw [nextChar_escapeUnit, unicodeEscape, hexUnit_digits h]
  simp only [Option.bind_eq_bind, Option.bind_some]
  rw [if_neg (by omega), if_neg (by omega), Char.ofNat_toNat]
  rfl

theorem nextChar_pair {high low : ℕ} (hhigh : 0xd800 ≤ high ∧ high < 0xdc00)
    (hlow : 0xdc00 ≤ low ∧ low < 0xe000) (rest : List Char) :
    nextChar (escapeUnit high ++ escapeUnit low ++ rest) =
      some (Char.ofNat (0x10000 + (high - 0xd800) * 1024 + (low - 0xdc00)), rest) := by
  have hsecond : secondHalf high (escapeUnit low ++ rest) =
      some (Char.ofNat (0x10000 + (high - 0xd800) * 1024 + (low - 0xdc00)), rest) := by
    rw [escapeUnit, List.cons_append, List.cons_append, secondHalf,
      hexUnit_digits (by omega) rest]
    simp only [Option.bind_eq_bind, Option.bind_some]
    rw [if_pos hlow]
    rfl
  rw [List.append_assoc, nextChar_escapeUnit, unicodeEscape, hexUnit_digits (by omega)]
  simp only [Option.bind_eq_bind, Option.bind_some]
  rw [if_pos hhigh, hsecond]

/-- A character beyond 16 bits is read from its two halves. -/
theorem nextChar_halves {c : Char} (h : 0x10000 ≤ c.toNat) (rest : List Char) :
    nextChar (escapeUnit (0xd800 + (c.toNat - 0x10000) / 1024) ++
      escapeUnit (0xdc00 + (c.toNat - 0x10000) % 1024) ++ rest) = some (c, rest) := by
  have hrange := isSurrogate_or c
  have hcode : 0x10000 + (0xd800 + (c.toNat - 0x10000) / 1024 - 0xd800) * 1024 +
      (0xdc00 + (c.toNat - 0x10000) % 1024 - 0xdc00) = c.toNat := by omega
  rw [nextChar_pair (by omega) (by omega), hcode, Char.ofNat_toNat]

theorem nextChar_plain {c : Char} (hslash : c ≠ '\\') (hquote : c ≠ '"') (hlow : ¬ c < ' ')
    (rest : List Char) : nextChar (c :: rest) = some (c, rest) := by
  rw [nextChar.eq_def]
  simp only [hslash, if_false, not_or.mpr ⟨hquote, hlow⟩]

theorem nextChar_escapeAscii (c : Char) (rest : List Char) :
    nextChar (escapeAscii c ++ rest) = some (c, rest) := by
  unfold escapeAscii
  split_ifs with hquote hslash hnewline hreturn htab hform hback hplain hunit
  · rw [hquote]; rfl
  · rw [hslash]; rfl
  · rw [hnewline]; rfl
  · rw [hreturn]; rfl
  · rw [htab]; rfl
  · rw [hform]; rfl
  · rw [hback]; rfl
  · exact nextChar_plain hslash hquote (not_lt.mpr hplain.1) rest
  · exact nextChar_unit hunit rest
  · exact nextChar_halves (not_lt.mp hunit) rest

/-- Characters are read up to the closing quote, when each is read from its escape. -/
theorem characters_flatMap {escaped : Char → List Char}
    (h : ∀ c rest, nextChar (escaped c ++ rest) = some (c, rest)) (cs rest : List Char) {fuel : ℕ}
    (hfuel : cs.length < fuel) :
    characters fuel (cs.flatMap escaped ++ '"' :: rest) = some (cs, rest) := by
  induction cs generalizing fuel with
  | nil =>
    obtain ⟨fuel, rfl⟩ := Nat.exists_eq_add_of_lt hfuel
    rfl
  | cons c cs ih =>
    obtain ⟨fuel, rfl⟩ : ∃ n, fuel = n + 1 := Nat.exists_eq_succ_of_ne_zero (by omega)
    rw [List.length_cons] at hfuel
    have hnext := h c (cs.flatMap escaped ++ '"' :: rest)
    have hhead : (escaped c ++ (cs.flatMap escaped ++ '"' :: rest)).head? ≠ some '"' := by
      intro hquote
      obtain ⟨tail, htail⟩ := List.head?_eq_some_iff.mp hquote
      rw [htail] at hnext
      cases hnext
    rw [List.flatMap_cons, List.append_assoc, characters, if_neg hhead, hnext]
    simp only [Option.bind_eq_bind, Option.bind_some]
    rw [ih (by omega)]
    rfl

end Strings

/-- How characters are escaped, and the blanks behind commas and colons. -/
structure Style where
  escaped : Char → List Char
  comma : List Char
  colon : List Char
  read_escaped : ∀ c rest, nextChar (escaped c ++ rest) = some (c, rest)
  comma_blank : ∀ c ∈ comma, isBlank c
  colon_blank : ∀ c ∈ colon, isBlank c

theorem isBlank_of_mem_nil : ∀ c ∈ ([] : List Char), isBlank c := List.forall_mem_nil _

theorem isBlank_of_mem_space : ∀ c ∈ [' '], isBlank c := List.forall_mem_singleton.mpr rfl

namespace Style

/-- The style of `dumpsDefault`. -/
def default : Style where
  escaped := escapeAscii
  comma := [' ']
  colon := [' ']
  read_escaped := nextChar_escapeAscii
  comma_blank := isBlank_of_mem_space
  colon_blank := isBlank_of_mem_space

/-- Basic letters without blanks. -/
def compactAscii : Style where
  escaped := escapeAscii
  comma := []
  colon := []
  read_escaped := nextChar_escapeAscii
  comma_blank := isBlank_of_mem_nil
  colon_blank := isBlank_of_mem_nil

variable (style : Style)

def quoted (s : String) : List Char := '"' :: (s.toList.flatMap style.escaped ++ ['"'])

mutual
def write : Json → List Char
  | .null => "null".toList
  | .bool true => "true".toList
  | .bool false => "false".toList
  | .int n => (toString n).toList
  | .float literal => literal.toList
  | .string s => style.quoted s
  | .array items => '[' :: (writeItems items ++ [']'])
  | .object members => '\x7b' :: (writeMembers members ++ ['\x7d'])
def writeItems : List Json → List Char
  | [] => []
  | [item] => write item
  | item :: items => write item ++ ',' :: (style.comma ++ writeItems items)
def writeMembers : List (String × Json) → List Char
  | [] => []
  | [(key, value)] => style.quoted key ++ ':' :: (style.colon ++ write value)
  | (key, value) :: members => style.quoted key ++
    ':' :: (style.colon ++ (write value ++ ',' :: (style.comma ++ writeMembers members)))
end

end Style

mutual
theorem dumpsDefault_eq_write : ∀ j : Json, dumpsDefault j = Style.default.write j
  | .null | .bool true | .bool false | .int _ | .float _ | .string _ => rfl
  | .array items => by rw [dumpsDefault, Style.write, dumpsDefaultItems_eq_write items]
  | .object members => by rw [dumpsDefault, Style.write, dumpsDefaultMembers_eq_write members]
theorem dumpsDefaultItems_eq_write : ∀ items : List Json,
    dumpsDefaultItems items = Style.default.writeItems items
  | [] => rfl
  | [item] => dumpsDefault_eq_write item
  | item :: next :: items => by
    rw [dumpsDefaultItems, Style.writeItems, dumpsDefault_eq_write item,
      dumpsDefaultItems_eq_write (next :: items)]
    · rfl
    · exact List.cons_ne_nil _ _
    · exact List.cons_ne_nil _ _
theorem dumpsDefaultMembers_eq_write : ∀ members : List (String × Json),
    dumpsDefaultMembers members = Style.default.writeMembers members
  | [] => rfl
  | [(key, value)] => by
    rw [dumpsDefaultMembers, Style.writeMembers, dumpsDefault_eq_write value]
    rfl
  | (key, value) :: next :: members => by
    rw [dumpsDefaultMembers, Style.writeMembers, dumpsDefault_eq_write value,
      dumpsDefaultMembers_eq_write (next :: members)]
    · rfl
    · exact List.cons_ne_nil _ _
    · exact List.cons_ne_nil _ _
end

section Scalars
variable {text rest : List Char} {read : Json × List Char}

theorem exists_word (h : readWord text = some read) : ∃ word ∈ words, word.1.isPrefixOf text ∧
    read = (word.2, text.drop word.1.length) := by
  obtain ⟨word, hword, hread⟩ := List.exists_of_findSome?_eq_some h
  split_ifs at hread with hprefix
  cases hread
  exact ⟨word, hword, hprefix, rfl⟩

/-- Text that a value starts with, apart from strings, arrays and dictionaries. -/
def ScalarHead (text : List Char) : Prop :=
  ∃ c tail, text = c :: tail ∧ (c.isDigit = true ∨ c ∈ ['-', 'n', 't', 'f', 'N', 'I'])

theorem ScalarHead.append (h : ScalarHead text) (rest : List Char) : ScalarHead (text ++ rest) := by
  obtain ⟨c, tail, rfl, hc⟩ := h
  exact ⟨c, tail ++ rest, rfl, hc⟩

/-- Unsigned numbers start with a digit. -/
theorem head_integerPart {digits left : List Char} (h : integerPart text = some (digits, left)) :
    ∃ c tail, text = c :: tail ∧ c.isDigit = true := by
  unfold integerPart at h
  split at h
  · next tail => exact ⟨'0', tail, rfl, rfl⟩
  · cases text with
    | nil => cases h
    | cons c tail =>
      cases hc : c.isDigit with
      | true => exact ⟨c, tail, rfl, hc⟩
      | false =>
        rw [List.span_eq_takeWhile_dropWhile, List.takeWhile_cons_of_neg (by simp [hc])] at h
        cases h

theorem head_readNumber (h : readNumber text = some read) :
    ∃ tail, (∃ c, c.isDigit = true ∧ text = c :: tail) ∨
      ∃ c, c.isDigit = true ∧ text = '-' :: c :: tail := by
  rw [readNumber, Option.map_eq_some_iff] at h
  obtain ⟨⟨digits, left⟩, hinteger, -⟩ := h
  obtain ⟨c, tail, htext, hc⟩ := head_integerPart hinteger
  unfold signPart at htext
  split at htext
  · exact ⟨tail, Or.inr ⟨c, hc, congrArg (List.cons '-') htext⟩⟩
  · exact ⟨tail, Or.inl ⟨c, hc, htext⟩⟩

/-- No word is a number. -/
theorem readWord_of_readNumber (h : readNumber text = some read) : readWord text = none := by
  have hall : ∀ word ∈ words, ∃ c d tail, word.1 = c :: d :: tail ∧ c.isDigit = false ∧
      d.isDigit = false ∧ (c = '-' → d = 'I') := by
    simp only [words, List.forall_mem_cons, List.not_mem_nil, false_implies, implies_true, and_true]
    exact ⟨⟨'n', 'u', _, rfl, rfl, rfl, by decide⟩, ⟨'t', 'r', _, rfl, rfl, rfl, by decide⟩,
      ⟨'f', 'a', _, rfl, rfl, rfl, by decide⟩, ⟨'N', 'a', _, rfl, rfl, rfl, by decide⟩,
      ⟨'I', 'n', _, rfl, rfl, rfl, by decide⟩, ⟨'-', 'I', _, rfl, rfl, rfl, by decide⟩⟩
  cases hword : readWord text with
  | none => rfl
  | some found =>
    obtain ⟨word, hmem, hprefix, -⟩ := exists_word hword
    obtain ⟨c, d, tail, heq, hc, hd, -⟩ := hall word hmem
    obtain ⟨left, hleft⟩ := List.isPrefixOf_iff_prefix.mp hprefix
    rw [heq] at hleft
    obtain ⟨after, ⟨e, he, htext⟩ | ⟨e, he, htext⟩⟩ := head_readNumber h
    · rw [htext, List.cons_append, List.cons.injEq] at hleft
      rw [hleft.1, he] at hc
      cases hc
    · rw [htext, List.cons_append, List.cons_append, List.cons.injEq, List.cons.injEq] at hleft
      rw [hleft.2.1, he] at hd
      cases hd

theorem readScalar_of_readNumber (h : readNumber text = some read) :
    readScalar text = some read := by
  rw [readScalar, readWord_of_readNumber h]
  exact h

theorem scalarHead_of_readNumber (h : readNumber text = some read) : ScalarHead text := by
  obtain ⟨tail, ⟨c, hc, htext⟩ | ⟨c, hc, htext⟩⟩ := head_readNumber h
  · exact ⟨c, tail, htext, Or.inl hc⟩
  · exact ⟨'-', c :: tail, htext, Or.inr (by decide)⟩

theorem scalarHead_of_readWord (h : readWord text = some read) : ScalarHead text := by
  obtain ⟨word, hword, hprefix, -⟩ := exists_word h
  obtain ⟨left, rfl⟩ := List.isPrefixOf_iff_prefix.mp hprefix
  refine ScalarHead.append ?_ left
  have hall : ∀ word ∈ words, ScalarHead word.1 := by
    simp only [words, List.forall_mem_cons, List.not_mem_nil, false_implies, implies_true, and_true]
    exact ⟨⟨'n', _, rfl, by decide⟩, ⟨'t', _, rfl, by decide⟩, ⟨'f', _, rfl, by decide⟩,
      ⟨'N', _, rfl, by decide⟩, ⟨'I', _, rfl, by decide⟩, ⟨'-', _, rfl, by decide⟩⟩
  exact hall word hword

/-- A word is read whatever stands behind it. -/
theorem readWord_append {value : Json} (h : readWord text = some (value, [])) (rest : List Char) :
    readWord (text ++ rest) = some (value, rest) := by
  obtain ⟨word, hword, hprefix, hread⟩ := exists_word h
  obtain ⟨left, rfl⟩ := List.isPrefixOf_iff_prefix.mp hprefix
  rw [Prod.mk.injEq, List.drop_left] at hread
  obtain ⟨rfl, hleft⟩ := hread
  rw [← hleft, List.append_nil]
  simp only [words, List.mem_cons, List.not_mem_nil, or_false] at hword
  rcases hword with rfl | rfl | rfl | rfl | rfl | rfl <;> rfl

/-- The literal of a number: it is read as itself. -/
def isNumeral (literal : String) : Bool :=
  match readScalar literal.toList with
  | some (.float found, []) => found = literal
  | _ => false

theorem readScalar_of_isNumeral {literal : String} (h : isNumeral literal = true) :
    readScalar literal.toList = some (.float literal, []) := by
  unfold isNumeral at h
  split at h
  · next found heq =>
    rw [heq, of_decide_eq_true h]
  · cases h

theorem readScalar_append {value : Json} (h : readScalar text = some (value, []))
    (hends : Ends rest) : readScalar (text ++ rest) = some (value, rest) ∧ ScalarHead text := by
  rw [readScalar] at h
  cases hword : readWord text with
  | some found =>
    rw [hword] at h
    rw [show some found = some (value, []) from h] at hword
    rw [readScalar, readWord_append hword rest]
    exact ⟨rfl, scalarHead_of_readWord hword⟩
  | none =>
    rw [hword] at h
    exact ⟨readScalar_of_readNumber (readNumber_append hends h), scalarHead_of_readNumber h⟩

end Scalars

mutual
/-- Literals are those of numbers, and dictionaries have distinct keys. -/
def proper : Json → Bool
  | .float literal => isNumeral literal
  | .array items => properItems items
  | .object members => decide (members.map Prod.fst).Nodup && properMembers members
  | _ => true
def properItems : List Json → Bool
  | [] => true
  | item :: items => proper item && properItems items
def properMembers : List (String × Json) → Bool
  | [] => true
  | (_, value) :: members => proper value && properMembers members
end

section Tokens
variable {text rest : List Char}

theorem skipBlanks_cons {c : Char} (h : isBlank c = false) (text : List Char) :
    skipBlanks (c :: text) = c :: text := List.dropWhile_cons_of_neg (by simp [h])

theorem skipBlanks_append {blanks : List Char} (h : ∀ c ∈ blanks, isBlank c) (text : List Char) :
    skipBlanks (blanks ++ text) = skipBlanks text := by
  induction blanks with
  | nil => rfl
  | cons c blanks ih =>
    rw [List.forall_mem_cons] at h
    rw [List.cons_append, skipBlanks, List.dropWhile_cons_of_pos h.1]
    exact ih h.2

theorem expect_cons (c : Char) (text : List Char) : expect c (c :: text) = some text := if_pos rfl

theorem expect_ne {c d : Char} (h : d ≠ c) (text : List Char) : expect c (d :: text) = none :=
  if_neg fun heq => h (Option.some.inj heq)

/-- A text that a value can start with: no blank and no bracket that closes. -/
def Opens (text : List Char) : Prop :=
  ∃ c tail, text = c :: tail ∧ isBlank c = false ∧ c ≠ ']' ∧ c ≠ '\x7d'

theorem Opens.append (h : Opens text) (rest : List Char) : Opens (text ++ rest) := by
  obtain ⟨c, tail, rfl, hc⟩ := h
  exact ⟨c, tail ++ rest, rfl, hc⟩

theorem Opens.skipBlanks (h : Opens text) : skipBlanks text = text := by
  obtain ⟨c, tail, rfl, hc, -⟩ := h
  exact skipBlanks_cons hc tail

theorem Opens.expect (h : Opens text) : expect ']' text = none ∧ expect '\x7d' text = none := by
  obtain ⟨c, tail, rfl, -, hbracket, hbrace⟩ := h
  exact ⟨expect_ne hbracket tail, expect_ne hbrace tail⟩

theorem ScalarHead.cases (h : ScalarHead text) :
    Opens text ∧ ∀ fuel, readValue (fuel + 1) text = readScalar text := by
  obtain ⟨c, tail, rfl, hc⟩ := h
  have hall : isBlank c = false ∧ c ≠ ']' ∧ c ≠ '\x7d' ∧ c ≠ '"' ∧ c ≠ '[' ∧ c ≠ '\x7b' := by
    rcases hc with hdigit | hmem
    · have hne : ∀ d : Char, d.isDigit = false → c ≠ d := by
        rintro d hd rfl
        rw [hd] at hdigit
        cases hdigit
      refine ⟨?_, hne _ rfl, hne _ rfl, hne _ rfl, hne _ rfl, hne _ rfl⟩
      simp [isBlank, hne ' ' rfl, hne '\t' rfl, hne '\n' rfl, hne '\r' rfl]
    · simp only [List.mem_cons, List.not_mem_nil, or_false] at hmem
      rcases hmem with rfl | rfl | rfl | rfl | rfl | rfl <;> decide
  obtain ⟨hblank, hbracket, hbrace, hquote, hopening, hdictionary⟩ := hall
  refine ⟨⟨c, tail, rfl, hblank, hbracket, hbrace⟩, fun fuel => ?_⟩
  rw [readValue, if_neg hquote, if_neg hopening, if_neg hdictionary]

end Tokens

section Values
variable (style : Style) {fuel : ℕ} {rest : List Char}

/-- What is written for a value that is neither a string, an array nor a dictionary. -/
theorem readValue_scalar {text : List Char} {value : Json} (h : readScalar text = some (value, []))
    (hfuel : 2 * text.length ≤ fuel) (hends : Ends rest) :
    readValue fuel (text ++ rest) = some (value, rest) := by
  obtain ⟨hread, hhead⟩ := readScalar_append h hends
  obtain ⟨c, tail, rfl, -⟩ := hhead
  rw [List.length_cons] at hfuel
  obtain ⟨fuel, rfl⟩ : ∃ n, fuel = n + 1 := Nat.exists_eq_succ_of_ne_zero (by omega)
  rw [((readScalar_append h hends).2.append rest).cases.2 fuel, hread]

theorem length_le_flatMap (s : List Char) : s.length ≤ (s.flatMap style.escaped).length := by
  induction s with
  | nil => exact le_refl 0
  | cons c s ih =>
    have hne : style.escaped c ≠ [] := by
      intro hnil
      have hread := style.read_escaped c []
      rw [hnil] at hread
      cases hread
    have hpos := List.length_pos_iff.mpr hne
    rw [List.flatMap_cons, List.length_append, List.length_cons]
    omega

theorem readString_quoted (s : String) (rest : List Char) :
    readString (s.toList.flatMap style.escaped ++ '"' :: rest) = some (s, rest) := by
  have hlength := length_le_flatMap style s.toList
  rw [readString, characters_flatMap style.read_escaped s.toList rest]
  · rw [Option.map_some, String.ofList_toList]
  · rw [List.length_append]
    omega

theorem quoted_append (s : String) (rest : List Char) : style.quoted s ++ rest =
    '"' :: (s.toList.flatMap style.escaped ++ '"' :: rest) := by
  rw [Style.quoted, List.cons_append, List.append_assoc]
  rfl

theorem ofMembers_nodup {members : List (String × Json)} (h : (members.map Prod.fst).Nodup) :
    ofMembers members = .object members := by
  have hfold : ∀ l done : List (String × Json), ((done ++ l).map Prod.fst).Nodup →
      l.foldl (fun l member => Bindings.assign l member.1 member.2) done = done ++ l := by
    intro l
    induction l with
    | nil => exact fun done _ => (List.append_nil done).symm
    | cons member l ih =>
      intro done hnodup
      have hnew : member.1 ∉ done.map Prod.fst := by
        rw [List.map_append, List.map_cons] at hnodup
        exact fun hmem => List.disjoint_of_nodup_append hnodup hmem List.mem_cons_self
      rw [List.foldl_cons, Bindings.assign_of_not_mem hnew, ih, List.append_assoc]
      · rfl
      · rwa [List.append_assoc]
  rw [ofMembers, hfold members [] h, List.nil_append]

/-- A value that is written opens its text. -/
theorem opens_write : ∀ j : Json, proper j = true → Opens (style.write j)
  | .null, _ => ⟨'n', _, rfl, by decide⟩
  | .bool true, _ => ⟨'t', _, rfl, by decide⟩
  | .bool false, _ => ⟨'f', _, rfl, by decide⟩
  | .int n, _ => (scalarHead_of_readNumber (readNumber_int n)).cases.1
  | .float _, h => (readScalar_append (readScalar_of_isNumeral h) ends_nil).2.cases.1
  | .string _, _ => ⟨'"', _, rfl, by decide⟩
  | .array _, _ => ⟨'[', _, rfl, by decide⟩
  | .object _, _ => ⟨'\x7b', _, rfl, by decide⟩

theorem opens_writeItems {item : Json} (items : List Json) (h : proper item = true) :
    Opens (style.writeItems (item :: items)) := by
  cases items with
  | nil => exact opens_write style item h
  | cons next items => exact (opens_write style item h).append _

theorem opens_writeMembers (member : String × Json) (members : List (String × Json)) :
    ∃ tail, style.writeMembers (member :: members) = '"' :: tail := by
  obtain ⟨key, value⟩ := member
  cases members with
  | nil => exact ⟨_, rfl⟩
  | cons next members => exact ⟨_, rfl⟩

mutual
/-- What is written for a value is read as the value, with fuel for the length of the text. -/
theorem readValue_write : ∀ (j : Json) {fuel : ℕ} {rest : List Char}, proper j = true →
    2 * (style.write j).length ≤ fuel → Ends rest →
      readValue fuel (style.write j ++ rest) = some (j, rest)
  | .null, _, _, _, hfuel, hends => readValue_scalar rfl hfuel hends
  | .bool true, _, _, _, hfuel, hends => readValue_scalar rfl hfuel hends
  | .bool false, _, _, _, hfuel, hends => readValue_scalar rfl hfuel hends
  | .int n, _, _, _, hfuel, hends =>
    readValue_scalar (readScalar_of_readNumber (readNumber_int n)) hfuel hends
  | .float _, _, _, h, hfuel, hends => readValue_scalar (readScalar_of_isNumeral h) hfuel hends
  | .string s, fuel, rest, _, hfuel, _ => by
    rw [Style.write, Style.quoted, List.length_cons] at hfuel
    obtain ⟨fuel, rfl⟩ : ∃ n, fuel = n + 1 := Nat.exists_eq_succ_of_ne_zero (by omega)
    rw [Style.write, quoted_append, readValue, if_pos rfl, readString_quoted]
    rfl
  | .array [], fuel, rest, _, hfuel, _ => by
    rw [Style.write, List.length_cons] at hfuel
    obtain ⟨fuel, rfl⟩ : ∃ n, fuel = n + 1 := Nat.exists_eq_succ_of_ne_zero (by omega)
    rfl
  | .array (item :: items), fuel, rest, h, hfuel, _ => by
    have hopens := opens_writeItems style items (Bool.and_eq_true_iff.mp h).1
    rw [Style.write, List.length_cons, List.length_append, List.length_singleton] at hfuel
    obtain ⟨fuel, rfl⟩ : ∃ n, fuel = n + 1 := Nat.exists_eq_succ_of_ne_zero (by omega)
    rw [Style.write, List.cons_append, List.append_assoc, List.singleton_append, readValue,
      if_neg (by decide), if_pos rfl, (hopens.append _).skipBlanks, (hopens.append _).expect.1]
    simp only
    rw [readItems_write (item :: items) h (List.cons_ne_nil _ _) (by omega)]
    rfl
  | .object [], fuel, rest, _, hfuel, _ => by
    rw [Style.write, List.length_cons] at hfuel
    obtain ⟨fuel, rfl⟩ : ∃ n, fuel = n + 1 := Nat.exists_eq_succ_of_ne_zero (by omega)
    rfl
  | .object (member :: members), fuel, rest, h, hfuel, _ => by
    obtain ⟨hnodup, hproper⟩ := Bool.and_eq_true_iff.mp h
    obtain ⟨tail, htail⟩ := opens_writeMembers style member members
    have hopens : Opens (style.writeMembers (member :: members)) := ⟨'"', tail, htail, by decide⟩
    rw [Style.write, List.length_cons, List.length_append, List.length_singleton] at hfuel
    obtain ⟨fuel, rfl⟩ : ∃ n, fuel = n + 1 := Nat.exists_eq_succ_of_ne_zero (by omega)
    rw [Style.write, List.cons_append, List.append_assoc, List.singleton_append, readValue,
      if_neg (by decide), if_neg (by decide), if_pos rfl, (hopens.append _).skipBlanks,
      (hopens.append _).expect.2]
    simp only
    rw [readMembers_write (member :: members) hproper (List.cons_ne_nil _ _) (by omega),
      Option.map_some, ofMembers_nodup (of_decide_eq_true hnodup)]
theorem readItems_write : ∀ (items : List Json) {fuel : ℕ} {rest : List Char},
    properItems items = true → items ≠ [] → 2 * (style.writeItems items).length + 1 ≤ fuel →
      readItems fuel (style.writeItems items ++ ']' :: rest) = some (items, rest)
  | [], _, _, _, hne, _ => absurd rfl hne
  | [item], fuel, rest, h, _, hfuel => by
    rw [Style.writeItems] at hfuel ⊢
    obtain ⟨fuel, rfl⟩ : ∃ n, fuel = n + 1 := Nat.exists_eq_succ_of_ne_zero (by omega)
    have hitem : readValue fuel (style.write item ++ ']' :: rest) = some (item, ']' :: rest) :=
      readValue_write item (Bool.and_eq_true_iff.mp h).1 (by omega) (ends_cons rfl (by decide))
    rw [readItems, hitem]
    rfl
  | item :: next :: items, fuel, rest, h, _, hfuel => by
    obtain ⟨hitem, hitems⟩ := Bool.and_eq_true_iff.mp h
    have hopens := opens_writeItems style items (Bool.and_eq_true_iff.mp hitems).1
    have hwrite : style.writeItems (item :: next :: items) = style.write item ++
        ',' :: (style.comma ++ style.writeItems (next :: items)) := rfl
    rw [hwrite, List.length_append, List.length_cons, List.length_append] at hfuel
    obtain ⟨fuel, rfl⟩ : ∃ n, fuel = n + 1 := Nat.exists_eq_succ_of_ne_zero (by omega)
    rw [hwrite, List.append_assoc, List.cons_append, List.append_assoc, readItems,
      readValue_write item hitem (by omega) (ends_cons rfl (by decide))]
    simp only [Option.bind_eq_bind, Option.bind_some]
    rw [skipBlanks_cons (by decide), expect_ne (by decide), expect_cons, Option.bind_some,
      skipBlanks_append style.comma_blank, (hopens.append _).skipBlanks,
      readItems_write (next :: items) hitems (List.cons_ne_nil _ _) (by omega)]
    rfl
theorem readMembers_write : ∀ (members : List (String × Json)) {fuel : ℕ} {rest : List Char},
    properMembers members = true → members ≠ [] →
      2 * (style.writeMembers members).length + 1 ≤ fuel →
      readMembers fuel (style.writeMembers members ++ '\x7d' :: rest) = some (members, rest)
  | [], _, _, _, hne, _ => absurd rfl hne
  | [(key, value)], fuel, rest, h, _, hfuel => by
    have hvalue := (Bool.and_eq_true_iff.mp h).1
    rw [Style.writeMembers, List.length_append, List.length_cons, List.length_append] at hfuel
    obtain ⟨fuel, rfl⟩ : ∃ n, fuel = n + 1 := Nat.exists_eq_succ_of_ne_zero (by omega)
    rw [Style.writeMembers, List.append_assoc, quoted_append, readMembers, expect_cons,
      Option.bind_some, readString_quoted]
    simp only [Option.bind_eq_bind, Option.bind_some, List.cons_append, List.append_assoc]
    rw [skipBlanks_cons (by decide), expect_cons, Option.bind_some,
      skipBlanks_append style.colon_blank, ((opens_write style value hvalue).append _).skipBlanks,
      readValue_write value hvalue (by omega) (ends_cons rfl (by decide))]
    rfl
  | (key, value) :: next :: members, fuel, rest, h, _, hfuel => by
    obtain ⟨hvalue, hmembers⟩ := Bool.and_eq_true_iff.mp h
    obtain ⟨tail, htail⟩ := opens_writeMembers style next members
    have hopens : Opens (style.writeMembers (next :: members)) := ⟨'"', tail, htail, by decide⟩
    have hwrite : style.writeMembers ((key, value) :: next :: members) = style.quoted key ++
        ':' :: (style.colon ++ (style.write value ++
          ',' :: (style.comma ++ style.writeMembers (next :: members)))) := rfl
    rw [hwrite, List.length_append, List.length_cons, List.length_append, List.length_append,
      List.length_cons, List.length_append] at hfuel
    obtain ⟨fuel, rfl⟩ : ∃ n, fuel = n + 1 := Nat.exists_eq_succ_of_ne_zero (by omega)
    rw [hwrite, List.append_assoc, quoted_append, readMembers, expect_cons, Option.bind_some,
      readString_quoted]
    simp only [Option.bind_eq_bind, Option.bind_some, List.cons_append, List.append_assoc]
    rw [skipBlanks_cons (by decide), expect_cons, Option.bind_some,
      skipBlanks_append style.colon_blank, ((opens_write style value hvalue).append _).skipBlanks,
      readValue_write value hvalue (by omega) (ends_cons rfl (by decide))]
    simp only [Option.bind_some]
    rw [skipBlanks_cons (by decide), expect_ne (by decide), expect_cons, Option.bind_some,
      skipBlanks_append style.comma_blank, (hopens.append _).skipBlanks,
      readMembers_write (next :: members) hmembers (List.cons_ne_nil _ _) (by omega)]
    rfl
end

/-- Every style of writing is read back. -/
theorem loads_write {j : Json} (h : proper j = true) : loads (style.write j) = some j := by
  have hread : readValue (2 * (style.write j).length) (style.write j ++ []) = some (j, []) :=
    readValue_write style j h (le_refl _) ends_nil
  rw [List.append_nil] at hread
  rw [loads, (opens_write style j h).skipBlanks, hread]
  rfl

end Values

theorem loads_dumpsDefault {j : Json} (h : proper j = true) : loads j.dumpsDefault = some j := by
  rw [dumpsDefault_eq_write]
  exact loads_write Style.default h

section SortKeys

theorem properMembers_iff {members : List (String × Json)} :
    properMembers members = true ↔ ∀ member ∈ members, proper member.2 = true := by
  induction members with
  | nil => simp [properMembers]
  | cons member members ih =>
    obtain ⟨key, value⟩ := member
    rw [properMembers, Bool.and_eq_true, ih, List.forall_mem_cons]

theorem proper_object_iff {members : List (String × Json)} :
    proper (.object members) = true ↔
      (members.map Prod.fst).Nodup ∧ ∀ member ∈ members, proper member.2 = true := by
  rw [proper, Bool.and_eq_true, decide_eq_true_eq, properMembers_iff]

theorem map_fst_sortKeysMembers (members : List (String × Json)) :
    (sortKeysMembers members).map Prod.fst = members.map Prod.fst := by
  induction members with
  | nil => rfl
  | cons member members ih => rw [sortKeysMembers, List.map_cons, List.map_cons, ih]

mutual
/-- Sorting keys keeps them distinct. -/
theorem proper_sortKeys : ∀ j : Json, proper j = true → proper j.sortKeys = true
  | .null, h | .bool _, h | .int _, h | .float _, h | .string _, h => h
  | .array items, h => by
    rw [sortKeys, proper]
    exact properItems_sortKeys items h
  | .object members, h => by
    obtain ⟨hnodup, hproper⟩ := Bool.and_eq_true_iff.mp h
    have hperm := sortedBy_perm Prod.fst (sortKeysMembers members)
    have hsorted := properMembers_iff.mp (properMembers_sortKeys members hproper)
    refine proper_object_iff.mpr ⟨?_, fun member hmember => ?_⟩
    · rw [(hperm.map Prod.fst).nodup_iff, map_fst_sortKeysMembers]
      exact of_decide_eq_true hnodup
    · exact hsorted member (hperm.mem_iff.mp hmember)
theorem properItems_sortKeys : ∀ items : List Json, properItems items = true →
    properItems (sortKeysItems items) = true
  | [], _ => rfl
  | item :: items, h => by
    obtain ⟨hitem, hitems⟩ := Bool.and_eq_true_iff.mp h
    rw [sortKeysItems, properItems, proper_sortKeys item hitem, properItems_sortKeys items hitems]
    rfl
theorem properMembers_sortKeys : ∀ members : List (String × Json), properMembers members = true →
    properMembers (sortKeysMembers members) = true
  | [], _ => rfl
  | (_, value) :: members, h => by
    obtain ⟨hvalue, hmembers⟩ := Bool.and_eq_true_iff.mp h
    rw [sortKeysMembers, properMembers, proper_sortKeys value hvalue,
      properMembers_sortKeys members hmembers]
    rfl
end

end SortKeys

end ContinuityOS.Library.Json
