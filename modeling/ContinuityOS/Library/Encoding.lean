import Mathlib.Data.List.Basic
import Mathlib.Tactic

/-! # Bytes as hexadecimal and base64 text

The readers accept what the standard library's readers accept: spaces between
hexadecimal pairs, either letter case, and stray characters or early padding in base64.
What the writers produce is read back.
-/
namespace ContinuityOS.Library

section Hex

def hexAlphabet : List Char := "0123456789abcdef".toList

def hexDigit (n : ℕ) : Char := hexAlphabet.getD n '0'

def hexValue (c : Char) : Option ℕ :=
  if '0' ≤ c ∧ c ≤ '9' then some (c.toNat - 48)
  else if 'a' ≤ c ∧ c ≤ 'f' then some (c.toNat - 87)
  else if 'A' ≤ c ∧ c ≤ 'F' then some (c.toNat - 55)
  else none

def isAsciiSpace (c : Char) : Bool := c ∈ [' ', '\t', '\n', '\r', '\x0b', '\x0c']

def hexEncode (bytes : List UInt8) : List Char :=
  bytes.flatMap fun b => [hexDigit (b.toNat / 16), hexDigit (b.toNat % 16)]

/-- Pairs of digits with spaces allowed before a pair and at the end. -/
def hexDecode : List Char → Option (List UInt8)
  | [] => some []
  | [c] => if isAsciiSpace c then some [] else none
  | c :: d :: text =>
    if isAsciiSpace c then hexDecode (d :: text)
    else do
      let top ← hexValue c
      let bottom ← hexValue d
      let bytes ← hexDecode text
      return UInt8.ofNat (16 * top + bottom) :: bytes

theorem hexEncode_length (bytes : List UInt8) : (hexEncode bytes).length = 2 * bytes.length := by
  induction bytes with
  | nil => rfl
  | cons b bytes ih =>
    have hcons : (hexEncode (b :: bytes)).length = (hexEncode bytes).length + 2 := rfl
    rw [hcons, ih, List.length_cons]
    omega

theorem hexValue_hexDigit {n : ℕ} (h : n < 16) : hexValue (hexDigit n) = some n := by
  interval_cases n <;> decide

theorem isAsciiSpace_hexDigit {n : ℕ} (h : n < 16) : isAsciiSpace (hexDigit n) = false := by
  interval_cases n <;> decide

theorem hexDecode_hexEncode (bytes : List UInt8) : hexDecode (hexEncode bytes) = some bytes := by
  induction bytes with
  | nil => rfl
  | cons b bytes ih =>
    have hb := b.toNat_lt
    have htop : b.toNat / 16 < 16 := by omega
    have hbottom : b.toNat % 16 < 16 := by omega
    have hvalue : 16 * (b.toNat / 16) + b.toNat % 16 = b.toNat := Nat.div_add_mod b.toNat 16
    have hcons : hexEncode (b :: bytes)
        = hexDigit (b.toNat / 16) :: hexDigit (b.toNat % 16) :: hexEncode bytes := rfl
    rw [hcons, hexDecode, isAsciiSpace_hexDigit htop, hexValue_hexDigit htop,
      hexValue_hexDigit hbottom, ih]
    simp only [Bool.false_eq_true, if_false, Option.bind_eq_bind, Option.bind_some, hvalue,
      UInt8.ofNat_toNat]
    rfl

end Hex

section Base64

def base64Alphabet : List Char :=
  "ABCDEFGHIJKLMNOPQRSTUVWXYZabcdefghijklmnopqrstuvwxyz0123456789+/".toList

def base64Digit (n : ℕ) : Char := base64Alphabet.getD n 'A'

def base64Value (c : Char) : Option ℕ :=
  if 'A' ≤ c ∧ c ≤ 'Z' then some (c.toNat - 65)
  else if 'a' ≤ c ∧ c ≤ 'z' then some (c.toNat - 71)
  else if '0' ≤ c ∧ c ≤ '9' then some (c.toNat + 4)
  else if c = '+' then some 62
  else if c = '/' then some 63
  else none

def base64Encode : List UInt8 → List Char
  | [] => []
  | [a] => [base64Digit (a.toNat / 4), base64Digit (a.toNat % 4 * 16), '=', '=']
  | [a, b] =>
    [base64Digit (a.toNat / 4), base64Digit (a.toNat % 4 * 16 + b.toNat / 16),
      base64Digit (b.toNat % 16 * 4), '=']
  | a :: b :: c :: bytes =>
    base64Digit (a.toNat / 4) :: base64Digit (a.toNat % 4 * 16 + b.toNat / 16)
      :: base64Digit (b.toNat % 16 * 4 + c.toNat / 64) :: base64Digit (c.toNat % 64)
      :: base64Encode bytes

/-- The lenient decoder: it keeps the position in a group of four, the bits left over
from the last digit and the padding seen since; enough padding ends the input. -/
def base64Loop : ℕ → ℕ → ℕ → List Char → Option (List UInt8)
  | quad, _, _, [] => if quad = 0 then some [] else none
  | quad, left, pads, c :: text =>
    if c = '=' then
      if 2 ≤ quad then
        if 4 ≤ quad + (pads + 1) then some [] else base64Loop quad left (pads + 1) text
      else base64Loop quad left pads text
    else
      match base64Value c with
      | none => base64Loop quad left pads text
      | some v =>
        match quad with
        | 0 => base64Loop 1 v 0 text
        | 1 => (base64Loop 2 (v % 16) 0 text).map (UInt8.ofNat (left * 4 + v / 16) :: ·)
        | 2 => (base64Loop 3 (v % 4) 0 text).map (UInt8.ofNat (left * 16 + v / 4) :: ·)
        | _ => (base64Loop 0 0 0 text).map (UInt8.ofNat (left * 64 + v) :: ·)

/-- Text outside ASCII is refused before decoding. -/
def base64Decode (text : List Char) : Option (List UInt8) :=
  if text.all fun c => c.toNat < 128 then base64Loop 0 0 0 text else none

theorem base64Value_base64Digit {n : ℕ} (h : n < 64) : base64Value (base64Digit n) = some n := by
  interval_cases n <;> decide

theorem base64Digit_ne_pad {n : ℕ} (h : n < 64) : base64Digit n ≠ '=' := by
  interval_cases n <;> decide

theorem base64Digit_ascii {n : ℕ} (h : n < 64) : (base64Digit n).toNat < 128 := by
  interval_cases n <;> decide

theorem base64Loop_first {n : ℕ} (h : n < 64) (left pads : ℕ) (text : List Char) :
    base64Loop 0 left pads (base64Digit n :: text) = base64Loop 1 n 0 text := by
  rw [base64Loop, if_neg (base64Digit_ne_pad h), base64Value_base64Digit h]
  rfl

theorem base64Loop_second {n left : ℕ} {b : UInt8} (h : n < 64) (hb : left * 4 + n / 16 = b.toNat)
    (pads : ℕ) (text : List Char) : base64Loop 1 left pads (base64Digit n :: text)
      = (base64Loop 2 (n % 16) 0 text).map (b :: ·) := by
  rw [base64Loop, if_neg (base64Digit_ne_pad h), base64Value_base64Digit h]
  simp only [hb, UInt8.ofNat_toNat]

theorem base64Loop_third {n left : ℕ} {b : UInt8} (h : n < 64) (hb : left * 16 + n / 4 = b.toNat)
    (pads : ℕ) (text : List Char) : base64Loop 2 left pads (base64Digit n :: text)
      = (base64Loop 3 (n % 4) 0 text).map (b :: ·) := by
  rw [base64Loop, if_neg (base64Digit_ne_pad h), base64Value_base64Digit h]
  simp only [hb, UInt8.ofNat_toNat]

theorem base64Loop_fourth {n left : ℕ} {b : UInt8} (h : n < 64) (hb : left * 64 + n = b.toNat)
    (pads : ℕ) (text : List Char) : base64Loop 3 left pads (base64Digit n :: text)
      = (base64Loop 0 0 0 text).map (b :: ·) := by
  rw [base64Loop, if_neg (base64Digit_ne_pad h), base64Value_base64Digit h]
  simp only [hb, UInt8.ofNat_toNat]

theorem base64Loop_base64Encode (bytes : List UInt8) :
    base64Loop 0 0 0 (base64Encode bytes) = some bytes := by
  induction bytes using base64Encode.induct with
  | case1 => rfl
  | case2 a =>
    have ha := a.toNat_lt
    rw [base64Encode, base64Loop_first (by omega), base64Loop_second (b := a) (by omega) (by omega)]
    rfl
  | case3 a b =>
    have ha := a.toNat_lt
    have hb := b.toNat_lt
    rw [base64Encode, base64Loop_first (by omega), base64Loop_second (b := a) (by omega) (by omega),
      base64Loop_third (b := b) (by omega) (by omega)]
    rfl
  | case4 a b c bytes ih =>
    have ha := a.toNat_lt
    have hb := b.toNat_lt
    have hc := c.toNat_lt
    rw [base64Encode, base64Loop_first (by omega), base64Loop_second (b := a) (by omega) (by omega),
      base64Loop_third (b := b) (by omega) (by omega),
      base64Loop_fourth (b := c) (by omega) (by omega), ih]
    rfl

theorem base64Encode_ascii (bytes : List UInt8) : ∀ c ∈ base64Encode bytes, c.toNat < 128 := by
  induction bytes using base64Encode.induct with
  | case1 => simp [base64Encode]
  | case2 a =>
    have ha := a.toNat_lt
    simp only [base64Encode, List.forall_mem_cons]
    exact ⟨base64Digit_ascii (by omega), base64Digit_ascii (by omega), by decide, by decide,
      List.forall_mem_nil _⟩
  | case3 a b =>
    have ha := a.toNat_lt
    have hb := b.toNat_lt
    simp only [base64Encode, List.forall_mem_cons]
    exact ⟨base64Digit_ascii (by omega), base64Digit_ascii (by omega),
      base64Digit_ascii (by omega), by decide, List.forall_mem_nil _⟩
  | case4 a b c bytes ih =>
    have ha := a.toNat_lt
    have hb := b.toNat_lt
    have hc := c.toNat_lt
    simp only [base64Encode, List.forall_mem_cons]
    exact ⟨base64Digit_ascii (by omega), base64Digit_ascii (by omega),
      base64Digit_ascii (by omega), base64Digit_ascii (by omega), ih⟩

theorem base64Decode_base64Encode (bytes : List UInt8) :
    base64Decode (base64Encode bytes) = some bytes := by
  have hascii : ((base64Encode bytes).all fun c => c.toNat < 128) = true := by
    rw [List.all_eq_true]
    intro c hc
    exact decide_eq_true (base64Encode_ascii bytes c hc)
  rw [base64Decode, if_pos hascii, base64Loop_base64Encode]

end Base64

end ContinuityOS.Library
