import Mathlib.Tactic

/-! # Packed records of fixed-width integers

Little-endian fields without padding, as a format string that starts with `<` gives them. Packing
is defined on the values in range, and unpacking is its inverse in both directions.
-/
namespace ContinuityOS.Library

def littleEndian : ℕ → ℕ → List UInt8
  | 0, _ => []
  | width + 1, n => UInt8.ofNat (n % 256) :: littleEndian width (n / 256)

def fromLittleEndian : List UInt8 → ℕ
  | [] => 0
  | b :: bytes => b.toNat + 256 * fromLittleEndian bytes

@[simp] theorem littleEndian_length (width n : ℕ) : (littleEndian width n).length = width := by
  induction width generalizing n with
  | zero => rfl
  | succ width ih => rw [littleEndian, List.length_cons, ih]

theorem fromLittleEndian_lt (bytes : List UInt8) : fromLittleEndian bytes < 256 ^ bytes.length := by
  induction bytes with
  | nil => exact Nat.one_pos
  | cons b bytes ih =>
    have hb := b.toNat_lt
    rw [fromLittleEndian, List.length_cons, pow_succ]
    omega

theorem fromLittleEndian_littleEndian {width n : ℕ} (h : n < 256 ^ width) :
    fromLittleEndian (littleEndian width n) = n := by
  induction width generalizing n with
  | zero => exact (Nat.lt_one_iff.mp h).symm
  | succ width ih =>
    rw [pow_succ] at h
    have hdiv : n / 256 < 256 ^ width := Nat.div_lt_of_lt_mul (by omega)
    have hbyte : (UInt8.ofNat (n % 256)).toNat = n % 256 :=
      UInt8.toNat_ofNat_of_lt' (Nat.mod_lt n (by decide))
    rw [littleEndian, fromLittleEndian, ih hdiv, hbyte]
    omega

theorem littleEndian_fromLittleEndian (bytes : List UInt8) :
    littleEndian bytes.length (fromLittleEndian bytes) = bytes := by
  induction bytes with
  | nil => rfl
  | cons b bytes ih =>
    have hb := b.toNat_lt
    have hmod : (b.toNat + 256 * fromLittleEndian bytes) % 256 = b.toNat := by omega
    have hdiv : (b.toNat + 256 * fromLittleEndian bytes) / 256 = fromLittleEndian bytes := by omega
    rw [fromLittleEndian, List.length_cons, littleEndian, hmod, hdiv, ih, UInt8.ofNat_toNat]

/-- The letters of a format: a capital is unsigned. -/
inductive FieldFormat where
  | b
  | B
  | h
  | H
  | i
  | I
deriving DecidableEq

namespace FieldFormat

def width : FieldFormat → ℕ
  | .b | .B => 1
  | .h | .H => 2
  | .i | .I => 4

def signed : FieldFormat → Bool
  | .b | .h | .i => true
  | .B | .H | .I => false

variable (f : FieldFormat)

def least : ℤ := if f.signed then -(256 ^ f.width / 2) else 0

/-- The values that fit. -/
def InRange (n : ℤ) : Prop := f.least ≤ n ∧ n < f.least + 256 ^ f.width

instance (n : ℤ) : Decidable (f.InRange n) := inferInstanceAs (Decidable (_ ∧ _))

variable {f} in
theorem inRange_of_unsigned (h : f.signed = false) {n : ℤ} :
    f.InRange n ↔ 0 ≤ n ∧ n < 256 ^ f.width := by
  rw [InRange, least, h, if_neg Bool.false_ne_true, zero_add]

/-- `none` is a `struct.error`. -/
def pack (n : ℤ) : Option (List UInt8) :=
  if f.InRange n then some (littleEndian f.width (n % 256 ^ f.width).toNat) else none

def unpack (bytes : List UInt8) : ℤ :=
  let n : ℤ := fromLittleEndian bytes
  if n < f.least + 256 ^ f.width then n else n - 256 ^ f.width

variable {f}

theorem pack_eq_some_iff {n : ℤ} {bytes : List UInt8} : f.pack n = some bytes ↔
    f.InRange n ∧ littleEndian f.width (n % 256 ^ f.width).toNat = bytes := by
  rw [pack]
  split_ifs with h
  · rw [Option.some.injEq]
    exact (and_iff_right h).symm
  · exact iff_of_false (by simp) fun hand => h hand.1

theorem pack_length {n : ℤ} {bytes : List UInt8} (h : f.pack n = some bytes) :
    bytes.length = f.width := by
  rw [← (pack_eq_some_iff.mp h).2, littleEndian_length]

theorem least_bounds (f : FieldFormat) : f.least ≤ 0 ∧ 0 < f.least + 256 ^ f.width := by
  cases f <;> decide

theorem unpack_pack {n : ℤ} {bytes : List UInt8} (h : f.pack n = some bytes) :
    f.unpack bytes = n := by
  obtain ⟨⟨hlow, hhigh⟩, rfl⟩ := pack_eq_some_iff.mp h
  obtain ⟨hleast, hmost⟩ := f.least_bounds
  have hpos : (0 : ℤ) < 256 ^ f.width := by positivity
  have hnonneg := Int.emod_nonneg n hpos.ne'
  have hlt := Int.emod_lt_of_pos n hpos
  have hcast : ((n % 256 ^ f.width).toNat : ℤ) = n % 256 ^ f.width := Int.toNat_of_nonneg hnonneg
  have hread : (fromLittleEndian (littleEndian f.width (n % 256 ^ f.width).toNat) : ℤ) =
      n % 256 ^ f.width := by
    rw [fromLittleEndian_littleEndian, hcast]
    have : ((n % 256 ^ f.width).toNat : ℤ) < (256 ^ f.width : ℕ) := by
      rw [hcast]
      push_cast
      exact hlt
    exact_mod_cast this
  rw [unpack, hread]
  by_cases hsign : 0 ≤ n
  · rw [Int.emod_eq_of_lt hsign (by omega), if_pos hhigh]
  · have hmod : n % 256 ^ f.width = n + 256 ^ f.width := by
      rw [← Int.add_emod_right, Int.emod_eq_of_lt (by omega) (by omega)]
    rw [hmod, if_neg (by omega)]
    omega

theorem pack_unpack {bytes : List UInt8} (h : bytes.length = f.width) :
    f.pack (f.unpack bytes) = some bytes := by
  obtain ⟨hleast, hmost⟩ := f.least_bounds
  have hlt : (fromLittleEndian bytes : ℤ) < 256 ^ f.width := by
    have := fromLittleEndian_lt bytes
    rw [h] at this
    exact_mod_cast this
  have hpos : (0 : ℤ) < 256 ^ f.width := by positivity
  have hmod : f.unpack bytes % 256 ^ f.width = fromLittleEndian bytes := by
    rw [unpack]
    split_ifs
    · exact Int.emod_eq_of_lt (by omega) hlt
    · rw [Int.sub_emod_right, Int.emod_eq_of_lt (by omega) hlt]
  refine pack_eq_some_iff.mpr ⟨?_, ?_⟩
  · rw [InRange, unpack]
    split_ifs <;> omega
  · rw [hmod, Int.toNat_natCast, ← h, littleEndian_fromLittleEndian]

end FieldFormat

section Struct

/-- The number of bytes of a format. -/
def calcsize (format : List FieldFormat) : ℕ := (format.map FieldFormat.width).sum

/-- Also `none` when the number of values is not that of the fields. -/
def structPack : List FieldFormat → List ℤ → Option (List UInt8)
  | [], [] => some []
  | f :: format, n :: values => do
    let bytes ← f.pack n
    let rest ← structPack format values
    return bytes ++ rest
  | _, _ => none

/-- `none` unless there are as many bytes as the format has. -/
def structUnpack : List FieldFormat → List UInt8 → Option (List ℤ)
  | [], [] => some []
  | [], _ :: _ => none
  | f :: format, bytes =>
    if f.width ≤ bytes.length then do
      let rest ← structUnpack format (bytes.drop f.width)
      return f.unpack (bytes.take f.width) :: rest
    else none

theorem structPack_cons_eq_some {f : FieldFormat} {format : List FieldFormat} {n : ℤ}
    {values : List ℤ} {bytes : List UInt8} :
    structPack (f :: format) (n :: values) = some bytes ↔
      ∃ first rest, f.pack n = some first ∧ structPack format values = some rest ∧
        first ++ rest = bytes := by
  rw [structPack]
  cases f.pack n with
  | none => simp
  | some first =>
    cases structPack format values with
    | none => simp
    | some rest => simp

theorem structUnpack_cons_eq_some {f : FieldFormat} {format : List FieldFormat}
    {bytes : List UInt8} {values : List ℤ} :
    structUnpack (f :: format) bytes = some values ↔
      f.width ≤ bytes.length ∧ ∃ rest, structUnpack format (bytes.drop f.width) = some rest ∧
        f.unpack (bytes.take f.width) :: rest = values := by
  rw [structUnpack]
  split_ifs with h
  · cases structUnpack format (bytes.drop f.width) with
    | none => simp
    | some rest => simp [h]
  · simp [h]

theorem structPack_isSome {format : List FieldFormat} {values : List ℤ} :
    (structPack format values).isSome ↔ List.Forall₂ FieldFormat.InRange format values := by
  induction format generalizing values with
  | nil =>
    cases values with
    | nil => exact iff_of_true rfl .nil
    | cons n values => exact iff_of_false (by simp [structPack]) (by simp)
  | cons f format ih =>
    cases values with
    | nil => exact iff_of_false (by simp [structPack]) (by simp)
    | cons n values =>
      rw [List.forall₂_cons, ← ih, structPack, FieldFormat.pack]
      split_ifs with h
      · rw [and_iff_right h]
        cases structPack format values <;> simp
      · exact iff_of_false (by simp) fun hand => h hand.1

theorem structPack_length {format : List FieldFormat} {values : List ℤ} {bytes : List UInt8}
    (h : structPack format values = some bytes) : bytes.length = calcsize format := by
  induction format generalizing values bytes with
  | nil =>
    cases values with
    | nil => cases h; rfl
    | cons n values => cases h
  | cons f format ih =>
    cases values with
    | nil => cases h
    | cons n values =>
      obtain ⟨first, rest, hfirst, hrest, rfl⟩ := structPack_cons_eq_some.mp h
      rw [List.length_append, FieldFormat.pack_length hfirst, ih hrest, calcsize, calcsize,
        List.map_cons, List.sum_cons]

theorem structUnpack_structPack {format : List FieldFormat} {values : List ℤ} {bytes : List UInt8}
    (h : structPack format values = some bytes) : structUnpack format bytes = some values := by
  induction format generalizing values bytes with
  | nil =>
    cases values with
    | nil => cases h; rfl
    | cons n values => cases h
  | cons f format ih =>
    cases values with
    | nil => cases h
    | cons n values =>
      obtain ⟨first, rest, hfirst, hrest, rfl⟩ := structPack_cons_eq_some.mp h
      have hwidth := FieldFormat.pack_length hfirst
      refine structUnpack_cons_eq_some.mpr ⟨?_, values, ?_, ?_⟩
      · rw [List.length_append]
        omega
      · rw [← hwidth, List.drop_left, ih hrest]
      · rw [← hwidth, List.take_left, FieldFormat.unpack_pack hfirst]

theorem structPack_structUnpack {format : List FieldFormat} {values : List ℤ}
    {bytes : List UInt8} (h : structUnpack format bytes = some values) :
    structPack format values = some bytes := by
  induction format generalizing values bytes with
  | nil =>
    cases bytes with
    | nil => cases h; rfl
    | cons b bytes => cases h
  | cons f format ih =>
    obtain ⟨hlong, rest, hrest, rfl⟩ := structUnpack_cons_eq_some.mp h
    refine structPack_cons_eq_some.mpr ⟨bytes.take f.width, bytes.drop f.width,
      FieldFormat.pack_unpack ?_, ih hrest, List.take_append_drop _ _⟩
    rw [List.length_take]
    exact min_eq_left hlong

theorem structUnpack_isSome {format : List FieldFormat} {bytes : List UInt8}
    (h : bytes.length = calcsize format) : ∃ values, structUnpack format bytes = some values ∧
      values.length = format.length := by
  induction format generalizing bytes with
  | nil =>
    rw [List.length_eq_zero_iff.mp h]
    exact ⟨[], rfl, rfl⟩
  | cons f format ih =>
    rw [calcsize, List.map_cons, List.sum_cons] at h
    have hrest : (bytes.drop f.width).length = calcsize format := by
      rw [List.length_drop, calcsize]
      omega
    obtain ⟨values, hvalues, hlength⟩ := ih hrest
    exact ⟨f.unpack (bytes.take f.width) :: values,
      structUnpack_cons_eq_some.mpr ⟨by omega, values, hvalues, rfl⟩, congrArg (· + 1) hlength⟩

/-- A format may be packed in two parts. -/
theorem structPack_append {format format' : List FieldFormat} {values values' : List ℤ}
    {bytes : List UInt8} (h : format.length = values.length) :
    structPack (format ++ format') (values ++ values') = some bytes ↔
      ∃ front back, structPack format values = some front ∧
        structPack format' values' = some back ∧ front ++ back = bytes := by
  induction format generalizing values bytes with
  | nil =>
    rw [List.length_eq_zero_iff.mp h.symm]
    simp [structPack]
  | cons f format ih =>
    cases values with
    | nil => cases h
    | cons n values =>
      have hlength := Nat.succ.inj h
      rw [List.cons_append, List.cons_append]
      constructor
      · intro hpack
        obtain ⟨first, rest, hfirst, hrest, rfl⟩ := structPack_cons_eq_some.mp hpack
        obtain ⟨front, back, hfront, hback, rfl⟩ := (ih hlength).mp hrest
        exact ⟨first ++ front, back,
          structPack_cons_eq_some.mpr ⟨first, front, hfirst, hfront, rfl⟩, hback,
          List.append_assoc _ _ _⟩
      · rintro ⟨whole, back, hwhole, hback, rfl⟩
        obtain ⟨first, front, hfirst, hfront, rfl⟩ := structPack_cons_eq_some.mp hwhole
        exact structPack_cons_eq_some.mpr ⟨first, front ++ back, hfirst,
          (ih hlength).mpr ⟨front, back, hfront, hback, rfl⟩, (List.append_assoc _ _ _).symm⟩

end Struct

end ContinuityOS.Library
