import Mathlib.Data.Nat.Bitwise
import Mathlib.Data.List.Basic
import Mathlib.Tactic

/-! # Cyclic redundancy checks

A register is shifted once for each bit of a message, the lowest bit first. The shift is linear in
exclusive or, so the register of an error pattern from zero tells whether the error shows.
-/
namespace ContinuityOS.Library.Crc

/-- One shift, with the generator mixed in when a bit falls out. -/
def shift (poly s : ℕ) : ℕ := if s &&& 1 = 1 then (s >>> 1) ^^^ poly else s >>> 1

/-- The register after the bits of a message. -/
def feed (poly s : ℕ) (bits : List Bool) : ℕ :=
  bits.foldl (fun s b => shift poly (s ^^^ b.toNat)) s

/-- The number that bits stand for, the lowest bit first. -/
def ofBits : List Bool → ℕ
  | [] => 0
  | b :: bits => b.toNat + 2 * ofBits bits

def bitsOf : ℕ → ℕ → List Bool
  | 0, _ => []
  | width + 1, n => n.testBit 0 :: bitsOf width (n >>> 1)

/-- Whether an odd number of the low bits is set. -/
def parity : ℕ → ℕ → Bool
  | 0, _ => false
  | width + 1, n => parity width n ^^ n.testBit width

section Bits

theorem bitsOf_length (width n : ℕ) : (bitsOf width n).length = width := by
  induction width generalizing n with
  | zero => rfl
  | succ width ih => rw [bitsOf, List.length_cons, ih]

theorem bitsOf_xor (width m n : ℕ) :
    bitsOf width (m ^^^ n) = List.zipWith (· ^^ ·) (bitsOf width m) (bitsOf width n) := by
  induction width generalizing m n with
  | zero => rfl
  | succ width ih =>
    rw [bitsOf, bitsOf, bitsOf, List.zipWith_cons_cons, Nat.testBit_xor,
      Nat.shiftRight_xor_distrib, ih]

theorem ofBits_append (bits rest : List Bool) :
    ofBits (bits ++ rest) = ofBits bits + 2 ^ bits.length * ofBits rest := by
  induction bits with
  | nil => simp [ofBits]
  | cons b bits ih =>
    rw [List.cons_append, ofBits, ofBits, ih, List.length_cons, pow_succ]
    ring

theorem ofBits_bitsOf {width n : ℕ} (h : n < 2 ^ width) : ofBits (bitsOf width n) = n := by
  induction width generalizing n with
  | zero => exact (Nat.lt_one_iff.mp h).symm
  | succ width ih =>
    have hhalf : n >>> 1 < 2 ^ width := by
      rw [Nat.shiftRight_one]
      omega
    rw [bitsOf, ofBits, ih hhalf, Nat.shiftRight_one, Nat.testBit_zero]
    rcases Nat.mod_two_eq_zero_or_one n with hmod | hmod
    · simp [hmod]
      omega
    · simp [hmod]
      omega

theorem ofBits_lt (bits : List Bool) : ofBits bits < 2 ^ bits.length := by
  induction bits with
  | nil => exact Nat.one_pos
  | cons b bits ih =>
    have hb := Bool.toNat_le b
    rw [ofBits, List.length_cons, pow_succ]
    omega

theorem ofBits_ne_zero {bits : List Bool} (h : true ∈ bits) : ofBits bits ≠ 0 := by
  induction bits with
  | nil => cases h
  | cons b bits ih =>
    rw [ofBits]
    rcases List.mem_cons.mp h with rfl | h
    · simp
    · have hrest := ih h
      omega

end Bits

section Parity

theorem parity_xor (width m n : ℕ) :
    parity width (m ^^^ n) = (parity width m ^^ parity width n) := by
  induction width with
  | zero => rfl
  | succ width ih =>
    rw [parity, parity, parity, ih, Nat.testBit_xor, Bool.xor_assoc, Bool.xor_assoc,
      Bool.xor_left_comm (parity width n)]

@[simp] theorem parity_zero (width : ℕ) : parity width 0 = false := by
  induction width with
  | zero => rfl
  | succ width ih => simp [parity, ih]

theorem parity_shiftRight (width n : ℕ) :
    parity (width + 1) n = (n.testBit 0 ^^ parity width (n >>> 1)) := by
  induction width with
  | zero => simp [parity]
  | succ width ih =>
    rw [parity, ih, parity, Nat.testBit_shiftRight, Nat.add_comm 1, Bool.xor_assoc]

end Parity

section Shift
variable (poly : ℕ)

theorem shift_eq (s : ℕ) : shift poly s = (s >>> 1) ^^^ if s.testBit 0 then poly else 0 := by
  rw [shift, Nat.and_one_is_mod, Nat.testBit_zero]
  by_cases h : s % 2 = 1 <;> simp [h]

theorem shift_xor (s t : ℕ) : shift poly (s ^^^ t) = shift poly s ^^^ shift poly t := by
  rw [shift_eq, shift_eq, shift_eq, Nat.testBit_xor, Nat.shiftRight_xor_distrib]
  cases s.testBit 0 <;> cases t.testBit 0
  · simp
  · simp [Nat.xor_assoc]
  · have hmove : s >>> 1 ^^^ t >>> 1 ^^^ poly = (s >>> 1 ^^^ poly) ^^^ t >>> 1 := by ac_rfl
    simp [hmove]
  · -- both generators cancel
    have hcancel : (s >>> 1 ^^^ poly) ^^^ (t >>> 1 ^^^ poly) =
        (s >>> 1 ^^^ t >>> 1) ^^^ (poly ^^^ poly) := by ac_rfl
    simp [hcancel]

theorem shift_two_mul (n : ℕ) : shift poly (2 * n) = n := by
  rw [shift_eq, Nat.testBit_zero, Nat.shiftRight_one]
  simp

@[simp] theorem shift_zero : shift poly 0 = 0 := shift_two_mul poly 0

variable {poly} {width : ℕ}

theorem shift_lt {s : ℕ} (hpoly : poly < 2 ^ width) (h : s < 2 ^ width) :
    shift poly s < 2 ^ width := by
  rw [shift_eq]
  refine Nat.xor_lt_two_pow ?_ ?_
  · exact (Nat.shiftRight_le s 1).trans_lt h
  · split_ifs
    · exact hpoly
    · positivity

theorem iterate_shift_lt {s : ℕ} (hpoly : poly < 2 ^ width) (h : s < 2 ^ width) (n : ℕ) :
    (shift poly)^[n] s < 2 ^ width := by
  induction n generalizing s with
  | zero => exact h
  | succ n ih => exact ih (shift_lt hpoly h)

/-- A generator of full width keeps what falls out in the highest bit. -/
theorem shift_eq_zero_iff {s : ℕ} (htop : poly.testBit width = true) (h : s < 2 ^ (width + 1)) :
    shift poly s = 0 ↔ s = 0 := by
  refine ⟨fun hzero => ?_, fun hzero => by rw [hzero, shift_zero]⟩
  have hhigh : (s >>> 1).testBit width = false := by
    rw [Nat.testBit_shiftRight, Nat.add_comm]
    exact Nat.testBit_lt_two_pow h
  have hbit := congrArg (fun n => n.testBit width) hzero
  rw [shift_eq] at hzero
  cases hlow : s.testBit 0 with
  | true =>
    simp only [shift_eq, hlow, if_true, Nat.testBit_xor, hhigh, htop, Nat.zero_testBit] at hbit
    cases hbit
  | false =>
    simp only [hlow, Bool.false_eq_true, if_false, Nat.xor_zero, Nat.shiftRight_one] at hzero
    rw [Nat.testBit_zero, decide_eq_false_iff_not] at hlow
    omega

theorem iterate_shift_eq_zero_iff {s : ℕ} (hpoly : poly < 2 ^ (width + 1))
    (htop : poly.testBit width = true) (h : s < 2 ^ (width + 1)) (n : ℕ) :
    (shift poly)^[n] s = 0 ↔ s = 0 := by
  induction n generalizing s with
  | zero => rfl
  | succ n ih =>
    rw [Function.iterate_succ_apply, ih (shift_lt hpoly h), shift_eq_zero_iff htop h]

/-- A generator with an odd number of bits keeps the parity of the register. -/
theorem parity_shift {s : ℕ} (hparity : parity width poly = true) (h : s < 2 ^ width) :
    parity width (shift poly s) = parity width s := by
  have hsplit := parity_shiftRight width s
  rw [parity, Nat.testBit_lt_two_pow h, Bool.xor_false] at hsplit
  rw [shift_eq, parity_xor, hsplit]
  cases s.testBit 0 <;> simp [hparity]

end Shift

section Feed
variable {poly : ℕ}

theorem feed_append (s : ℕ) (bits rest : List Bool) :
    feed poly s (bits ++ rest) = feed poly (feed poly s bits) rest :=
  List.foldl_append

theorem feed_cons (s : ℕ) (b : Bool) (bits : List Bool) :
    feed poly s (b :: bits) = feed poly (shift poly (s ^^^ b.toNat)) bits := rfl

/-- Feeding bits one by one is mixing them in at once and shifting as often. -/
theorem feed_eq_iterate (s : ℕ) (bits : List Bool) :
    feed poly s bits = (shift poly)^[bits.length] (s ^^^ ofBits bits) := by
  induction bits generalizing s with
  | nil => simp [feed, ofBits]
  | cons b bits ih =>
    have hmix : b.toNat + 2 * ofBits bits = b.toNat ^^^ (2 * ofBits bits) := by
      refine Nat.eq_of_testBit_eq fun i => ?_
      have hb := Bool.toNat_le b
      have hhalf : (b.toNat + 2 * ofBits bits) / 2 = ofBits bits := by omega
      have hbit : b.toNat / 2 = 0 := by omega
      rw [Nat.testBit_xor]
      cases i with
      | zero => cases b <;> simp
      | succ i =>
        rw [Nat.testBit_succ, Nat.testBit_succ, Nat.testBit_succ, hhalf, hbit,
          Nat.mul_div_cancel_left _ two_pos, Nat.zero_testBit, Bool.false_xor]
    rw [feed_cons, ih, List.length_cons, Function.iterate_succ_apply, ofBits, hmix,
      ← Nat.xor_assoc, shift_xor poly (s ^^^ b.toNat), shift_two_mul]

theorem feed_zero_false (n : ℕ) : feed poly 0 (List.replicate n false) = 0 := by
  induction n with
  | zero => rfl
  | succ n ih => rwa [List.replicate_succ, feed_cons, Bool.toNat_false, Nat.xor_zero, shift_zero]

theorem feed_false (s n : ℕ) : feed poly s (List.replicate n false) = (shift poly)^[n] s := by
  induction n generalizing s with
  | zero => rfl
  | succ n ih =>
    rw [List.replicate_succ, feed_cons, Bool.toNat_false, Nat.xor_zero, ih]
    rfl

/-- The register of a message with errors is that of the message with that of the errors. -/
theorem feed_xor {bits errors : List Bool} (h : bits.length = errors.length) (s t : ℕ) :
    feed poly (s ^^^ t) (List.zipWith (· ^^ ·) bits errors) =
      feed poly s bits ^^^ feed poly t errors := by
  induction bits generalizing errors s t with
  | nil =>
    cases errors with
    | nil => rfl
    | cons e errors => cases h
  | cons b bits ih =>
    cases errors with
    | nil => cases h
    | cons e errors =>
      have hmix : s ^^^ t ^^^ (b ^^ e).toNat = (s ^^^ b.toNat) ^^^ (t ^^^ e.toNat) := by
        have hbit : (b ^^ e).toNat = b.toNat ^^^ e.toNat := by cases b <;> cases e <;> rfl
        rw [hbit]
        ac_rfl
      rw [List.zipWith_cons_cons, feed_cons, hmix, shift_xor, ih (Nat.succ.inj h)]
      rfl

theorem feed_lt {width s : ℕ} (hpoly : poly < 2 ^ width) (hwidth : 0 < width) (h : s < 2 ^ width)
    (bits : List Bool) : feed poly s bits < 2 ^ width := by
  induction bits generalizing s with
  | nil => exact h
  | cons b bits ih =>
    refine ih (shift_lt hpoly (Nat.xor_lt_two_pow h ?_))
    exact (Bool.toNat_le b).trans_lt (Nat.one_lt_two_pow hwidth.ne')

end Feed

section Detection
variable {poly width : ℕ}

theorem parity_toNat (b : Bool) : parity (width + 1) b.toNat = b := by
  induction width with
  | zero => cases b <;> rfl
  | succ width ih =>
    have hlt : b.toNat < 2 ^ (width + 1) :=
      (Bool.toNat_le b).trans_lt (Nat.one_lt_two_pow width.succ_ne_zero)
    rw [parity, ih, Nat.testBit_lt_two_pow hlt, Bool.xor_false]

/-- Every set bit of a message turns the parity over. -/
theorem parity_feed {s : ℕ} (hpoly : poly < 2 ^ (width + 1))
    (hparity : parity (width + 1) poly = true) (h : s < 2 ^ (width + 1)) (bits : List Bool) :
    parity (width + 1) (feed poly s bits) =
      (parity (width + 1) s ^^ decide (bits.count true % 2 = 1)) := by
  induction bits generalizing s with
  | nil => simp [feed]
  | cons b bits ih =>
    have hlt : s ^^^ b.toNat < 2 ^ (width + 1) :=
      Nat.xor_lt_two_pow h ((Bool.toNat_le b).trans_lt (Nat.one_lt_two_pow width.succ_ne_zero))
    rw [feed_cons, ih (shift_lt hpoly hlt), parity_shift hparity hlt, parity_xor, parity_toNat,
      List.count_cons]
    cases b with
    | false => simp
    | true =>
      rcases Nat.mod_two_eq_zero_or_one (bits.count true) with hmod | hmod
      · simp [Nat.add_mod, hmod]
      · simp [Nat.add_mod, hmod]

/-- An odd number of errors shows where the generator is divisible by `x + 1`. -/
theorem feed_ne_zero_of_odd (hpoly : poly < 2 ^ (width + 1))
    (hparity : parity (width + 1) poly = true) {errors : List Bool}
    (h : errors.count true % 2 = 1) : feed poly 0 errors ≠ 0 := by
  intro hzero
  have hfeed := parity_feed hpoly hparity (Nat.two_pow_pos (width + 1)) errors
  rw [hzero, h, parity_zero] at hfeed
  cases hfeed

/-- A burst no longer than the register shows. -/
theorem feed_ne_zero_of_burst (hpoly : poly < 2 ^ (width + 1)) (htop : poly.testBit width = true)
    {window : List Bool} (hlength : window.length ≤ width + 1) (herror : true ∈ window)
    (before after : ℕ) :
    feed poly 0 (List.replicate before false ++ window ++ List.replicate after false) ≠ 0 := by
  have hlt : ofBits window < 2 ^ (width + 1) :=
    (ofBits_lt window).trans_le (Nat.pow_le_pow_right two_pos hlength)
  rw [feed_append, feed_append, feed_zero_false, feed_false, feed_eq_iterate, Nat.zero_xor,
    ← Function.iterate_add_apply, Ne, iterate_shift_eq_zero_iff hpoly htop hlt]
  exact ofBits_ne_zero herror

theorem exists_first_error {errors : List Bool} {n : ℕ} (h : errors.count true = n + 1) :
    ∃ before rest, errors = List.replicate before false ++ true :: rest ∧ rest.count true = n := by
  induction errors with
  | nil => cases h
  | cons e errors ih =>
    cases e with
    | true => exact ⟨0, errors, rfl, by simpa using h⟩
    | false =>
      obtain ⟨before, rest, rfl, hrest⟩ := ih (by simpa using h)
      exact ⟨before + 1, rest, rfl, hrest⟩

theorem eq_replicate_of_count_eq_zero {errors : List Bool} (h : errors.count true = 0) :
    errors = List.replicate errors.length false := by
  refine List.eq_replicate_iff.mpr ⟨rfl, fun e he => ?_⟩
  cases e with
  | false => rfl
  | true => exact absurd he (List.count_eq_zero.mp h)

/-- Two errors show that are no further apart than the shift takes to come back to one. -/
theorem feed_ne_zero_of_two (hpoly : poly < 2 ^ (width + 1)) (htop : poly.testBit width = true)
    {errors : List Bool} (h : errors.count true = 2)
    (horder : ∀ d, 0 < d → d < errors.length → (shift poly)^[d] 1 ≠ 1) :
    feed poly 0 errors ≠ 0 := by
  obtain ⟨before, rest, rfl, hrest⟩ := exists_first_error h
  obtain ⟨gap, after, rfl, hafter⟩ := exists_first_error hrest
  have hone : 1 < 2 ^ (width + 1) := Nat.one_lt_two_pow width.succ_ne_zero
  have hdistance := horder (gap + 1) gap.succ_pos (by simp; omega)
  have hfirst : feed poly 0 (List.replicate before false ++ true :: List.replicate gap false) =
      (shift poly)^[gap + 1] 1 := by
    rw [feed_append, feed_zero_false, feed_cons, feed_false]
    rfl
  rw [← List.cons_append, ← List.append_assoc, feed_append, hfirst, feed_cons,
    eq_replicate_of_count_eq_zero hafter, feed_false, ← Function.iterate_succ_apply, Ne,
    Bool.toNat_true,
    iterate_shift_eq_zero_iff hpoly htop (Nat.xor_lt_two_pow (iterate_shift_lt hpoly hone _) hone)]
  intro hzero
  exact hdistance (Nat.xor_eq_zero_iff.mp hzero)

end Detection

end ContinuityOS.Library.Crc
