import Mathlib.Data.Rat.Floor
import Mathlib.Algebra.Order.Floor.Ring
import Mathlib.Tactic

/-! # Decimal rounding, ties to even -/
namespace ContinuityOS.Library

def roundHalfEven (q : ℚ) : ℤ :=
  if q - ⌊q⌋ < 1 / 2 then ⌊q⌋
  else if 1 / 2 < q - ⌊q⌋ then ⌊q⌋ + 1
  else if ⌊q⌋ % 2 = 0 then ⌊q⌋ else ⌊q⌋ + 1

theorem floor_le_roundHalfEven (q : ℚ) : ⌊q⌋ ≤ roundHalfEven q := by
  unfold roundHalfEven
  split_ifs <;> omega

theorem roundHalfEven_le (q : ℚ) : roundHalfEven q ≤ ⌊q⌋ + 1 := by
  unfold roundHalfEven
  split_ifs <;> omega

theorem roundHalfEven_mono {q r : ℚ} (h : q ≤ r) : roundHalfEven q ≤ roundHalfEven r := by
  rcases (Int.floor_mono h).lt_or_eq with hf | hf
  · exact (roundHalfEven_le q).trans (hf.trans_le (floor_le_roundHalfEven r))
  · have hs : q - ⌊q⌋ ≤ r - ⌊r⌋ := by rw [hf]; linarith
    unfold roundHalfEven
    rw [hf] at hs ⊢
    split_ifs <;> first | omega | linarith

@[simp] theorem roundHalfEven_intCast (n : ℤ) : roundHalfEven n = n := by
  simp [roundHalfEven]

theorem abs_roundHalfEven_sub_le (q : ℚ) : |roundHalfEven q - q| ≤ 1 / 2 := by
  have hlow := Int.floor_le q
  have hhigh := Int.lt_floor_add_one q
  unfold roundHalfEven
  rw [abs_le]
  split_ifs <;> push_cast <;> constructor <;> linarith

/-- Rounding to a number of decimal digits. -/
def roundDigits (digits : ℕ) (q : ℚ) : ℚ := roundHalfEven (q * 10 ^ digits) / 10 ^ digits

theorem roundDigits_mono (digits : ℕ) {q r : ℚ} (h : q ≤ r) :
    roundDigits digits q ≤ roundDigits digits r := by
  have hp : (0 : ℚ) < 10 ^ digits := by positivity
  have hi : (roundHalfEven (q * 10 ^ digits) : ℚ) ≤ roundHalfEven (r * 10 ^ digits) := by
    exact_mod_cast roundHalfEven_mono (mul_le_mul_of_nonneg_right h hp.le)
  exact div_le_div_of_nonneg_right hi hp.le

@[simp] theorem roundDigits_zero (digits : ℕ) : roundDigits digits 0 = 0 := by
  have h := roundHalfEven_intCast 0
  simp only [Int.cast_zero] at h
  simp [roundDigits, h]

theorem roundDigits_nonneg (digits : ℕ) {q : ℚ} (h : 0 ≤ q) : 0 ≤ roundDigits digits q := by
  simpa using roundDigits_mono digits h

@[simp] theorem roundDigits_one (digits : ℕ) : roundDigits digits 1 = 1 := by
  have hi := roundHalfEven_intCast (10 ^ digits : ℤ)
  push_cast at hi
  simp [roundDigits, hi]

theorem roundDigits_le_one (digits : ℕ) {q : ℚ} (h : q ≤ 1) : roundDigits digits q ≤ 1 :=
  roundDigits_one digits ▸ roundDigits_mono digits h

/-- A number with a fixed count of decimals, ties to even. -/
def fixedPoint (digits : ℕ) (q : ℚ) : String :=
  let n := (roundHalfEven (|q| * 10 ^ digits)).toNat
  let fraction := toString (n % 10 ^ digits)
  (if q < 0 then "-" else "") ++ toString (n / 10 ^ digits) ++ "." ++
    String.ofList (List.replicate (digits - fraction.length) '0') ++ fraction

def percent (q : ℚ) : String := fixedPoint 1 (q * 100) ++ "%"

end ContinuityOS.Library
