import ContinuityOS.Library.Rounding

/-! # Shared value types of the domain layer

Scores are kept exact: a rational together with its bounds.
-/
namespace ContinuityOS

/-- A number in the closed unit interval. -/
abbrev Score := {q : ℚ // 0 ≤ q ∧ q ≤ 1}

namespace Score

def one : Score := ⟨1, by norm_num, le_rfl⟩

def half : Score := ⟨1 / 2, by norm_num, by norm_num⟩

theorem zero_mem : (0 : ℚ) ≤ 0 ∧ (0 : ℚ) ≤ 1 := ⟨le_rfl, zero_le_one⟩

theorem eight_tenths_mem : (0 : ℚ) ≤ 8 / 10 ∧ (8 / 10 : ℚ) ≤ 1 := by norm_num

def clamp (q : ℚ) : Score := ⟨max 0 (min 1 q), le_max_left _ _, by simp⟩

/-- The complement of a score, capped at one. -/
def compl (s : Score) : Score :=
  ⟨min 1 (1 - s.val), le_min zero_le_one (sub_nonneg.mpr s.property.2), min_le_left _ _⟩

def rounded (digits : ℕ) (s : Score) : Score :=
  ⟨Library.roundDigits digits s.val, Library.roundDigits_nonneg digits s.property.1,
    Library.roundDigits_le_one digits s.property.2⟩

theorem nonneg (s : Score) : 0 ≤ s.val := s.property.1

theorem le_one (s : Score) : s.val ≤ 1 := s.property.2

end Score

/-- Truth value of an optional string: absent and empty are both false. -/
def truthy : Option String → Bool
  | none => false
  | some s => s ≠ ""

end ContinuityOS
