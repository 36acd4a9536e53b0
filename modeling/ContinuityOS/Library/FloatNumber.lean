import ContinuityOS.Library.Rounding
import Mathlib.Data.Int.Log
import Mathlib.Order.WithBot

/-! # Numbers with infinities and without order

A comparison with a value that is no number is false. The least and the greatest value are those
that a loop keeps: one that is no number stays where it comes first and is passed over elsewhere.
-/
namespace ContinuityOS.Library

inductive FloatNumber where
  | nan
  | negInf
  | finite (q : ℚ)
  | posInf
deriving DecidableEq

namespace FloatNumber

/-- The place of a number in the order; what is no number has none of its own. -/
def order : FloatNumber → WithBot (WithTop ℚ)
  | .nan => ⊥
  | .negInf => ⊥
  | .finite q => ((q : WithTop ℚ) : WithBot (WithTop ℚ))
  | .posInf => ((⊤ : WithTop ℚ) : WithBot (WithTop ℚ))

def lt : FloatNumber → FloatNumber → Bool
  | .nan, _ => false
  | _, .nan => false
  | .negInf, .negInf => false
  | .negInf, _ => true
  | _, .negInf => false
  | .finite p, .finite q => p < q
  | .finite _, .posInf => true
  | .posInf, _ => false

theorem lt_iff (x y : FloatNumber) :
    x.lt y = true ↔ x ≠ .nan ∧ y ≠ .nan ∧ x.order < y.order := by
  cases x <;> cases y <;>
    simp [lt, order, WithBot.bot_lt_coe, WithTop.coe_lt_top, -WithBot.coe_top]

def le (x y : FloatNumber) : Bool := x ≠ .nan && y ≠ .nan && !lt y x

/-- At most is not above, between numbers. -/
theorem le_iff (x y : FloatNumber) :
    x.le y = true ↔ y.lt x = false ∧ x ≠ .nan ∧ y ≠ .nan := by
  simp only [le, Bool.and_eq_true, decide_eq_true_eq, Bool.not_eq_true']
  tauto

/-- The quotient by a finite number above zero. -/
def div (x : FloatNumber) (divisor : ℚ) : FloatNumber :=
  match x with
  | .finite q => .finite (q / divisor)
  | other => other

def value : FloatNumber → ℚ
  | .finite q => q
  | _ => 0

theorem le_iff_order (x y : FloatNumber) :
    x.le y = true ↔ x ≠ .nan ∧ y ≠ .nan ∧ x.order ≤ y.order := by
  have hlt := lt_iff y x
  rw [le_iff, Bool.eq_false_iff, ne_eq, hlt, ← not_lt]
  tauto

protected theorem le_trans {x y z : FloatNumber} (hxy : x.le y = true) (hyz : y.le z = true) :
    x.le z = true := by
  rw [le_iff_order] at hxy hyz ⊢
  exact ⟨hxy.1, hyz.2.1, hxy.2.2.trans hyz.2.2⟩

protected theorem lt_of_le_of_lt {x y z : FloatNumber} (hxy : x.le y = true) (hyz : y.lt z = true) :
    x.lt z = true := by
  rw [le_iff_order] at hxy
  rw [lt_iff] at hyz ⊢
  exact ⟨hxy.1, hyz.2.1, hxy.2.2.trans_lt hyz.2.2⟩

protected theorem lt_of_lt_of_le {x y z : FloatNumber} (hxy : x.lt y = true) (hyz : y.le z = true) :
    x.lt z = true := by
  rw [le_iff_order] at hyz
  rw [lt_iff] at hxy ⊢
  exact ⟨hxy.1, hyz.2.1, hxy.2.2.trans_le hyz.2.2⟩

/-- What is neither at most a number nor below it is at least that number. -/
protected theorem le_of_not_lt {x y : FloatNumber} (hx : x ≠ .nan) (hy : y ≠ .nan) (h : y.lt x = false) :
    x.le y = true :=
  (le_iff x y).mpr ⟨h, hx, hy⟩

/-- What is not at most a finite number and below another one is finite. -/
theorem finite_of_not_le_of_lt {x : FloatNumber} {p q : ℚ} (h : x.le (.finite p) = false)
    (h' : x.lt (.finite q) = true) : x = .finite x.value ∧ p < x.value ∧ x.value < q := by
  cases x <;> simp_all [le, lt, value]

/-- The quotient by a number above zero keeps the order. -/
protected theorem div_le_div {x y : FloatNumber} {divisor : ℚ} (hdivisor : 0 < divisor)
    (h : x.le y = true) : (x.div divisor).le (y.div divisor) = true := by
  cases x <;> cases y <;> simp_all [le, lt, div, div_lt_div_iff_of_pos_right]

theorem div_eq_nan_iff (x : FloatNumber) (divisor : ℚ) : x.div divisor = .nan ↔ x = .nan := by
  cases x <;> simp [div]

/-- Above zero is not at most zero, of a number. -/
theorem positive_iff (x : FloatNumber) :
    lt (.finite 0) x = true ↔ x.le (.finite 0) = false ∧ x ≠ .nan := by
  cases x <;> simp [lt, le]

def sub : FloatNumber → FloatNumber → FloatNumber
  | .nan, _ => .nan
  | _, .nan => .nan
  | .finite p, .finite q => .finite (p - q)
  | .posInf, .posInf => .nan
  | .negInf, .negInf => .nan
  | .posInf, _ => .posInf
  | .negInf, _ => .negInf
  | _, .posInf => .negInf
  | _, .negInf => .posInf

/-- The text of a value, with the text of its digits. -/
def text (digits : ℚ → String) : FloatNumber → String
  | .nan => "nan"
  | .negInf => "-inf"
  | .finite q => digits q
  | .posInf => "inf"

def fixedPoint (digits : ℕ) (x : FloatNumber) : String := x.text (Library.fixedPoint digits)

def percent (x : FloatNumber) : String :=
  x.text (fun q => Library.fixedPoint 1 (q * 100)) ++ "%"

/-- What a loop keeps that replaces its incumbent by each better value. -/
def best (better : FloatNumber → FloatNumber → Bool) (first : FloatNumber)
    (rest : List FloatNumber) : FloatNumber :=
  rest.foldl (fun m x => if better x m then x else m) first

def least (first : FloatNumber) (rest : List FloatNumber) : FloatNumber := best lt first rest

def greatest (first : FloatNumber) (rest : List FloatNumber) : FloatNumber :=
  best (fun x m => lt m x) first rest

section Best
variable {β : Type*} [LinearOrder β] {better : FloatNumber → FloatNumber → Bool}
  {rank : FloatNumber → β}

theorem best_nan (hbetter : ∀ x, better x .nan = false) (rest : List FloatNumber) :
    best better .nan rest = .nan := by
  induction rest with
  | nil => rfl
  | cons x rest ih =>
    rw [best, List.foldl_cons, hbetter]
    exact ih

/-- From a number the loop ends with a number of the list before which none ranks. -/
theorem best_spec
    (hbetter : ∀ x y, better x y = true ↔ x ≠ .nan ∧ y ≠ .nan ∧ rank x < rank y)
    (first : FloatNumber) (hfirst : first ≠ .nan) (rest : List FloatNumber) :
    best better first rest ≠ .nan ∧ best better first rest ∈ first :: rest ∧
      ∀ x ∈ first :: rest, x ≠ .nan → rank (best better first rest) ≤ rank x := by
  induction rest generalizing first with
  | nil => exact ⟨hfirst, List.mem_singleton_self first, by simp [best]⟩
  | cons x rest ih =>
    have hcons : best better first (x :: rest) =
        best better (if better x first then x else first) rest := rfl
    rw [hcons]
    split_ifs with hx
    · obtain ⟨hxnan, -, hlt⟩ := (hbetter x first).mp hx
      obtain ⟨hnan, hmem, hleast⟩ := ih x hxnan
      refine ⟨hnan, List.mem_cons_of_mem first hmem, ?_⟩
      rw [List.forall_mem_cons]
      exact ⟨fun _ => (hleast x List.mem_cons_self hxnan).trans hlt.le, hleast⟩
    · obtain ⟨hnan, hmem, hleast⟩ := ih first hfirst
      rw [List.forall_mem_cons] at hleast
      have hfirstLeast := hleast.1 hfirst
      refine ⟨hnan, ?_, ?_⟩
      · rcases List.mem_cons.mp hmem with heq | hrest
        · rw [heq]
          exact List.mem_cons_self
        · exact List.mem_cons_of_mem first (List.mem_cons_of_mem x hrest)
      · rw [List.forall_mem_cons, List.forall_mem_cons]
        refine ⟨fun _ => hfirstLeast, fun hxnan => hfirstLeast.trans ?_, hleast.2⟩
        by_contra hlt
        exact hx ((hbetter x first).mpr ⟨hxnan, hfirst, not_le.mp hlt⟩)

end Best

theorem least_nan (rest : List FloatNumber) : least .nan rest = .nan :=
  best_nan (fun x => by cases x <;> rfl) rest

theorem least_spec (first : FloatNumber) (hfirst : first ≠ .nan) (rest : List FloatNumber) :
    least first rest ≠ .nan ∧ least first rest ∈ first :: rest ∧
      ∀ x ∈ first :: rest, x ≠ .nan → (least first rest).order ≤ x.order :=
  best_spec lt_iff first hfirst rest

theorem greatest_spec (first : FloatNumber) (hfirst : first ≠ .nan) (rest : List FloatNumber) :
    greatest first rest ≠ .nan ∧ greatest first rest ∈ first :: rest ∧
      ∀ x ∈ first :: rest, x ≠ .nan → x.order ≤ (greatest first rest).order := by
  have hbetter : ∀ x y : FloatNumber, lt y x = true ↔ x ≠ .nan ∧ y ≠ .nan ∧
      OrderDual.toDual x.order < OrderDual.toDual y.order := by
    intro x y
    rw [lt_iff, OrderDual.toDual_lt_toDual]
    exact ⟨fun ⟨hy, hx, hlt⟩ => ⟨hx, hy, hlt⟩, fun ⟨hx, hy, hlt⟩ => ⟨hy, hx, hlt⟩⟩
  exact best_spec hbetter first hfirst rest

@[simp] theorem order_finite_le (p q : ℚ) :
    (FloatNumber.finite p).order ≤ (FloatNumber.finite q).order ↔ p ≤ q := by
  simp [order]

/-- A number above zero. -/
def Positive : FloatNumber → Prop
  | .finite q => 0 < q
  | .posInf => True
  | _ => False

theorem Positive.of_le {x y : FloatNumber} (hx : x.Positive) (hy : y ≠ .nan)
    (h : x.order ≤ y.order) : y.Positive := by
  cases x with
  | nan => exact hx.elim
  | negInf => exact hx.elim
  | finite p =>
    cases y with
    | nan => exact absurd rfl hy
    | negInf => simp [order] at h
    | finite q =>
      rw [order_finite_le] at h
      exact lt_of_lt_of_le hx h
    | posInf => trivial
  | posInf =>
    cases y with
    | nan => exact absurd rfl hy
    | negInf => simp [order, -WithBot.coe_top] at h
    | finite q => simp [order, -WithBot.coe_top] at h
    | posInf => trivial

/-- What is at most a finite number and above zero is finite. -/
theorem Positive.finite_of_le {x : FloatNumber} (hx : x.Positive) {q : ℚ}
    (h : x.order ≤ (FloatNumber.finite q).order) : ∃ p, x = .finite p ∧ 0 < p ∧ p ≤ q := by
  cases x with
  | nan => exact hx.elim
  | negInf => exact hx.elim
  | finite p => exact ⟨p, rfl, hx, (order_finite_le p q).mp h⟩
  | posInf => simp [order, -WithBot.coe_top] at h

/-- What is at least a finite number is finite or infinite. -/
theorem finite_or_posInf {y : FloatNumber} (hy : y ≠ .nan) {q : ℚ}
    (h : (FloatNumber.finite q).order ≤ y.order) : y = .posInf ∨ ∃ r, y = .finite r ∧ q ≤ r := by
  cases y with
  | nan => exact absurd rfl hy
  | negInf => simp [order] at h
  | finite r => exact Or.inr ⟨r, rfl, (order_finite_le q r).mp h⟩
  | posInf => exact Or.inl rfl

end FloatNumber

section Representation

/-- The distance of neighbouring doubles at the magnitude of a number. -/
def ulp (q : ℚ) : ℚ := 2 ^ (max (Int.log 2 |q|) (-1022) - 52)

/-- The double that the result of an operation is represented by, as long as it is finite. -/
def binary64 (q : ℚ) : ℚ := roundHalfEven (q / ulp q) * ulp q

example : binary64 (1 / 10) = 3602879701896397 / 36028797018963968 := by decide +kernel

end Representation

end ContinuityOS.Library
