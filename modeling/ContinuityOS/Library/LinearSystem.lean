import Mathlib.Algebra.BigOperators.Fin
import Mathlib.Algebra.Field.Basic
import Mathlib.Data.List.GetD
import Mathlib.Logic.Equiv.Basic
import Mathlib.Tactic

/-! # Linear systems as lists of rows

A row of coefficients with its right-hand side holds at a point when its value at the point
followed by minus one is zero. Row operations keep what holds.
-/
namespace ContinuityOS.Library.LinearSystem

universe u
variable {α : Type u} {K : Type u}

def swapAt (l : List α) (i j : ℕ) (default : α) : List α :=
  (l.set i (l.getD j default)).set j (l.getD i default)

theorem length_swapAt (l : List α) (i j : ℕ) (default : α) :
    (swapAt l i j default).length = l.length := by
  rw [swapAt, List.length_set, List.length_set]

theorem getD_set (l : List α) {i : ℕ} (hi : i < l.length) (a default : α) (k : ℕ) :
    (l.set i a).getD k default = if k = i then a else l.getD k default := by
  rw [List.getD_eq_getElem?_getD, List.getElem?_set, List.getD_eq_getElem?_getD]
  by_cases h : i = k
  · subst h
    simp [hi]
  · rw [if_neg h, if_neg (Ne.symm h)]

theorem getD_swapAt {l : List α} {i j : ℕ} (hi : i < l.length) (hj : j < l.length) (default : α)
    (k : ℕ) : (swapAt l i j default).getD k default = l.getD (Equiv.swap i j k) default := by
  rw [swapAt, getD_set _ (by rwa [List.length_set]), getD_set _ hi, Equiv.swap_apply_def]
  by_cases hkj : k = j
  · subst hkj
    by_cases hki : k = i
    · simp [hki]
    · simp [hki]
  · by_cases hki : k = i
    · subst hki
      simp [hkj]
    · simp [hki, hkj]

theorem getD_mapIdx (f : ℕ → α → α) {l : List α} {k : ℕ} (hk : k < l.length) (default : α) :
    (l.mapIdx f).getD k default = f k (l.getD k default) := by
  rw [List.getD_eq_getElem?_getD, List.getElem?_mapIdx, List.getD_eq_getElem?_getD,
    List.getElem?_eq_getElem hk]
  rfl

section Shape

/-- So many rows of one length. -/
def Shaped (size width : ℕ) (rows : List (List K)) : Prop :=
  rows.length = size ∧ ∀ row ∈ rows, row.length = width

theorem Shaped.getD_length {size width : ℕ} {rows : List (List K)} (h : Shaped size width rows)
    {i : ℕ} (hi : i < size) : (rows.getD i []).length = width := by
  have hi' : i < rows.length := h.1 ▸ hi
  rw [List.getD_eq_getElem?_getD, List.getElem?_eq_getElem hi']
  exact h.2 _ (List.getElem_mem hi')

variable {n : ℕ}

/-- The rows of a square system with its right-hand side. -/
def augmented (M : Matrix (Fin n) (Fin n) K) (b : Fin n → K) : List (List K) :=
  List.zipWith (fun row a => row ++ [a]) (List.ofFn fun i => List.ofFn (M i)) (List.ofFn b)

theorem getD_augmented (M : Matrix (Fin n) (Fin n) K) (b : Fin n → K) (i : Fin n) :
    (augmented M b).getD i [] = List.ofFn (M i) ++ [b i] := by
  rw [List.getD_eq_getElem?_getD, augmented, List.getElem?_zipWith]
  simp

theorem shaped_augmented (M : Matrix (Fin n) (Fin n) K) (b : Fin n → K) :
    Shaped n (n + 1) (augmented M b) := by
  have hlength : (augmented M b).length = n := by simp [augmented]
  refine ⟨hlength, fun row hrow => ?_⟩
  obtain ⟨i, hi, rfl⟩ := List.getElem_of_mem hrow
  have hget := getD_augmented M b ⟨i, hlength ▸ hi⟩
  rw [List.getD_eq_getElem _ _ hi] at hget
  rw [hget]
  simp

end Shape

variable [Field K]

/-- The value of a row of coefficients at a point. -/
def value (row point : List K) : K := (List.zipWith (· * ·) row point).sum

theorem value_scale (row point : List K) (d : K) :
    value (row.map fun a => a / d) point = value row point / d := by
  unfold value
  induction row generalizing point with
  | nil => simp
  | cons a row ih =>
    cases point with
    | nil => simp
    | cons b point =>
      rw [List.map_cons, List.zipWith_cons_cons, List.zipWith_cons_cons, List.sum_cons,
        List.sum_cons, ih point, add_div, div_mul_eq_mul_div]

theorem value_subtract {row pivot : List K} (h : row.length = pivot.length) (point : List K)
    (factor : K) :
    value (List.zipWith (fun a b => a - factor * b) row pivot) point =
      value row point - factor * value pivot point := by
  unfold value
  induction row generalizing pivot point with
  | nil => simp [List.length_eq_zero_iff.mp h.symm]
  | cons a row ih =>
    obtain ⟨b, pivot, rfl⟩ := List.exists_cons_of_length_eq_add_one h.symm
    cases point with
    | nil => simp
    | cons c point =>
      rw [List.zipWith_cons_cons, List.zipWith_cons_cons, List.zipWith_cons_cons,
        List.zipWith_cons_cons, List.sum_cons, List.sum_cons, List.sum_cons,
        ih (Nat.succ.inj h) point]
      ring

theorem getD_scale (row : List K) (d : K) (j : ℕ) :
    (row.map fun a => a / d).getD j 0 = row.getD j 0 / d := by
  rw [List.getD_eq_getElem?_getD, List.getElem?_map, List.getD_eq_getElem?_getD]
  cases row[j]? with
  | none => simp
  | some a => rfl

theorem getD_subtract {row pivot : List K} (h : row.length = pivot.length) (factor : K) (j : ℕ) :
    (List.zipWith (fun a b => a - factor * b) row pivot).getD j 0 =
      row.getD j 0 - factor * pivot.getD j 0 := by
  rw [List.getD_eq_getElem?_getD, List.getD_eq_getElem?_getD, List.getD_eq_getElem?_getD,
    List.getElem?_zipWith]
  by_cases hj : j < row.length
  · rw [List.getElem?_eq_getElem hj, List.getElem?_eq_getElem (h ▸ hj)]
    rfl
  · rw [List.getElem?_eq_none (not_lt.mp hj), List.getElem?_eq_none (h ▸ not_lt.mp hj)]
    simp

def Holds (size : ℕ) (rows : List (List K)) (point : List K) : Prop :=
  ∀ i < size, value (rows.getD i []) point = 0

/-- The first columns are those of the identity. -/
def UnitColumns (size columns : ℕ) (rows : List (List K)) : Prop :=
  ∀ i < size, ∀ j < columns, (rows.getD i []).getD j 0 = if i = j then 1 else 0

/-- A row brought to the top of the remaining ones, scaled and subtracted from all others. -/
def clearColumn (rows : List (List K)) (column pivot : ℕ) : List (List K) :=
  let swapped := swapAt rows column pivot []
  let divisor := (swapped.getD column []).getD column 0
  let pivotRow := (swapped.getD column []).map fun a => a / divisor
  (swapped.set column pivotRow).mapIdx fun i row =>
    if i = column then row
    else List.zipWith (fun a b => a - row.getD column 0 * b) row pivotRow

section Clear
variable {size width : ℕ} {rows : List (List K)} {column pivot : ℕ}

theorem getD_clearColumn (h : Shaped size width rows) (hcolumn : column < size)
    (hpivot : pivot < size) {i : ℕ} (hi : i < size) :
    (clearColumn rows column pivot).getD i [] =
      if i = column then
        (rows.getD pivot []).map fun a => a / (rows.getD pivot []).getD column 0
      else List.zipWith
        (fun a b => a - (rows.getD (Equiv.swap column pivot i) []).getD column 0 * b)
        (rows.getD (Equiv.swap column pivot i) [])
        ((rows.getD pivot []).map fun a => a / (rows.getD pivot []).getD column 0) := by
  have hlength := h.1
  have hswap := getD_swapAt (l := rows) (i := column) (j := pivot) (by omega) (by omega) []
  unfold clearColumn
  dsimp only
  rw [getD_mapIdx _ (by rw [List.length_set, length_swapAt]; omega),
    getD_set _ (by rw [length_swapAt]; omega), hswap, hswap, Equiv.swap_apply_left]
  by_cases hic : i = column
  · rw [if_pos hic, if_pos hic, if_pos hic]
  · rw [if_neg hic, if_neg hic, if_neg hic]

theorem swap_lt (hcolumn : column < size) (hpivot : pivot < size) {i : ℕ} (hi : i < size) :
    Equiv.swap column pivot i < size := by
  rw [Equiv.swap_apply_def]
  split_ifs <;> assumption

theorem Shaped.clearColumn (h : Shaped size width rows) (hcolumn : column < size)
    (hpivot : pivot < size) : Shaped size width (clearColumn rows column pivot) := by
  have hlength : (LinearSystem.clearColumn rows column pivot).length = size := by
    unfold LinearSystem.clearColumn
    dsimp only
    rw [List.length_mapIdx, List.length_set, length_swapAt, h.1]
  refine ⟨hlength, fun row hrow => ?_⟩
  obtain ⟨i, hi, rfl⟩ := List.getElem_of_mem hrow
  have hget := getD_clearColumn h hcolumn hpivot (hlength ▸ hi)
  rw [List.getD_eq_getElem _ _ hi] at hget
  rw [hget]
  split_ifs
  · rw [List.length_map, h.getD_length hpivot]
  · rw [List.length_zipWith, List.length_map, h.getD_length hpivot,
      h.getD_length (swap_lt hcolumn hpivot (hlength ▸ hi)), min_self]

/-- Clearing a column with a nonzero pivot keeps the points at which all rows hold. -/
theorem holds_clearColumn (h : Shaped size width rows) (hcolumn : column < size)
    (hpivot : pivot < size) (hne : (rows.getD pivot []).getD column 0 ≠ 0) (point : List K) :
    Holds size (clearColumn rows column pivot) point ↔ Holds size rows point := by
  have hlengths : ∀ i < size, (rows.getD (Equiv.swap column pivot i) []).length =
      ((rows.getD pivot []).map fun a => a / (rows.getD pivot []).getD column 0).length := by
    intro i hi
    rw [List.length_map, h.getD_length (swap_lt hcolumn hpivot hi), h.getD_length hpivot]
  have hvalue : ∀ i < size, value ((clearColumn rows column pivot).getD i []) point =
      if i = column then value (rows.getD pivot []) point / (rows.getD pivot []).getD column 0
      else value (rows.getD (Equiv.swap column pivot i) []) point -
        (rows.getD (Equiv.swap column pivot i) []).getD column 0 *
          (value (rows.getD pivot []) point / (rows.getD pivot []).getD column 0) := by
    intro i hi
    rw [getD_clearColumn h hcolumn hpivot hi]
    split_ifs
    · exact value_scale _ _ _
    · rw [value_subtract (hlengths i hi), value_scale]
  constructor
  · intro hall
    have hzero : value (rows.getD pivot []) point = 0 := by
      have hpivotRow := hall column hcolumn
      rw [hvalue column hcolumn, if_pos rfl] at hpivotRow
      exact (div_eq_zero_iff.mp hpivotRow).resolve_right hne
    intro i hi
    -- the row that the swap brings to this place
    have hswapped := swap_lt hcolumn hpivot hi
    have hrow := hall _ hswapped
    rw [hvalue _ hswapped, Equiv.swap_apply_self] at hrow
    by_cases hic : Equiv.swap column pivot i = column
    · rw [Equiv.swap_apply_eq_iff, Equiv.swap_apply_left] at hic
      rw [hic]
      exact hzero
    · rw [if_neg hic, hzero, zero_div, mul_zero, sub_zero] at hrow
      exact hrow
  · intro hall i hi
    rw [hvalue i hi, hall pivot hpivot, hall _ (swap_lt hcolumn hpivot hi)]
    simp

theorem unitColumns_clearColumn (h : Shaped size width rows) (hpivot : pivot < size)
    (hle : column ≤ pivot) (hne : (rows.getD pivot []).getD column 0 ≠ 0)
    (hunit : UnitColumns size column rows) :
    UnitColumns size (column + 1) (clearColumn rows column pivot) := by
  have hcolumn : column < size := lt_of_le_of_lt hle hpivot
  intro i hi j hj
  rw [getD_clearColumn h hcolumn hpivot hi]
  by_cases hic : i = column
  · rw [if_pos hic, getD_scale, hic]
    by_cases hjc : j = column
    · rw [hjc, if_pos rfl, div_self hne]
    · rw [hunit pivot hpivot j (by omega), if_neg (by omega), if_neg (by omega), zero_div]
  · rw [if_neg hic, getD_subtract (by rw [List.length_map, h.getD_length hpivot,
      h.getD_length (swap_lt hcolumn hpivot hi)]), getD_scale]
    by_cases hjc : j = column
    · rw [hjc, if_neg hic, div_self hne, mul_one, sub_self]
    · rw [hunit pivot hpivot j (by omega), if_neg (show pivot ≠ j by omega), zero_div, mul_zero,
        sub_zero, hunit _ (swap_lt hcolumn hpivot hi) j (by omega), Equiv.swap_apply_def,
        if_neg hic]
      by_cases hip : i = pivot
      · rw [if_pos hip, if_neg (by omega), if_neg (by omega)]
      · rw [if_neg hip]

end Clear

section Square
variable {n : ℕ}

/-- A point with the coordinate that the right-hand side is multiplied with. -/
def atPoint (x : Fin n → K) : List K := List.ofFn x ++ [-1]

theorem value_ofFn (a x : Fin n → K) (b : K) :
    value (List.ofFn a ++ [b]) (atPoint x) = (∑ j, a j * x j) - b := by
  have hzip : List.zipWith (· * ·) (List.ofFn a) (List.ofFn x) = List.ofFn fun j => a j * x j := by
    apply List.ext_getElem
    · simp
    · intro k _ _
      simp
  rw [value, atPoint, List.zipWith_append (by simp), hzip, List.sum_append, List.sum_ofFn,
    List.zipWith_cons_cons, List.zipWith_nil_right, List.sum_singleton]
  ring

theorem holds_augmented (M : Matrix (Fin n) (Fin n) K) (b x : Fin n → K) :
    Holds n (augmented M b) (atPoint x) ↔ M.mulVec x = b := by
  constructor
  · intro h
    funext i
    have hrow := h i i.isLt
    rw [getD_augmented, value_ofFn] at hrow
    exact sub_eq_zero.mp hrow
  · intro h i hi
    have hget := getD_augmented M b ⟨i, hi⟩
    dsimp only at hget
    rw [hget, value_ofFn, sub_eq_zero]
    exact congrFun h ⟨i, hi⟩

/-- Rows with all unit columns hold at their own right-hand sides and nowhere else. -/
theorem holds_unitColumns {rows : List (List K)} (hshape : Shaped n (n + 1) rows)
    (hunit : UnitColumns n n rows) (x : Fin n → K) :
    Holds n rows (atPoint x) ↔ ∀ i : Fin n, x i = (rows.getD i []).getD n 0 := by
  have hrow : ∀ i : Fin n, rows.getD i [] =
      List.ofFn (fun j : Fin n => if i = j then (1 : K) else 0) ++ [(rows.getD i []).getD n 0] := by
    intro i
    apply List.ext_getElem
    · rw [hshape.getD_length i.isLt]
      simp
    · intro k hk _
      rw [hshape.getD_length i.isLt] at hk
      rw [← List.getD_eq_getElem _ 0]
      rcases Nat.lt_succ_iff_lt_or_eq.mp hk with hlt | rfl
      · rw [hunit i i.isLt k hlt, List.getElem_append_left (by simpa using hlt)]
        simp [Fin.ext_iff]
      · rw [List.getElem_append_right (by simp)]
        simp
  have hvalue : ∀ i : Fin n, value (rows.getD i []) (atPoint x) =
      x i - (rows.getD i []).getD n 0 := by
    intro i
    conv_lhs => rw [hrow i]
    rw [value_ofFn]
    simp
  constructor
  · intro h i
    exact sub_eq_zero.mp ((hvalue i).symm.trans (h i i.isLt))
  · intro h i hi
    exact (hvalue ⟨i, hi⟩).trans (sub_eq_zero.mpr (h ⟨i, hi⟩))

end Square

end ContinuityOS.Library.LinearSystem
