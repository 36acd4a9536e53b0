import Mathlib.LinearAlgebra.Matrix.ToLinearEquiv
import ContinuityOS.Library.Fallible
import ContinuityOS.Library.LinearSystem
import ContinuityOS.Library.Selection

/-! # The linear solver of the regression

Gauss-Jordan elimination with the largest remaining entry of a column as its pivot. A column
without a pivot above the threshold stops it.
-/
namespace ContinuityOS.Analysis
open Library

def singularMatrix : String := "regression design matrix is singular; increase ridge_alpha"

def pivotThreshold : ℚ := 1 / 10 ^ 12

/-- The first row from the diagonal down with the largest entry in the column. -/
def pivotRow (augmented : List (List ℚ)) (column : ℕ) : ℕ :=
  let entry := fun row => |(augmented.getD row []).getD column 0|
  ((List.range' column (augmented.length - column)).foldl
    (keepBetter fun row best => decide (entry best < entry row)) none).getD column

def eliminateColumn (augmented : List (List ℚ)) (column : ℕ) : Except String (List (List ℚ)) :=
  let pivot := pivotRow augmented column
  if |(augmented.getD pivot []).getD column 0| < pivotThreshold then .error singularMatrix
  else .ok (LinearSystem.clearColumn augmented column pivot)

def solve (matrix : List (List ℚ)) (vector : List ℚ) : Except String (List ℚ) := do
  let augmented := List.zipWith (fun row value => row ++ [value]) matrix vector
  let reduced ← (List.range augmented.length).foldlM eliminateColumn augmented
  return reduced.map fun row => row.getLastD 0

section Elimination
variable {augmented : List (List ℚ)} {column : ℕ}

theorem pivotRow_mem (h : column < augmented.length) :
    column ≤ pivotRow augmented column ∧ pivotRow augmented column < augmented.length := by
  have hkeeps : KeepsLeast (fun row => -|(augmented.getD row []).getD column 0|)
      (fun row => False ∨ row ∈ List.range' column (augmented.length - column))
      ((List.range' column (augmented.length - column)).foldl (keepBetter fun row best => decide
        (|(augmented.getD best []).getD column 0| < |(augmented.getD row []).getD column 0|))
        none) :=
    foldl_keepBetter_keepsLeast (by simp) _ fun _ hfalse => hfalse
  unfold pivotRow
  dsimp only
  revert hkeeps
  cases (List.range' column (augmented.length - column)).foldl _ none with
  | none => exact fun _ => ⟨le_rfl, h⟩
  | some pivot =>
    intro hkeeps
    have hmem := List.mem_range'_1.mp (hkeeps.1.resolve_left id)
    rw [Option.getD_some]
    omega

/-- What a column that is eliminated has had for a pivot, and what becomes of the rows. -/
theorem eliminateColumn_ok {reduced : List (List ℚ)} (h : column < augmented.length)
    (hok : eliminateColumn augmented column = .ok reduced) :
    ∃ pivot, column ≤ pivot ∧ pivot < augmented.length ∧
      (augmented.getD pivot []).getD column 0 ≠ 0 ∧
      reduced = LinearSystem.clearColumn augmented column pivot := by
  unfold eliminateColumn at hok
  dsimp only at hok
  split_ifs at hok with hsmall
  obtain ⟨hle, hlt⟩ := pivotRow_mem h
  refine ⟨_, hle, hlt, ?_, (Except.ok.inj hok).symm⟩
  intro hzero
  rw [hzero, abs_zero, pivotThreshold] at hsmall
  norm_num at hsmall

theorem eliminateColumn_error {e : String} (h : eliminateColumn augmented column = .error e) :
    e = singularMatrix := by
  unfold eliminateColumn at h
  dsimp only at h
  split_ifs at h
  exact (Except.error.inj h).symm

/-- Every number of columns eliminated leaves as many unit columns and the same solutions. -/
theorem foldlM_eliminateColumn {size width : ℕ} {reduced : List (List ℚ)}
    (hshape : LinearSystem.Shaped size width augmented) (columns : ℕ) (hle : columns ≤ size)
    (h : (List.range columns).foldlM eliminateColumn augmented = .ok reduced) :
    LinearSystem.Shaped size width reduced ∧ LinearSystem.UnitColumns size columns reduced ∧
      ∀ point, LinearSystem.Holds size reduced point ↔
        LinearSystem.Holds size augmented point := by
  induction columns generalizing reduced with
  | zero =>
    rw [List.range_zero, List.foldlM_nil] at h
    cases h
    exact ⟨hshape, fun i _ j hj => absurd hj (Nat.not_lt_zero j), fun _ => Iff.rfl⟩
  | succ columns ih =>
    rw [List.range_succ, List.foldlM_append, bind_eq_ok] at h
    obtain ⟨before, hbefore, hlast⟩ := h
    obtain ⟨hshaped, hunit, hholds⟩ := ih (by omega) hbefore
    rw [List.foldlM_cons, bind_eq_ok] at hlast
    obtain ⟨after, hafter, hnil⟩ := hlast
    cases hnil
    obtain ⟨pivot, hcolumn, hpivot, hne, rfl⟩ :=
      eliminateColumn_ok (by rw [hshaped.1]; omega) hafter
    rw [hshaped.1] at hpivot
    have hlt : columns < size := by omega
    refine ⟨hshaped.clearColumn hlt hpivot,
      LinearSystem.unitColumns_clearColumn hshaped hpivot hcolumn hne hunit, fun point => ?_⟩
    rw [LinearSystem.holds_clearColumn hshaped hlt hpivot hne, hholds]

theorem foldlM_eliminateColumn_error {e : String} {columns : List ℕ}
    (h : columns.foldlM eliminateColumn augmented = .error e) : e = singularMatrix := by
  induction columns generalizing augmented with
  | nil => cases h
  | cons column columns ih =>
    rw [List.foldlM_cons] at h
    cases hstep : eliminateColumn augmented column with
    | error e' =>
      rw [hstep, error_bind] at h
      cases h
      exact eliminateColumn_error hstep
    | ok next =>
      rw [hstep, ok_bind] at h
      exact ih h

end Elimination

section Solutions
variable {n : ℕ} {M : Matrix (Fin n) (Fin n) ℚ} {v : Fin n → ℚ}

/-- A matrix as the list of its rows. -/
def rowsOf (M : Matrix (Fin n) (Fin n) ℚ) : List (List ℚ) := List.ofFn fun i => List.ofFn (M i)

theorem solve_error {e : String} {matrix : List (List ℚ)} {vector : List ℚ}
    (h : solve matrix vector = .error e) : e = singularMatrix := by
  unfold solve at h
  dsimp only at h
  generalize hreduced : List.foldlM eliminateColumn _ _ = reduced at h
  cases reduced with
  | error e' =>
    cases h
    exact foldlM_eliminateColumn_error hreduced
  | ok rows => cases h

/-- A returned vector is the one solution. -/
theorem solve_ok {x : List ℚ} (h : solve (rowsOf M) (List.ofFn v) = .ok x) :
    ∃ x' : Fin n → ℚ, x = List.ofFn x' ∧ ∀ y, M.mulVec y = v ↔ y = x' := by
  unfold solve at h
  dsimp only at h
  change (List.range (LinearSystem.augmented M v).length).foldlM eliminateColumn
    (LinearSystem.augmented M v) >>= _ = _ at h
  obtain ⟨reduced, hreduced, hx⟩ := bind_eq_ok.mp h
  rw [(LinearSystem.shaped_augmented M v).1] at hreduced
  obtain ⟨hshape, hunit, hholds⟩ :=
    foldlM_eliminateColumn (LinearSystem.shaped_augmented M v) n le_rfl hreduced
  refine ⟨fun i => (reduced.getD i []).getD n 0, ?_, fun y => ?_⟩
  · cases hx
    apply List.ext_getElem
    · simp [hshape.1]
    · intro k hk _
      rw [List.length_map] at hk
      have hlength : reduced[k].length = n + 1 := hshape.2 _ (List.getElem_mem hk)
      rw [List.getElem_map, List.getElem_ofFn, List.getD_eq_getElem _ _ hk,
        List.getLastD_eq_getLast?, List.getLast?_eq_getElem?, hlength, List.getD_eq_getElem?_getD]
      rfl
  · rw [← LinearSystem.holds_augmented, ← hholds, LinearSystem.holds_unitColumns hshape hunit]
    exact ⟨fun hy => funext hy, fun hy i => congrFun hy i⟩

/-- The solver returns the only solution of a system, and an error for a singular matrix. -/
theorem solve_correct {n : ℕ} (M : Matrix (Fin n) (Fin n) ℚ) (v : Fin n → ℚ) :
    (∀ x, solve (rowsOf M) (List.ofFn v) = .ok x →
      ∃ x' : Fin n → ℚ, x = List.ofFn x' ∧ M.mulVec x' = v ∧ ∀ y, M.mulVec y = v → y = x') ∧
    (M.det = 0 → solve (rowsOf M) (List.ofFn v) = .error singularMatrix) := by
  constructor
  · intro x hx
    obtain ⟨x', rfl, hsolution⟩ := solve_ok hx
    exact ⟨x', rfl, (hsolution x').mpr rfl, fun y => (hsolution y).mp⟩
  · intro hdet
    cases hsolve : solve (rowsOf M) (List.ofFn v) with
    | error e => rw [solve_error hsolve]
    | ok x =>
      obtain ⟨x', -, hsolution⟩ := solve_ok hsolve
      obtain ⟨w, hw, hzero⟩ := Matrix.exists_mulVec_eq_zero_iff.mpr hdet
      -- a second solution, shifted along the kernel
      have hshift : M.mulVec (x' + w) = v := by
        rw [Matrix.mulVec_add, hzero, add_zero, (hsolution x').mpr rfl]
      exact absurd (add_eq_left.mp ((hsolution _).mp hshift)) hw

theorem solve_correct_exchanged : solve (rowsOf !![0, 2; 3, 1]) (List.ofFn ![4, 5]) = .ok [1, 2] ∧
    ∃ x' : Fin 2 → ℚ, [1, 2] = List.ofFn x' ∧ (!![0, 2; 3, 1]).mulVec x' = ![4, 5] ∧
      ∀ y, (!![0, 2; 3, 1]).mulVec y = ![4, 5] → y = x' := by
  have hsolve : solve (rowsOf !![0, 2; 3, 1]) (List.ofFn ![4, 5]) = .ok [1, 2] := by decide +kernel
  exact ⟨hsolve, (solve_correct !![0, 2; 3, 1] ![4, 5]).1 _ hsolve⟩

end Solutions

end ContinuityOS.Analysis
