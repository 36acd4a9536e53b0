import Mathlib.Data.Rat.Floor
import Mathlib.Data.String.Basic
import Mathlib.Algebra.Order.Floor.Ring
import ContinuityOS.Domain.Corridor
import ContinuityOS.Library.Dict
import ContinuityOS.Library.Sorting
import ContinuityOS.Analysis.LinearSolver

/-! # The regression with a temporal holdout

Rows are put in the order of their times; the last of them are held out. The other rows give the
standardisation and the ridge solution, which is then scored on the rows held out. The square root
is a parameter.
-/
namespace ContinuityOS.Analysis
open Library

inductive ReviewState where
  | unreviewed | analystReviewed | approvedForPilot
deriving DecidableEq

def ReviewState.value : ReviewState → String
  | .unreviewed => "unreviewed"
  | .analystReviewed => "analyst_reviewed"
  | .approvedForPilot => "approved_for_pilot"

/-- One outcome with its indicators at a time. -/
structure RegressionRow where
  observedAt : Instant
  target : ℚ
  features : Dict String ℚ
  sourceIds : List String
  snapshotIds : List String
  normalizationMethod : String := "source-native"
  qualityFlags : List String := []
  reviewState : ReviewState := .unreviewed
  featuresLength : 2 ≤ features.entries.length ∧ features.entries.length ≤ 64 := by decide
  sourceIdsLength : 1 ≤ sourceIds.length ∧ sourceIds.length ≤ 32 := by decide
  snapshotIdsLength : 1 ≤ snapshotIds.length ∧ snapshotIds.length ≤ 32 := by decide
  normalizationMethodLength : 2 ≤ normalizationMethod.length ∧
    normalizationMethod.length ≤ 128 := by decide
  qualityFlagsLength : qualityFlags.length ≤ 32 := by decide

structure RegressionRequest where
  datasetId : String
  targetName : String
  rows : List RegressionRow
  ridgeAlpha : ℚ := 1 / 10
  testFraction : ℚ := 1 / 5
  labelDefinition : String :=
    "operator-defined; validate against an authoritative outcome before use"
  datasetLicence : String := "source-specific; verify before deployment"
  datasetIdLength : 2 ≤ datasetId.length ∧ datasetId.length ≤ 128 := by decide
  targetNameLength : 2 ≤ targetName.length ∧ targetName.length ≤ 128 := by decide
  rowsLength : 8 ≤ rows.length ∧ rows.length ≤ 10000 := by decide
  ridgeAlphaRange : 0 ≤ ridgeAlpha ∧ ridgeAlpha ≤ 1000000 := by norm_num
  testFractionRange : 0 < testFraction ∧ testFraction < 1 / 2 := by norm_num
  labelDefinitionLength : 8 ≤ labelDefinition.length ∧ labelDefinition.length ≤ 512 := by decide
  datasetLicenceLength : 8 ≤ datasetLicence.length := by decide

structure RegressionCoefficient where
  feature : String
  coefficient : ℚ
  standardizedEffect : ℚ
  trainMean : ℚ
  trainStddev : ℚ
deriving DecidableEq

structure RegressionResult where
  datasetId : String
  targetName : String
  rowCount : ℕ
  featureCount : ℕ
  trainRowCount : ℕ
  testRowCount : ℕ
  trainStart : Instant
  trainEnd : Instant
  testStart : Instant
  testEnd : Instant
  ridgeAlpha : ℚ
  coefficients : List RegressionCoefficient
  intercept : ℚ
  testRmse : ℚ
  testMae : ℚ
  testR2 : Option ℚ
  sourceIds : List String
  snapshotIds : List String
  normalizationMethods : List String
  qualityFlags : List String
  reviewStates : List String
  limitations : List String
deriving DecidableEq

/-- The columns of a matrix, as long as every row goes. -/
def transpose (matrix : List (List ℚ)) : List (List ℚ) :=
  (List.range ((matrix.map List.length).min?.getD 0)).map fun column =>
    matrix.map fun row => row.getD column 0

def matmul (left right : List (List ℚ)) : List (List ℚ) :=
  left.map fun leftRow => (List.range (right.headD []).length).map fun column =>
    ((List.range right.length).map fun k => leftRow.getD k 0 * (right.getD k []).getD column 0).sum

def RegressionRow.feature (row : RegressionRow) (name : String) : ℚ := row.features.getD name 0

def RegressionRow.featureNames (row : RegressionRow) : List String := sortedBy id row.features.keys

def orderedRows (rows : List RegressionRow) : List RegressionRow :=
  sortedBy RegressionRow.observedAt rows

/-- The feature names that all rows share, once there are enough of them and of the rows. -/
def checkedFeatureNames (ordered : List RegressionRow) : Except String (List String) := do
  let featureNames ← match ordered with
    | [] => .error "list index out of range"
    | first :: _ => pure first.featureNames
  if featureNames.length < 2 then
    throw "at least two indicators are required for multivariate regression"
  if ordered.any fun row => decide (row.featureNames ≠ featureNames) then
    throw "every row must contain exactly the same feature names"
  if ordered.length < max 8 (featureNames.length + 4) then
    throw "insufficient rows for the requested feature count"
  return featureNames

/-- How many rows train: never too few for the features, and two are always held out. -/
def splitIndex (rowCount featureCount : ℕ) (testFraction : ℚ) : ℕ :=
  min (max ⌊(rowCount : ℚ) * (1 - testFraction)⌋.toNat (featureCount + 2)) (rowCount - 2)

def mean (values : List ℚ) : ℚ := values.sum / values.length

/-- What the training rows determine. -/
structure Fitted where
  means : List ℚ
  stddevs : List ℚ
  weights : List ℚ

def trainStddev (sqrt : ℚ → ℚ) (train : List RegressionRow) (name : String) (trainMean : ℚ) : ℚ :=
  let variance := (train.map fun row => (row.feature name - trainMean) ^ 2).sum /
    ((max 1 (train.length - 1) : ℕ) : ℚ)
  if sqrt variance = 0 then 1 else sqrt variance

def design (featureNames : List String) (means stddevs : List ℚ) (rows : List RegressionRow) :
    List (List ℚ) :=
  rows.map fun row => 1 :: List.zipWith (fun name scale => (row.feature name - scale.1) / scale.2)
    featureNames (means.zip stddevs)

def addRidge (ridgeAlpha : ℚ) (gram : List (List ℚ)) : List (List ℚ) :=
  gram.mapIdx fun index row =>
    if index = 0 then row else row.set index (row.getD index 0 + ridgeAlpha)

def fit (sqrt : ℚ → ℚ) (ridgeAlpha : ℚ) (featureNames : List String)
    (train : List RegressionRow) : Except String Fitted := do
  let means := featureNames.map fun name => mean (train.map fun row => row.feature name)
  let stddevs := List.zipWith (trainStddev sqrt train) featureNames means
  let xTrain := design featureNames means stddevs train
  let yTrain := train.map RegressionRow.target
  let gram := addRidge ridgeAlpha (matmul (transpose xTrain) xTrain)
  let rhs := (List.range gram.length).map fun column =>
    ((List.range train.length).map fun row =>
      (xTrain.getD row []).getD column 0 * yTrain.getD row 0).sum
  let weights ← solve gram rhs
  return ⟨means, stddevs, weights⟩

def Fitted.coefficients (fitted : Fitted) (featureNames : List String) :
    List RegressionCoefficient :=
  featureNames.mapIdx fun index name =>
    { feature := name
      coefficient := fitted.weights.getD (index + 1) 0 / fitted.stddevs.getD index 0
      standardizedEffect := fitted.weights.getD (index + 1) 0
      trainMean := fitted.means.getD index 0
      trainStddev := fitted.stddevs.getD index 0 }

def limitations (request : RegressionRequest) : List String :=
  ["Associational model; coefficients are not causal effects or intelligence judgments.",
    "Temporal holdout is used, but this is not a validated operational forecast.",
    "Results depend on source quality, coverage, normalization, confounding, and selection bias.",
    "Human review and domain-specific validation are required before any consequential use.",
    "Label definition: " ++ request.labelDefinition,
    "Dataset licence: " ++ request.datasetLicence,
    "Rows marked unreviewed or carrying quality flags must not be treated as " ++
      "validated labels or operational truth."]

def collected (rows : List RegressionRow) (texts : RegressionRow → List String) : List String :=
  sortedSet (rows.flatMap texts).toFinset

def holdout (request : RegressionRequest) (featureNames : List String) :
    List RegressionRow × List RegressionRow :=
  (orderedRows request.rows).splitAt
    (splitIndex request.rows.length featureNames.length request.testFraction)

def runRegression (sqrt : ℚ → ℚ) (request : RegressionRequest) :
    Except String RegressionResult := do
  let ordered := orderedRows request.rows
  let featureNames ← checkedFeatureNames ordered
  let (train, test) := holdout request featureNames
  let fitted ← fit sqrt request.ridgeAlpha featureNames train
  let predictions := (design featureNames fitted.means fitted.stddevs test).map fun row =>
    (List.zipWith (· * ·) row fitted.weights).sum
  let residuals := List.zipWith (fun prediction row => prediction - row.target) predictions test
  let mae := mean (residuals.map abs)
  let rmse := sqrt (mean (residuals.map fun value => value * value))
  let targetMean := mean (test.map RegressionRow.target)
  let total := (test.map fun row => (row.target - targetMean) ^ 2).sum
  let r2 := if total ≤ 1 / 10 ^ 12 then none
    else some (1 - (residuals.map fun value => value * value).sum / total)
  let observedAt := fun row : Option RegressionRow => (row.map RegressionRow.observedAt).getD 0
  return {
    datasetId := request.datasetId
    targetName := request.targetName
    rowCount := ordered.length
    featureCount := featureNames.length
    trainRowCount := train.length
    testRowCount := test.length
    trainStart := observedAt train.head?
    trainEnd := observedAt train.getLast?
    testStart := observedAt test.head?
    testEnd := observedAt test.getLast?
    ridgeAlpha := request.ridgeAlpha
    coefficients := fitted.coefficients featureNames
    intercept := fitted.weights.getD 0 0
    testRmse := rmse
    testMae := mae
    testR2 := r2
    sourceIds := collected ordered RegressionRow.sourceIds
    snapshotIds := collected ordered RegressionRow.snapshotIds
    normalizationMethods := collected ordered fun row => [row.normalizationMethod]
    qualityFlags := collected ordered RegressionRow.qualityFlags
    reviewStates := collected ordered fun row => [row.reviewState.value]
    limitations := limitations request }

section Checks
variable {ordered : List RegressionRow} {featureNames : List String}

theorem checkedFeatureNames_ok (h : checkedFeatureNames ordered = .ok featureNames) :
    (∀ row ∈ ordered, row.featureNames = featureNames) ∧
      featureNames.length + 4 ≤ ordered.length := by
  unfold checkedFeatureNames at h
  cases ordered with
  | nil => cases h
  | cons first rest =>
    simp only [pure_eq_ok, ok_bind, throw_eq_error, error_bind] at h
    split_ifs at h with hfew hnames hrows
    obtain rfl := Except.ok.inj h
    rw [List.any_eq_true, not_exists] at hnames
    refine ⟨fun row hrow => ?_, by omega⟩
    have hrow' := hnames row
    rw [not_and, decide_eq_true_eq, not_not] at hrow'
    exact hrow' hrow

theorem length_orderedRows (rows : List RegressionRow) :
    (orderedRows rows).length = rows.length := (sortedBy_perm _ rows).length_eq

theorem splitIndex_bounds {rowCount featureCount : ℕ} (h : featureCount + 4 ≤ rowCount)
    (testFraction : ℚ) : featureCount + 2 ≤ splitIndex rowCount featureCount testFraction ∧
      splitIndex rowCount featureCount testFraction + 2 ≤ rowCount := by
  unfold splitIndex
  omega

theorem holdout_eq (request : RegressionRequest) (featureNames : List String) :
    holdout request featureNames =
      ((orderedRows request.rows).take
          (splitIndex request.rows.length featureNames.length request.testFraction),
        (orderedRows request.rows).drop
          (splitIndex request.rows.length featureNames.length request.testFraction)) :=
  List.splitAt_eq

end Checks

end ContinuityOS.Analysis
