import ContinuityOS.Analysis.Regression

/-! # The rows held out leave no trace in the fit

The rows held out are the last in time. Requests that differ in the values of these rows only train
on the same rows.
-/
namespace ContinuityOS.Analysis
open Library

/-- The positions of the rows held out. -/
def testIndices (request : RegressionRequest) (featureNames : List String) : List ℕ :=
  ((sortedBy (fun row : RegressionRow × ℕ => row.1.observedAt) request.rows.zipIdx).drop
    (splitIndex request.rows.length featureNames.length request.testFraction)).map Prod.snd

/-- Rows that differ at most in their target and in the values of their features. -/
structure SameButValues (row row' : RegressionRow) : Prop where
  observedAt : row.observedAt = row'.observedAt
  featureNames : row.features.keys.Perm row'.features.keys
  sourceIds : row.sourceIds = row'.sourceIds
  snapshotIds : row.snapshotIds = row'.snapshotIds
  normalizationMethod : row.normalizationMethod = row'.normalizationMethod
  qualityFlags : row.qualityFlags = row'.qualityFlags
  reviewState : row.reviewState = row'.reviewState

theorem SameButValues.refl (row : RegressionRow) : SameButValues row row :=
  ⟨rfl, .refl _, rfl, rfl, rfl, rfl, rfl⟩

/-- Requests that differ at most in the values of the rows held out. -/
structure SameButTestValues (featureNames : List String) (request request' : RegressionRequest) :
    Prop where
  datasetId : request.datasetId = request'.datasetId
  targetName : request.targetName = request'.targetName
  ridgeAlpha : request.ridgeAlpha = request'.ridgeAlpha
  testFraction : request.testFraction = request'.testFraction
  labelDefinition : request.labelDefinition = request'.labelDefinition
  datasetLicence : request.datasetLicence = request'.datasetLicence
  rows : List.Forall₂ (fun row row' => SameButValues row.1 row' ∧
    (row.2 ∉ testIndices request featureNames → row' = row.1)) request.rows.zipIdx request'.rows

/-- What a result says of the training rows: the coefficients, with the mean and the standard
deviation of each feature, and the intercept. -/
def RegressionResult.fitted (result : RegressionResult) : List RegressionCoefficient × ℚ :=
  (result.coefficients, result.intercept)

section Partition
variable {request : RegressionRequest} {featureNames : List String}

theorem holdout_perm : ((holdout request featureNames).1 ++
    (holdout request featureNames).2).Perm request.rows := by
  rw [holdout_eq, List.take_append_drop]
  exact sortedBy_perm _ _

theorem holdout_sizes (h : featureNames.length + 4 ≤ request.rows.length) :
    featureNames.length + 2 ≤ (holdout request featureNames).1.length ∧
      2 ≤ (holdout request featureNames).2.length := by
  have hbounds := splitIndex_bounds h request.testFraction
  rw [holdout_eq, List.length_take, List.length_drop, length_orderedRows]
  omega

theorem holdout_ordered : ∀ row ∈ (holdout request featureNames).1,
    ∀ row' ∈ (holdout request featureNames).2, row.observedAt ≤ row'.observedAt := by
  have hsorted := pairwise_sortedBy RegressionRow.observedAt request.rows
  change (orderedRows request.rows).Pairwise _ at hsorted
  rw [← List.take_append_drop
    (splitIndex request.rows.length featureNames.length request.testFraction)
    (orderedRows request.rows), List.pairwise_append] at hsorted
  rw [holdout_eq]
  exact hsorted.2.2

end Partition

section TwoRuns
variable {request request' : RegressionRequest} {featureNames : List String}

/-- Both requests' rows in one order, each with its position in the first. -/
def pairedRows (request request' : RegressionRequest) : List ((RegressionRow × ℕ) × RegressionRow) :=
  sortedBy (fun pair => pair.1.1.observedAt) (request.rows.zipIdx.zip request'.rows)

theorem SameButTestValues.length_eq (h : SameButTestValues featureNames request request') :
    request.rows.length = request'.rows.length := by
  have hlength := h.rows.length_eq
  rwa [List.length_zipIdx] at hlength

theorem SameButTestValues.of_mem (h : SameButTestValues featureNames request request')
    {pair : (RegressionRow × ℕ) × RegressionRow} (hpair : pair ∈ pairedRows request request') :
    SameButValues pair.1.1 pair.2 ∧
      (pair.1.2 ∉ testIndices request featureNames → pair.2 = pair.1.1) :=
  (List.forall₂_iff_zip.mp h.rows).2 ((mem_sortedBy _ _ _).mp hpair)

theorem map_fst_pairedRows (h : SameButTestValues featureNames request request') :
    (pairedRows request request').map Prod.fst =
      sortedBy (fun row : RegressionRow × ℕ => row.1.observedAt) request.rows.zipIdx := by
  rw [pairedRows, ← sortedBy_map (fun row : RegressionRow × ℕ => row.1.observedAt) Prod.fst,
    List.map_fst_zip (by rw [List.length_zipIdx, h.length_eq])]

theorem orderedRows_fst (h : SameButTestValues featureNames request request') :
    orderedRows request.rows = (pairedRows request request').map fun pair => pair.1.1 := by
  have hrows : request.rows.zipIdx.map Prod.fst = request.rows := List.zipIdx_map_fst _ _
  rw [orderedRows]
  conv_lhs => rw [← hrows]
  rw [sortedBy_map, ← map_fst_pairedRows h, List.map_map]
  rfl

theorem orderedRows_snd (h : SameButTestValues featureNames request request') :
    orderedRows request'.rows = (pairedRows request request').map Prod.snd := by
  have hrows : (request.rows.zipIdx.zip request'.rows).map Prod.snd = request'.rows :=
    List.map_snd_zip (by rw [List.length_zipIdx, h.length_eq])
  rw [orderedRows]
  conv_lhs => rw [← hrows]
  rw [sortedBy_map, pairedRows]
  congr 1
  apply sortedBy_congr
  intro pair hpair
  exact ((List.forall₂_iff_zip.mp h.rows).2 hpair).1.observedAt.symm

/-- The rows before the split are the same in both requests. -/
theorem holdout_train_eq (h : SameButTestValues featureNames request request') :
    (holdout request featureNames).1 = (holdout request' featureNames).1 := by
  rw [holdout_eq, holdout_eq, orderedRows_fst h, orderedRows_snd h, ← h.testFraction, ← h.length_eq,
    ← List.map_take, ← List.map_take]
  apply List.map_congr_left
  intro pair hpair
  refine ((h.of_mem (List.mem_of_mem_take hpair)).2 ?_).symm
  have hnodup : ((pairedRows request request').map fun pair => pair.1.2).Nodup := by
    have hsnd := (sortedBy_perm (fun row : RegressionRow × ℕ => row.1.observedAt)
      request.rows.zipIdx).map Prod.snd
    rw [← map_fst_pairedRows h, List.map_map, List.zipIdx_map_snd] at hsnd
    exact hsnd.nodup_iff.mpr (List.nodup_range' _)
  rw [testIndices, ← map_fst_pairedRows h, ← List.map_drop, List.map_map]
  rw [← List.take_append_drop (splitIndex request.rows.length featureNames.length
    request.testFraction) (pairedRows request request'), List.map_append, List.nodup_append] at hnodup
  exact fun htest => hnodup.2.2 _ (List.mem_map_of_mem hpair) _ htest rfl

theorem map_featureNames_eq (h : SameButTestValues featureNames request request') :
    (orderedRows request.rows).map RegressionRow.featureNames =
      (orderedRows request'.rows).map RegressionRow.featureNames := by
  rw [orderedRows_fst h, orderedRows_snd h, List.map_map, List.map_map]
  apply List.map_congr_left
  intro pair hpair
  exact sortedBy_eq_of_perm id (h.of_mem hpair).1.featureNames pair.1.1.features.nodup

/-- The checks read nothing of the rows but the names of their features. -/
theorem checkedFeatureNames_congr {ordered ordered' : List RegressionRow}
    (h : ordered.map RegressionRow.featureNames = ordered'.map RegressionRow.featureNames) :
    checkedFeatureNames ordered = checkedFeatureNames ordered' := by
  have hlength : ordered.length = ordered'.length := by
    rw [← List.length_map RegressionRow.featureNames, h, List.length_map]
  have hany : ∀ names : List String,
      (ordered.any fun row => decide (row.featureNames ≠ names)) =
        ordered'.any fun row => decide (row.featureNames ≠ names) := by
    intro names
    have hmap := congrArg (fun l => l.any fun names' => decide (names' ≠ names)) h
    simpa only [List.any_map, Function.comp_def] using hmap
  unfold checkedFeatureNames
  cases ordered with
  | nil =>
    rw [List.length_eq_zero_iff.mp hlength.symm]
  | cons first rest =>
    cases ordered' with
    | nil => cases hlength
    | cons first' rest' =>
      have hfirst : first.featureNames = first'.featureNames := (List.cons.inj h).1
      simp only [hany, hlength, hfirst]

theorem fitted_runRegression (sqrt : ℚ → ℚ) (request : RegressionRequest) :
    (runRegression sqrt request).map RegressionResult.fitted =
      (checkedFeatureNames (orderedRows request.rows)).bind fun featureNames =>
        (fit sqrt request.ridgeAlpha featureNames (holdout request featureNames).1).map
          fun fitted => (fitted.coefficients featureNames, fitted.weights.getD 0 0) := by
  unfold runRegression
  dsimp only
  cases checkedFeatureNames (orderedRows request.rows) with
  | error e => rfl
  | ok featureNames =>
    rw [ok_bind, Except.bind]
    cases fit sqrt request.ridgeAlpha featureNames (holdout request featureNames).1 with
    | error e => rfl
    | ok fitted => rfl

end TwoRuns

/-- Past the checks the rows are split in time, with enough of them on both sides, and what is
fitted does not depend on the values of the rows held out. -/
theorem holdout_sound (sqrt : ℚ → ℚ) {request : RegressionRequest} {featureNames : List String}
    (h : checkedFeatureNames (orderedRows request.rows) = .ok featureNames) :
    ((holdout request featureNames).1 ++ (holdout request featureNames).2).Perm request.rows ∧
      featureNames.length + 2 ≤ (holdout request featureNames).1.length ∧
      2 ≤ (holdout request featureNames).2.length ∧
      (∀ row ∈ (holdout request featureNames).1, ∀ row' ∈ (holdout request featureNames).2,
        row.observedAt ≤ row'.observedAt) ∧
      ∀ request', SameButTestValues featureNames request request' →
        (runRegression sqrt request).map RegressionResult.fitted =
          (runRegression sqrt request').map RegressionResult.fitted := by
  have hrows := (checkedFeatureNames_ok h).2
  rw [length_orderedRows] at hrows
  obtain ⟨htrain, htest⟩ := holdout_sizes hrows
  refine ⟨holdout_perm, htrain, htest, holdout_ordered, fun request' hsame => ?_⟩
  have hchecked := checkedFeatureNames_congr (map_featureNames_eq hsame)
  rw [fitted_runRegression, fitted_runRegression, ← hchecked, h, ← hsame.ridgeAlpha]
  simp only [Except.bind]
  rw [holdout_train_eq hsame]

/-- The square root of a fraction of squares. -/
def exactSqrt (q : ℚ) : ℚ := (Nat.sqrt q.num.natAbs : ℚ) / (Nat.sqrt q.den : ℚ)

def weeklyRow (week : ℕ) (target fuel ice : ℚ) : RegressionRow where
  observedAt := week * 604800000000
  target := target
  features := ⟨[("fuel", fuel), ("ice", ice)], by simp⟩
  sourceIds := ["field-log"]
  snapshotIds := ["field-log-2024"]
  featuresLength := by simp

def weeklyTrain : List RegressionRow :=
  [weeklyRow 0 3 3 0, weeklyRow 1 0 (-3) 3, weeklyRow 2 (-2) 1 (-3), weeklyRow 3 0 (-1) 1,
    weeklyRow 4 (-1) 0 (-1), weeklyRow 5 0 0 0]

def weeklyRequest (week6 week7 : RegressionRow) : RegressionRequest where
  datasetId := "weekly"
  targetName := "delay"
  rows := weeklyTrain ++ [week6, week7]
  ridgeAlpha := 0
  rowsLength := by simp [weeklyTrain]

theorem holdout_sound_weekly :
    (runRegression exactSqrt (weeklyRequest (weeklyRow 6 3 1 2) (weeklyRow 7 4 2 2))).map
        RegressionResult.fitted =
      (runRegression exactSqrt (weeklyRequest (weeklyRow 6 9 5 3) (weeklyRow 7 2 0 1))).map
        RegressionResult.fitted := by
  have hchecked : checkedFeatureNames (orderedRows (weeklyRequest (weeklyRow 6 3 1 2)
      (weeklyRow 7 4 2 2)).rows) = .ok ["fuel", "ice"] := by decide +kernel
  have htest : testIndices (weeklyRequest (weeklyRow 6 3 1 2) (weeklyRow 7 4 2 2))
      ["fuel", "ice"] = [6, 7] := by decide +kernel
  refine (holdout_sound exactSqrt hchecked).2.2.2.2 _ ⟨rfl, rfl, rfl, rfl, rfl, rfl, ?_⟩
  rw [htest]
  have htrain : ∀ row : RegressionRow × ℕ, SameButValues row.1 row.1 ∧
      (row.2 ∉ [6, 7] → row.1 = row.1) := fun row => ⟨.refl _, fun _ => rfl⟩
  have hheld : ∀ week fuel ice target fuel' ice' target', week ∈ [6, 7] →
      SameButValues (weeklyRow week target fuel ice) (weeklyRow week target' fuel' ice') ∧
        (week ∉ [6, 7] → weeklyRow week target' fuel' ice' = weeklyRow week target fuel ice) :=
    fun _ _ _ _ _ _ _ hweek => ⟨⟨rfl, .refl _, rfl, rfl, rfl, rfl, rfl⟩, fun hnot => absurd hweek hnot⟩
  exact .cons (htrain _) (.cons (htrain _) (.cons (htrain _) (.cons (htrain _) (.cons (htrain _)
    (.cons (htrain _) (.cons (hheld 6 1 2 3 5 3 9 (by decide))
      (.cons (hheld 7 2 2 4 0 1 2 (by decide)) .nil)))))))

end ContinuityOS.Analysis
