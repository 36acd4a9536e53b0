import ContinuityOS.Compiler.Projection

/-! # Optimality of the compiler

Candidates are compared by one key into a linear order: those that meet the
objective come first, by cost; the others follow, by continuity. The compiler
returns the least feasible sub-multiset of the available actions under that key.
-/
namespace ContinuityOS.Compiler
open Library

section Specification
variable (request : CompileRequest) (T : List MitigationAction)

/-- The set fits the budget and respects prerequisites and incompatibilities. -/
structure Feasible : Prop where
  within : totalCost T ≤ request.objective.budget
  prerequisites : ∀ action ∈ T, action.prerequisites ⊆ idSet T
  compatible : ∀ action ∈ T, Disjoint action.incompatibleWith (idSet T)

/-- The continuity projected for a set of actions. -/
def continuityOf : ℚ := (projectRisk request.assessment T).compl.val

def MeetsObjective : Prop := request.objective.minimumContinuity.val ≤ continuityOf request T

instance : Decidable (MeetsObjective request T) := inferInstanceAs (Decidable (_ ≤ _))

def sortedIds : List String := sortedBy id (T.map MitigationAction.actionId)

/-- Cheapest first, then highest continuity, then the ids. -/
def costKey : ℚ ×ₗ ℚ ×ₗ List String :=
  toLex (totalCost T, toLex (-continuityOf request T, sortedIds T))

/-- Highest continuity first, then the cheapest, then the ids. -/
def continuityKey : ℚ ×ₗ ℚ ×ₗ List String :=
  toLex (-continuityOf request T, toLex (totalCost T, sortedIds T))

/-- Sets that meet the objective come before those that do not. -/
def rank : Bool ×ₗ ℚ ×ₗ ℚ ×ₗ List String :=
  if MeetsObjective request T then toLex (false, costKey request T)
  else toLex (true, continuityKey request T)

def candidateOf : Candidate where
  actions := T
  cost := totalCost T
  continuity := (projectRisk request.assessment T).compl
  risk := projectRisk request.assessment T

end Specification

section Permutations
variable {request : CompileRequest} {S T : List MitigationAction}

theorem Feasible.perm (h : S.Perm T) (hS : Feasible request S) : Feasible request T where
  within := totalCost_perm h ▸ hS.within
  prerequisites := fun action hmem =>
    idSet_perm h ▸ hS.prerequisites action (h.mem_iff.mpr hmem)
  compatible := fun action hmem => idSet_perm h ▸ hS.compatible action (h.mem_iff.mpr hmem)

theorem continuityOf_perm (h : S.Perm T) : continuityOf request S = continuityOf request T := by
  rw [continuityOf, continuityOf, projectRisk_perm h]

theorem sortedIds_perm (h : S.Perm T) : sortedIds S = sortedIds T :=
  ((sortedBy_perm id _).trans ((h.map _).trans (sortedBy_perm id _).symm)).eq_of_pairwise
    (fun _ _ _ _ hab hba => le_antisymm hab hba) (pairwise_sortedBy id _) (pairwise_sortedBy id _)

theorem costKey_perm (h : S.Perm T) : costKey request S = costKey request T := by
  rw [costKey, costKey, totalCost_perm h, continuityOf_perm h, sortedIds_perm h]

theorem continuityKey_perm (h : S.Perm T) :
    continuityKey request S = continuityKey request T := by
  rw [continuityKey, continuityKey, totalCost_perm h, continuityOf_perm h, sortedIds_perm h]

theorem meetsObjective_perm (h : S.Perm T) :
    MeetsObjective request S ↔ MeetsObjective request T := by
  rw [MeetsObjective, MeetsObjective, continuityOf_perm h]

theorem rank_perm (h : S.Perm T) : rank request S = rank request T := by
  rw [rank, rank, costKey_perm h, continuityKey_perm h]
  exact if_congr (meetsObjective_perm h) rfl rfl

/-- A set enumerated from the sorted actions lists its ids in sorted order. -/
theorem sortedIds_of_sublist (h : S.Sublist (sortedActions request)) :
    sortedIds S = S.map MitigationAction.actionId := by
  have hsorted : (S.map MitigationAction.actionId).Pairwise (fun a b => a ≤ b) :=
    List.pairwise_map.mpr ((pairwise_sortedBy MitigationAction.actionId _).sublist h)
  exact (sortedBy_perm id _).eq_of_pairwise (fun _ _ _ _ hab hba => le_antisymm hab hba)
    (pairwise_sortedBy id _) hsorted

end Permutations

section Selection
variable (request : CompileRequest)

/-- The comparison key of a candidate. -/
def candidateRank (target : Score) (c : Candidate) : Bool ×ₗ ℚ ×ₗ ℚ ×ₗ List String :=
  if c.meets target then toLex (false, toLex (c.cost, toLex (-c.continuity.val, c.ids)))
  else toLex (true, toLex (-c.continuity.val, toLex (c.cost, c.ids)))

theorem better_iff_rank (target : Score) (a b : Candidate) :
    better target a b = true ↔ candidateRank target a < candidateRank target b := by
  unfold better candidateRank
  cases ha : a.meets target <;> cases hb : b.meets target
  · simp [Prod.Lex.toLex_lt_toLex]
  · simp [Prod.Lex.toLex_lt_toLex]
  · simp [Prod.Lex.toLex_lt_toLex]
  · simp [Prod.Lex.toLex_lt_toLex]

theorem evaluate_eq_some_iff (S : List MitigationAction) (c : Candidate) :
    evaluate request S = some c ↔ Feasible request S ∧ candidateOf request S = c := by
  unfold evaluate
  split_ifs with hcost hmembers
  · simp only [false_iff, not_and]
    exact fun hS => absurd hS.within (not_le.mpr hcost)
  · obtain ⟨action, hmem, hbad⟩ := hmembers
    simp only [false_iff, not_and]
    intro hS
    rcases hbad with hpre | hinc
    · exact absurd (hS.prerequisites action hmem) hpre
    · exact absurd (Finset.disjoint_iff_inter_eq_empty.mp (hS.compatible action hmem)) hinc
  · push Not at hcost hmembers
    have hS : Feasible request S :=
      ⟨hcost, fun action hmem => (hmembers action hmem).1,
        fun action hmem => Finset.disjoint_iff_inter_eq_empty.mpr (hmembers action hmem).2⟩
    simp [hS, candidateOf]

theorem selectBest_eq_foldl : selectBest request =
    (((List.range ((sortedActions request).length + 1)).flatMap fun count =>
      combinations count (sortedActions request)).filterMap (evaluate request)).foldl
        (keepBetter (better request.objective.minimumContinuity)) none := by
  rw [List.foldl_filterMap, List.foldl_flatMap]
  unfold selectBest
  congr 1
  funext best count
  congr 1
  funext best subset
  unfold considerSubset
  cases evaluate request subset <;> rfl

theorem mem_enumerated (S : List MitigationAction) :
    S ∈ (List.range ((sortedActions request).length + 1)).flatMap
      (fun count => combinations count (sortedActions request)) ↔
    S.Sublist (sortedActions request) := by
  simp only [List.mem_flatMap, List.mem_range, mem_combinations]
  constructor
  · rintro ⟨count, -, hS, -⟩
    exact hS
  · intro hS
    exact ⟨S.length, Nat.lt_succ_of_le hS.length_le, hS, rfl⟩

theorem selectBest_keepsLeast :
    KeepsLeast (candidateRank request.objective.minimumContinuity)
      (fun c => ∃ S, S.Sublist (sortedActions request) ∧ Feasible request S ∧
        candidateOf request S = c) (selectBest request) := by
  have hnone : KeepsLeast (candidateRank request.objective.minimumContinuity)
      (fun _ => False) none := fun _ => id
  rw [selectBest_eq_foldl]
  convert foldl_keepBetter_keepsLeast (better_iff_rank request.objective.minimumContinuity) _ hnone
    using 2
  simp only [false_or, List.mem_filterMap, mem_enumerated, evaluate_eq_some_iff]

theorem feasible_nil : Feasible request [] where
  within := by simpa [totalCost] using request.objective.budget_pos.le
  prerequisites := by simp
  compatible := by simp

theorem candidateRank_candidateOf {S : List MitigationAction}
    (h : S.Sublist (sortedActions request)) :
    candidateRank request.objective.minimumContinuity (candidateOf request S) =
      rank request S := by
  simp only [candidateRank, rank, Candidate.meets, decide_eq_true_eq, MeetsObjective, costKey,
    continuityKey, sortedIds_of_sublist h]
  rfl

/-- The loop ends with a feasible set of least rank among all sub-multisets. -/
theorem selectBest_spec : ∃ S, S.Sublist (sortedActions request) ∧ Feasible request S ∧
    selectBest request = some (candidateOf request S) ∧
    ∀ T, T.Subperm request.availableActions → Feasible request T →
      rank request S ≤ rank request T := by
  have hleast := selectBest_keepsLeast request
  cases hbest : selectBest request with
  | none =>
    rw [hbest] at hleast
    exact absurd ⟨[], List.nil_sublist _, feasible_nil request, rfl⟩ (hleast _)
  | some c =>
    rw [hbest] at hleast
    obtain ⟨⟨S, hsub, hfeasible, rfl⟩, hmin⟩ := hleast
    refine ⟨S, hsub, hfeasible, rfl, ?_⟩
    intro T hT hfeasT
    obtain ⟨T', hperm, hsub'⟩ :=
      hT.trans (sortedBy_perm MitigationAction.actionId request.availableActions).symm.subperm
    have hle := hmin _ ⟨T', hsub', hfeasT.perm hperm.symm, rfl⟩
    rwa [candidateRank_candidateOf request hsub, candidateRank_candidateOf request hsub',
      rank_perm hperm] at hle

theorem rank_le_of_meets {S T : List MitigationAction} (hT : MeetsObjective request T)
    (h : rank request S ≤ rank request T) :
    MeetsObjective request S ∧ costKey request S ≤ costKey request T := by
  by_cases hS : MeetsObjective request S
  · rw [rank, rank, if_pos hS, if_pos hT, Prod.Lex.toLex_le_toLex] at h
    exact ⟨hS, by simpa using h⟩
  · rw [rank, rank, if_neg hS, if_pos hT, Prod.Lex.toLex_le_toLex] at h
    have hlt : true < false := by simpa using h
    exact absurd hlt (by decide)

theorem rank_le_of_not_meets {S T : List MitigationAction} (hS : ¬ MeetsObjective request S)
    (hT : ¬ MeetsObjective request T) (h : rank request S ≤ rank request T) :
    continuityKey request S ≤ continuityKey request T := by
  rw [rank, rank, if_neg hS, if_neg hT, Prod.Lex.toLex_le_toLex] at h
  simpa using h

/-- A request within the action limit compiles to the plan of a least set. -/
theorem compile_spec (maxActions : ℕ) (h : request.availableActions.length ≤ maxActions) :
    ∃ S, compile maxActions request = .ok (planOf request (candidateOf request S)) ∧
      selectBest request = some (candidateOf request S) ∧
      S.Sublist (sortedActions request) ∧ Feasible request S ∧
      ∀ T, T.Subperm request.availableActions → Feasible request T →
        rank request S ≤ rank request T := by
  obtain ⟨S, hsub, hfeasible, hbest, hmin⟩ := selectBest_spec request
  refine ⟨S, ?_, hbest, hsub, hfeasible, hmin⟩
  have hlen : (sortedActions request).length = request.availableActions.length :=
    (sortedBy_perm MitigationAction.actionId _).length_eq
  rw [compile, if_neg (by omega), hbest]

theorem subperm_of_sublist {S : List MitigationAction} (h : S.Sublist (sortedActions request)) :
    S.Subperm request.availableActions :=
  h.subperm.trans (sortedBy_perm MitigationAction.actionId _).subperm

end Selection

/-- The compiler selects a feasible set: the cheapest one that meets the objective
when there is one, else one of maximum continuity. -/
theorem compile_optimal (maxActions : ℕ) (request : CompileRequest)
    (h : request.availableActions.length ≤ maxActions) :
    ∃ plan, compile maxActions request = .ok plan ∧
      plan.selectedActions.Subperm request.availableActions ∧
      Feasible request plan.selectedActions ∧
      selectBest request ≠ none ∧ plan.rejectedReason ≠ some infeasibleReason ∧
      ((∃ T : List MitigationAction, T.Subperm request.availableActions ∧ Feasible request T ∧
          MeetsObjective request T) →
        MeetsObjective request plan.selectedActions ∧
          ∀ T : List MitigationAction, T.Subperm request.availableActions → Feasible request T →
            MeetsObjective request T → costKey request plan.selectedActions ≤ costKey request T) ∧
      ((¬ ∃ T : List MitigationAction, T.Subperm request.availableActions ∧ Feasible request T ∧
          MeetsObjective request T) →
        ∀ T : List MitigationAction, T.Subperm request.availableActions → Feasible request T →
          continuityKey request plan.selectedActions ≤ continuityKey request T) := by
  obtain ⟨S, hcompile, hbest, hsub, hfeasible, hmin⟩ := compile_spec request maxActions h
  have hsubperm := subperm_of_sublist request hsub
  refine ⟨_, hcompile, hsubperm, hfeasible, by simp [hbest], ?_, ?_, ?_⟩
  · simp only [planOf]
    split_ifs
    · simp
    · simp [infeasibleReason]
  · rintro ⟨T, hT, hfeasT, hmeetsT⟩
    refine ⟨(rank_le_of_meets request hmeetsT (hmin T hT hfeasT)).1, ?_⟩
    intro T' hT' hfeasT' hmeetsT'
    exact (rank_le_of_meets request hmeetsT' (hmin T' hT' hfeasT')).2
  · intro hnone T hT hfeasT
    have hS : ¬ MeetsObjective request S := fun hm => hnone ⟨S, hsubperm, hfeasible, hm⟩
    have hT' : ¬ MeetsObjective request T := fun hm => hnone ⟨T, hT, hfeasT, hm⟩
    exact rank_le_of_not_meets request hS hT' (hmin T hT hfeasT)

theorem escort_budget_pos : (0 : ℚ) < 100 := by norm_num

theorem survey_cost_nonneg : (0 : ℚ) ≤ 10 := by norm_num

theorem survey_gain_mem : (0 : ℚ) ≤ 1 / 10 ∧ (1 / 10 : ℚ) ≤ 1 := by norm_num

/-- What an escort needs before it can be planned. -/
def survey : MitigationAction where
  actionId := "survey"
  name := "ice survey"
  cost := 10
  cost_nonneg := survey_cost_nonneg
  continuityGain := ⟨1 / 10, survey_gain_mem⟩
  rationale := "route reconnaissance"

def escort : MitigationAction where
  actionId := "escort"
  name := "escort"
  cost := 40
  cost_nonneg := by norm_num
  continuityGain := Score.half
  prerequisites := {"survey"}
  rationale := "icebreaker escort"

def reroute : MitigationAction where
  actionId := "reroute"
  name := "reroute"
  cost := 60
  cost_nonneg := by norm_num
  continuityGain := Score.half
  incompatibleWith := {"escort"}
  rationale := "southern route"

/-- One corridor at risk one half, which an escort with its survey or another route relieves. -/
def escortRequest : CompileRequest where
  assessment :=
    { assessmentId := "assessment", corridorId := "corridor", overallRisk := Score.half
      confidence := Score.one, state := .openDegraded, factors := []
      missingRequiredMetrics := [], caveats := [] }
  objective :=
    { minimumContinuity := ⟨7 / 10, by norm_num⟩, budget := 100, budget_pos := escort_budget_pos }
  availableActions := [reroute, escort, survey]

theorem escort_subperm : [escort, survey].Subperm escortRequest.availableActions :=
  (List.sublist_cons_self reroute [escort, survey]).subperm

theorem escort_feasible : Feasible escortRequest [escort, survey] where
  within := by decide +kernel
  prerequisites := by decide +kernel
  compatible := by decide +kernel

theorem escort_meets : MeetsObjective escortRequest [escort, survey] := by decide +kernel

/-- The escort is feasible with its survey only and the other route costs more, so that what is
selected meets the objective at the cost of these two. -/
theorem compile_optimal_escort :
    ∃ plan, compile 24 escortRequest = .ok plan ∧
      plan.selectedActions.Subperm escortRequest.availableActions ∧
      Feasible escortRequest plan.selectedActions ∧
      MeetsObjective escortRequest plan.selectedActions ∧
      costKey escortRequest plan.selectedActions ≤ costKey escortRequest [escort, survey] := by
  obtain ⟨plan, hplan, hsub, hfeasible, -, -, hmet, -⟩ :=
    compile_optimal 24 escortRequest (by decide)
  obtain ⟨hmeets, hleast⟩ := hmet ⟨_, escort_subperm, escort_feasible, escort_meets⟩
  exact ⟨plan, hplan, hsub, hfeasible, hmeets,
    hleast _ escort_subperm escort_feasible escort_meets⟩

end ContinuityOS.Compiler
