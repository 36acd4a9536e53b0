import ContinuityOS.Compiler.Optimality

/-! # Budget and order stability of the compiler

A larger budget only adds feasible sets, and a set that costs no more than a
feasible one is feasible too. So a met objective fixes the selection, and an
unmet one is never projected lower.
-/
namespace ContinuityOS.Compiler
open Library

/-- The same request with a budget at least as large. -/
def CompileRequest.raiseBudget (request : CompileRequest) (budget : ℚ)
    (h : request.objective.budget ≤ budget) : CompileRequest :=
  { request with objective :=
      { request.objective with budget := budget, budget_pos := request.objective.budget_pos.trans_le h } }

section Order
variable {request : CompileRequest}

theorem sortedActions_perm
    (hids : (request.availableActions.map MitigationAction.actionId).Nodup)
    {l : List MitigationAction} (h : l.Perm request.availableActions) :
    sortedActions { request with availableActions := l } = sortedActions request :=
  (sortedBy_eq_of_perm MitigationAction.actionId h.symm
    (List.pairwise_map.mp (List.nodup_iff_pairwise_ne.mp hids))).symm

/-- With distinct ids the whole plan is the same for every order of the actions. -/
theorem compile_perm (maxActions : ℕ)
    (hids : (request.availableActions.map MitigationAction.actionId).Nodup)
    {l : List MitigationAction} (h : l.Perm request.availableActions) :
    compile maxActions { request with availableActions := l } = compile maxActions request := by
  have hsorted := sortedActions_perm hids h
  have hbest : selectBest { request with availableActions := l } = selectBest request := by
    unfold selectBest
    rw [hsorted]
    rfl
  unfold compile
  rw [hsorted, hbest]
  rfl

end Order

section Keys
variable {request : CompileRequest} {S T : List MitigationAction}

theorem totalCost_le_of_costKey_le (h : costKey request S ≤ costKey request T) :
    totalCost S ≤ totalCost T := by
  rw [costKey, costKey, Prod.Lex.toLex_le_toLex] at h
  exact h.elim le_of_lt (fun he => he.1.le)

theorem continuityOf_le_of_continuityKey_le
    (h : continuityKey request S ≤ continuityKey request T) :
    continuityOf request T ≤ continuityOf request S := by
  rw [continuityKey, continuityKey, Prod.Lex.toLex_le_toLex] at h
  exact neg_le_neg_iff.mp (h.elim le_of_lt (fun he => he.1.le))

/-- With distinct ids a set is determined by its key. -/
theorem eq_of_costKey_eq (hids : (request.availableActions.map MitigationAction.actionId).Nodup)
    (hS : S.Sublist (sortedActions request)) (hT : T.Sublist (sortedActions request))
    (h : costKey request S = costKey request T) : S = T := by
  have hkeys : ((sortedActions request).map MitigationAction.actionId).Nodup :=
    ((sortedBy_perm MitigationAction.actionId _).map _).nodup_iff.mpr hids
  have hsorted : sortedIds S = sortedIds T := by
    simp only [costKey, EmbeddingLike.apply_eq_iff_eq, Prod.mk.injEq] at h
    exact h.2.2
  rw [sortedIds_of_sublist hS, sortedIds_of_sublist hT] at hsorted
  exact sublist_eq_of_map_eq MitigationAction.actionId hkeys hS hT hsorted

end Keys

section Budget
variable {request : CompileRequest} {budget : ℚ} (hb : request.objective.budget ≤ budget)
  {S T : List MitigationAction}
include hb

theorem Feasible.raiseBudget (h : Feasible request S) :
    Feasible (request.raiseBudget budget hb) S :=
  ⟨h.within.trans hb, h.prerequisites, h.compatible⟩

theorem Feasible.lowerBudget (h : Feasible (request.raiseBudget budget hb) S)
    (hcost : totalCost S ≤ request.objective.budget) : Feasible request S :=
  ⟨hcost, h.prerequisites, h.compatible⟩

variable (hS : S.Sublist (sortedActions request)) (hfeasS : Feasible request S)
  (hminS : ∀ T, T.Subperm request.availableActions → Feasible request T →
    rank request S ≤ rank request T)
  (hT : T.Sublist (sortedActions request)) (hfeasT : Feasible (request.raiseBudget budget hb) T)
  (hminT : ∀ U, U.Subperm request.availableActions →
    Feasible (request.raiseBudget budget hb) U → rank request T ≤ rank request U)
include hS hfeasS hminT

theorem meets_of_raiseBudget (hmeets : MeetsObjective request S) : MeetsObjective request T :=
  (rank_le_of_meets request hmeets
    (hminT S (subperm_of_sublist request hS) (hfeasS.raiseBudget hb))).1

theorem continuityOf_le_of_raiseBudget (hnot : ¬ MeetsObjective request S)
    (hnot' : ¬ MeetsObjective request T) : continuityOf request S ≤ continuityOf request T :=
  continuityOf_le_of_continuityKey_le (rank_le_of_not_meets request hnot' hnot
    (hminT S (subperm_of_sublist request hS) (hfeasS.raiseBudget hb)))

include hminS hT hfeasT

/-- The least set at the larger budget costs no more, so it was feasible before. -/
theorem selection_eq_of_raiseBudget
    (hids : (request.availableActions.map MitigationAction.actionId).Nodup)
    (hmeets : MeetsObjective request S) : T = S := by
  obtain ⟨hmeetsT, hkey⟩ := rank_le_of_meets request hmeets
    (hminT S (subperm_of_sublist request hS) (hfeasS.raiseBudget hb))
  have hcost : totalCost T ≤ request.objective.budget :=
    (totalCost_le_of_costKey_le hkey).trans hfeasS.within
  have hkey' := (rank_le_of_meets request hmeetsT
    (hminS T (subperm_of_sublist request hT) (hfeasT.lowerBudget hb hcost))).2
  exact eq_of_costKey_eq hids hT hS (le_antisymm hkey hkey')

end Budget

theorem planOf_objectiveMet (request : CompileRequest) (S : List MitigationAction) :
    (planOf request (candidateOf request S)).objectiveMet = true ↔ MeetsObjective request S := by
  simp only [planOf, Candidate.meets, decide_eq_true_eq]
  rfl

/-- The selection does not depend on the order of the actions, a met objective
fixes it for every larger budget, and a larger budget never projects less. -/
theorem compile_stable (maxActions : ℕ) (request : CompileRequest)
    (hids : (request.availableActions.map MitigationAction.actionId).Nodup)
    (hlen : request.availableActions.length ≤ maxActions) :
    (∀ l : List MitigationAction, l.Perm request.availableActions →
      ∃ plan plan', compile maxActions request = .ok plan ∧
        compile maxActions { request with availableActions := l } = .ok plan' ∧
        plan'.selectedActions = plan.selectedActions) ∧
    ∀ (budget : ℚ) (hb : request.objective.budget ≤ budget),
      ∃ plan plan', compile maxActions request = .ok plan ∧
        compile maxActions (request.raiseBudget budget hb) = .ok plan' ∧
        (plan.objectiveMet = true → plan'.selectedActions = plan.selectedActions) ∧
        (plan.objectiveMet = true → plan'.objectiveMet = true) ∧
        (plan.objectiveMet = false → plan'.objectiveMet = false →
          plan.projectedContinuity.val ≤ plan'.projectedContinuity.val) := by
  obtain ⟨S, hcompile, -, hS, hfeasS, hminS⟩ := compile_spec request maxActions hlen
  constructor
  · intro l hl
    exact ⟨_, _, hcompile, (compile_perm maxActions hids hl).trans hcompile, rfl⟩
  · intro budget hb
    obtain ⟨T, hcompile', -, hT, hfeasT, hminT⟩ :=
      compile_spec (request.raiseBudget budget hb) maxActions hlen
    refine ⟨_, _, hcompile, hcompile', ?_, ?_, ?_⟩
    · rw [planOf_objectiveMet]
      exact selection_eq_of_raiseBudget hb hS hfeasS hminS hT hfeasT hminT hids
    · rw [planOf_objectiveMet, planOf_objectiveMet]
      exact meets_of_raiseBudget hb hS hfeasS hminT
    · rw [← Bool.not_eq_true, ← Bool.not_eq_true, planOf_objectiveMet, planOf_objectiveMet]
      intro hnot hnot'
      exact roundDigits_mono 6 (continuityOf_le_of_raiseBudget hb hS hfeasS hminT hnot hnot')

theorem escortRequest_met : ∀ plan, compile 24 escortRequest = .ok plan →
    plan.objectiveMet = true := by
  intro plan hplan
  obtain ⟨S, hcompile, -, -, -, hmin⟩ := compile_spec escortRequest 24 (by decide)
  rw [hcompile] at hplan
  cases hplan
  rw [planOf_objectiveMet]
  exact (rank_le_of_meets escortRequest escort_meets
    (hmin _ escort_subperm escort_feasible)).1

/-- The same plan for another order of the actions and for twice the budget. -/
theorem compile_stable_escort :
    (∃ plan plan', compile 24 escortRequest = .ok plan ∧
      compile 24 { escortRequest with availableActions := [survey, reroute, escort] } =
        .ok plan' ∧
      plan'.selectedActions = plan.selectedActions) ∧
    ∃ plan plan', compile 24 escortRequest = .ok plan ∧
      compile 24 (escortRequest.raiseBudget 200 (by decide)) = .ok plan' ∧
      plan.objectiveMet = true ∧ plan'.selectedActions = plan.selectedActions := by
  have hstable := compile_stable 24 escortRequest (by decide) (by decide)
  have hperm : [survey, reroute, escort].Perm escortRequest.availableActions :=
    @List.perm_append_comm _ [survey] [reroute, escort]
  obtain ⟨plan, plan', hplan, hplan', hsame, -⟩ := hstable.2 200 (by decide)
  have hmet := escortRequest_met plan hplan
  exact ⟨hstable.1 _ hperm, plan, plan', hplan, hplan', hmet, hsame hmet⟩

end ContinuityOS.Compiler
