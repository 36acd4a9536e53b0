import ContinuityOS.Domain.Corridor
import ContinuityOS.Graph.CertainSpread
import ContinuityOS.Graph.Monotone
import ContinuityOS.Graph.Presentation

/-! # Scenarios of correlated failures

The closed targets of a scenario fail together and cascade through the graph. Every node of the
graph is counted once, as failed, affected or remaining, so that the clamps of the two totals
never come into play.
-/
namespace ContinuityOS.Scenarios
open Library ContinuityOS.Graph

structure ScenarioEvent where
  target : String
  state : CorridorState
  description : Option String := none

structure Scenario where
  scenarioId : String
  name : String
  events : List ScenarioEvent := []
  durationDays : ℕ := 30
  description : Option String := none

structure AffectedFacility where
  nodeId : String
  impactProbability : ℚ
  reason : String

structure PolicyViolation where
  checkId : String
  description : String
  severity : String

structure ScenarioResult where
  scenarioId : String
  eventsApplied : ℕ
  failedNodes : List String
  graphAssessment : Option GraphAssessment
  remainingViablePaths : ℤ
  totalCapacityLoss : ℚ
  affectedFacilities : List AffectedFacility
  dependencyCascades : List String
  policyViolations : List PolicyViolation
  recoveryRequired : Bool
  summary : String

def isClosed (state : CorridorState) : Bool :=
  state ∈ [CorridorState.functionallyClosed, CorridorState.physicallyClosed]

/-- The failed nodes and the cascades after one event more. -/
def applyEvent (g : DependencyGraph) (acc : Finset String × List String) (event : ScenarioEvent) :
    Finset String × List String :=
  if event.target ∈ g.nodeIds then
    if isClosed event.state then
      (insert event.target acc.1, acc.2 ++ [event.target ++ " → " ++ event.state.value])
    else acc
  else (acc.1, acc.2 ++ [event.target ++ " → not in graph (external)"])

def applyEvents (g : DependencyGraph) (events : List ScenarioEvent) :
    Finset String × List String := events.foldl (applyEvent g) (∅, [])

def affectedFacility (impact : ImpactedNode) : AffectedFacility where
  nodeId := impact.nodeId
  impactProbability := impact.impactProbability
  reason := "cascade from " ++ String.intercalate " → " impact.path

def affectedBy (failed : Finset String) (assessment : GraphAssessment) : List AffectedFacility :=
  (assessment.impactedNodes.filter fun impact => impact.nodeId ∉ failed).map affectedFacility

/-- Providers of at least three nodes. -/
def concentrated (assessment : GraphAssessment) : List (String × ℕ) :=
  assessment.providerConcentration.filter fun provider => 3 ≤ provider.2

/-- The violations of an assessment; `repr` writes a text as the language shows it. -/
def violationsOf (repr : String → String) (assessment : GraphAssessment) : List PolicyViolation :=
  (if assessment.singlePointsOfFailure.isEmpty then [] else
    [{ checkId := "SPOF_DETECTED"
       description := "Single points of failure exposed: " ++
         String.intercalate ", " assessment.singlePointsOfFailure
       severity := "error" }]) ++
  if (concentrated assessment).isEmpty then [] else
    [{ checkId := "PROVIDER_CONCENTRATION"
       description := "Provider concentration risk: \x7b" ++ String.intercalate ", "
         ((concentrated assessment).map fun provider =>
           repr provider.1 ++ ": " ++ toString provider.2) ++ "\x7d"
       severity := "warning" }]

def capacityLoss (affected total : ℕ) : ℚ :=
  if 0 < total then min 1 ((affected : ℚ) / total) else 0

def summaryOf (events failed affected violations : ℕ) (loss : ℚ) : String :=
  String.intercalate "; " <|
    [toString events ++ " events applied", toString failed ++ " nodes directly failed",
      toString affected ++ " downstream facilities affected", "capacity loss: " ++ percent loss] ++
    if violations = 0 then [] else [toString violations ++ " policy violations"]

def resultOf (repr : String → String) (scenario : Scenario) (g : DependencyGraph)
    (applied : Finset String × List String) (assessment : Option GraphAssessment) :
    ScenarioResult :=
  let affected := (assessment.map (affectedBy applied.1)).getD []
  let count := applied.1.card + affected.length
  let loss := capacityLoss count g.nodes.length
  let violations := (assessment.map (violationsOf repr)).getD []
  { scenarioId := scenario.scenarioId
    eventsApplied := scenario.events.length
    failedNodes := sortedSet applied.1
    graphAssessment := assessment
    remainingViablePaths := max 0 ((g.nodes.length : ℤ) - count)
    totalCapacityLoss := roundDigits 6 loss
    affectedFacilities := affected
    dependencyCascades := applied.2
    policyViolations := violations
    recoveryRequired := 1 / 10 < loss || 0 < violations.length
    summary := summaryOf scenario.events.length applied.1.card affected.length violations.length
      loss }

def simulateScenario (repr : String → String) (scenario : Scenario) (g : DependencyGraph) :
    Except AnalyzeError ScenarioResult := do
  let applied := applyEvents g scenario.events
  if applied.1 = ∅ then return resultOf repr scenario g applied none
  else
    let assessment ← analyze g applied.1
    return resultOf repr scenario g applied (some assessment)

/-- A node of the graph that some event closes. -/
def Closed (g : DependencyGraph) (events : List ScenarioEvent) (v : String) : Prop :=
  v ∈ g.nodeIds ∧ ∃ event ∈ events, event.target = v ∧ isClosed event.state = true

section Events
variable {g : DependencyGraph}

theorem mem_applyEvents (events : List ScenarioEvent) (v : String) :
    v ∈ (applyEvents g events).1 ↔ Closed g events v := by
  induction events using List.reverseRecOn with
  | nil => simp [applyEvents, Closed]
  | append_singleton events event ih =>
    have hstep : applyEvents g (events ++ [event]) = applyEvent g (applyEvents g events) event := by
      rw [applyEvents, List.foldl_append]
      rfl
    have hmore : Closed g (events ++ [event]) v ↔ Closed g events v ∨
        v ∈ g.nodeIds ∧ event.target = v ∧ isClosed event.state = true := by
      simp only [Closed, List.mem_append, List.mem_singleton, or_and_right, exists_or,
        exists_eq_left, and_or_left]
    rw [hstep, hmore, applyEvent]
    split_ifs with hknown hclosed
    · rw [Finset.mem_insert, ih]
      constructor
      · rintro (rfl | hold)
        · exact Or.inr ⟨hknown, rfl, hclosed⟩
        · exact Or.inl hold
      · rintro (hold | ⟨-, rfl, -⟩)
        · exact Or.inr hold
        · exact Or.inl rfl
    · rw [ih]
      exact ⟨Or.inl, fun h => h.elim id fun ⟨_, _, hc⟩ => absurd hc hclosed⟩
    · rw [ih]
      refine ⟨Or.inl, fun h => h.elim id fun ⟨hv, htarget, _⟩ => absurd (htarget ▸ hv) hknown⟩

theorem applyEvents_subset (events : List ScenarioEvent) :
    (applyEvents g events).1 ⊆ g.nodeIds := fun v hv =>
  ((mem_applyEvents events v).mp hv).1

end Events

section Impact
variable {g : DependencyGraph} {failed : Finset String}

/-- A walk from known nodes ends at a known node. -/
theorem WalkFrom.mem_nodeIds (hfailed : failed ⊆ g.nodeIds) {path : List String} {v : String}
    (h : WalkFrom g failed path v) : v ∈ g.nodeIds := by
  obtain ⟨front, rfl⟩ : ∃ front, path = front ++ [v] :=
    List.getLast?_eq_some_iff.mp h.ends
  rcases List.eq_nil_or_concat front with rfl | ⟨before, u, rfl⟩
  · obtain ⟨f, hf, hhead⟩ := h.starts
    cases hhead
    exact hfailed hf
  · have hchain := (List.isChain_append.mp h.chain).2.2 u (by simp) v (by simp)
    obtain ⟨e, he, -, rfl⟩ := hchain
    exact g.target_mem he

theorem impacted_mem_nodeIds (hfailed : failed ⊆ g.nodeIds) {v : String}
    (h : (analyzeState g failed).Impacted v) : v ∈ g.nodeIds := by
  obtain ⟨path, -, hwalk⟩ := (analyzeState_consistent g failed).wellFormed.path v h
  exact WalkFrom.mem_nodeIds hfailed hwalk

/-- The identifiers of the reported nodes are those with a probability, in another order. -/
theorem impactedNodes_ids (s : Propagation) :
    ((impactedNodes g s).map ImpactedNode.nodeId).Perm s.probability.keys := by
  refine ((sortedBy_perm _ _).map _).trans ?_
  rw [List.map_map, Dict.keys]
  exact List.Perm.refl _

/-- Failed and affected nodes are the nodes with a probability. -/
theorem count_affected (g : DependencyGraph) (failed : Finset String) :
    failed.card + (affectedBy failed (assessment g failed true)).length =
      (analyzeState g failed).probability.keys.length := by
  set ids := (impactedNodes g (analyzeState g failed)).map ImpactedNode.nodeId with hids
  have hperm : ids.Perm (analyzeState g failed).probability.keys := impactedNodes_ids _
  have hnodup : ids.Nodup := hperm.nodup_iff.mpr (Dict.keys_nodup _)
  have hfailed : (ids.filter fun v => v ∈ failed).toFinset = failed := by
    ext v
    rw [List.mem_toFinset, List.mem_filter, decide_eq_true_eq, and_iff_right_iff_imp]
    intro hv
    rw [hperm.mem_iff, Dict.mem_keys, (analyzeState_consistent g failed).wellFormed.failedProb v hv]
    exact Option.some_ne_none _
  have hcard : failed.card = (ids.filter fun v => v ∈ failed).length := by
    rw [← List.toFinset_card_of_nodup (hnodup.filter _), hfailed]
  have hrest : (affectedBy failed (assessment g failed true)).length =
      (ids.filter fun v => !decide (v ∈ failed)).length := by
    rw [affectedBy, List.length_map, hids, List.filter_map, List.length_map]
    simp only [assessment, Function.comp_def, decide_not]
  rw [hcard, hrest, ← hperm.length_eq]
  exact (List.length_eq_length_filter_add _).symm

theorem count_le (hfailed : failed ⊆ g.nodeIds) :
    (analyzeState g failed).probability.keys.length ≤ g.nodes.length := by
  rw [← g.card_nodeIds, ← List.toFinset_card_of_nodup (Dict.keys_nodup _)]
  refine Finset.card_le_card fun v hv => impacted_mem_nodeIds hfailed ?_
  exact (Dict.mem_keys _ v).mp (List.mem_toFinset.mp hv)

theorem mem_affectedBy {facility : AffectedFacility} :
    facility ∈ affectedBy failed (assessment g failed true) ↔
      ∃ impact ∈ impactedNodes g (analyzeState g failed), impact.nodeId ∉ failed ∧
        affectedFacility impact = facility := by
  rw [affectedBy, List.mem_map]
  simp only [List.mem_filter, decide_eq_true_eq, assessment, and_assoc]

/-- The affected nodes are the others with a probability. -/
theorem mem_affected_ids {v : String} :
    v ∈ (affectedBy failed (assessment g failed true)).map AffectedFacility.nodeId ↔
      v ∉ failed ∧ (analyzeState g failed).Impacted v := by
  constructor
  · intro hv
    obtain ⟨facility, hmem, rfl⟩ := List.mem_map.mp hv
    obtain ⟨impact, himpact, hnot, rfl⟩ := mem_affectedBy.mp hmem
    obtain ⟨p, hget, -⟩ := mem_impactedNodes.mp himpact
    exact ⟨hnot, Option.ne_none_iff_exists'.mpr ⟨p, hget⟩⟩
  · rintro ⟨hnot, himp⟩
    let impact : ImpactedNode := ⟨v, roundDigits 6 ((analyzeState g failed).prob v),
      roundDigits 6 ((analyzeState g failed).prob v * g.criticalityOf v),
      (analyzeState g failed).bestPath.getD v []⟩
    have himpact : impact ∈ impactedNodes g (analyzeState g failed) :=
      mem_impactedNodes.mpr ⟨_, (analyzeState g failed).get?_of_impacted himp, rfl⟩
    exact List.mem_map.mpr
      ⟨affectedFacility impact, mem_affectedBy.mpr ⟨impact, himpact, hnot, rfl⟩, rfl⟩

/-- Without a failed node nothing is reported. -/
theorem affectedBy_empty (g : DependencyGraph) : affectedBy ∅ (assessment g ∅ true) = [] := by
  have hids : (affectedBy ∅ (assessment g ∅ true)).map AffectedFacility.nodeId = [] := by
    refine List.eq_nil_iff_forall_not_mem.mpr fun v hv => ?_
    obtain ⟨path, -, hwalk⟩ :=
      (analyzeState_consistent g ∅).wellFormed.path v (mem_affected_ids.mp hv).2
    obtain ⟨f, hf, -⟩ := hwalk.starts
    exact Finset.notMem_empty f hf
  exact List.map_eq_nil_iff.mp hids

theorem affected_ids_nodup (g : DependencyGraph) (failed : Finset String) :
    ((affectedBy failed (assessment g failed true)).map AffectedFacility.nodeId).Nodup := by
  have hids : ((impactedNodes g (analyzeState g failed)).map ImpactedNode.nodeId).Nodup :=
    (impactedNodes_ids _).nodup_iff.mpr (Dict.keys_nodup _)
  rw [affectedBy, List.map_map]
  exact hids.sublist (List.Sublist.map _ List.filter_sublist)

theorem affected_sound (hfailed : failed ⊆ g.nodeIds) {facility : AffectedFacility}
    (h : facility ∈ affectedBy failed (assessment g failed true)) :
    facility.nodeId ∈ g.nodeIds ∧ facility.nodeId ∉ failed ∧
      0 ≤ facility.impactProbability ∧ facility.impactProbability ≤ 1 ∧
      ∃ path, WalkFrom g failed path facility.nodeId ∧
        facility.reason = "cascade from " ++ String.intercalate " → " path := by
  obtain ⟨impact, himpact, hnot, rfl⟩ := mem_affectedBy.mp h
  obtain ⟨p, hget, hitem⟩ := mem_impactedNodes.mp himpact
  have hwell := (analyzeState_consistent g failed).wellFormed
  have himp : (analyzeState g failed).Impacted impact.nodeId := by simp [Propagation.Impacted, hget]
  have hprob := hwell.bounded impact.nodeId
  rw [Propagation.prob_of_get? _ hget] at hprob
  obtain ⟨path, hpath, hwalk⟩ := hwell.path impact.nodeId himp
  have hround : (affectedFacility impact).impactProbability = roundDigits 6 p := by
    rw [affectedFacility, hitem]
  have htold : impact.path = path := by rw [hitem, Dict.getD_of_get? _ hpath]
  refine ⟨impacted_mem_nodeIds hfailed himp, hnot, ?_, ?_, path, hwalk, ?_⟩
  · rw [hround]
    exact roundDigits_nonneg 6 hprob.1
  · rw [hround]
    exact roundDigits_le_one 6 hprob.2
  · rw [affectedFacility, htold]

/-- What an edge passes on above the tolerance reaches its target. -/
theorem reached_of_weight {e : DependencyEdge} (he : e ∈ g.edges) (hsource : e.source ∈ failed)
    (hweight : tolerance < weight g failed e) (htarget : e.target ∉ failed) :
    ∃ facility ∈ affectedBy failed (assessment g failed true), facility.nodeId = e.target := by
  have hwell := (analyzeState_consistent g failed).wellFormed
  have hone := hwell.failedProb _ hsource
  have hempty : (analyzeState g failed).queue = [] := (analyzeLoop_fits g failed).run_queue
  have hsettled := (analyzeState_consistent g failed).settled e he
    (by simp [Propagation.Impacted, hone]) (by simp [hempty])
  rw [Propagation.Settled, Propagation.prob_of_get? _ hone, one_mul] at hsettled
  have himp : (analyzeState g failed).Impacted e.target :=
    Propagation.impacted_of_prob_pos _ (by linarith)
  exact List.mem_map.mp (mem_affected_ids.mpr ⟨htarget, himp⟩)

end Impact

section Violations
variable (g : DependencyGraph) (failed : Finset String)

theorem concentrated_isEmpty : (concentrated (assessment g failed true)).isEmpty = false ↔
    ∃ provider, truthy (some provider) = true ∧ 3 ≤ providerCount g.nodes provider := by
  rw [List.isEmpty_eq_false_iff_exists_mem, Prod.exists]
  refine exists_congr fun provider => ?_
  simp only [concentrated, assessment, List.mem_filter, mem_sortedBy, decide_eq_true_eq,
    Dict.mem_entries, providerCounts_get?, Option.ite_none_right_eq_some, Option.some.injEq]
  constructor
  · rintro ⟨n, ⟨⟨htruthy, -⟩, rfl⟩, hmany⟩
    exact ⟨htruthy, hmany⟩
  · rintro ⟨htruthy, hmany⟩
    exact ⟨_, ⟨⟨htruthy, by omega⟩, rfl⟩, hmany⟩

theorem violationsOf_pos (repr : String → String) :
    0 < (violationsOf repr (assessment g failed true)).length ↔
      singlePointsFast g ≠ [] ∨
        ∃ provider, truthy (some provider) = true ∧ 3 ≤ providerCount g.nodes provider := by
  rw [← concentrated_isEmpty g failed, violationsOf]
  have hpoints : (assessment g failed true).singlePointsOfFailure = singlePointsFast g := rfl
  rw [hpoints]
  rcases hspof : singlePointsFast g with - | ⟨point, points⟩ <;>
    cases hconcentrated : (concentrated (assessment g failed true)).isEmpty <;> simp

end Violations

/-- The assessment that a simulation runs, none where nothing failed. -/
def assessed (g : DependencyGraph) (failed : Finset String) : Option GraphAssessment :=
  if failed = ∅ then none else some (assessment g failed true)

theorem simulateScenario_ok (repr : String → String) (scenario : Scenario) (g : DependencyGraph) :
    simulateScenario repr scenario g = .ok (resultOf repr scenario g (applyEvents g scenario.events)
      (assessed g (applyEvents g scenario.events).1)) := by
  have hknown : (applyEvents g scenario.events).1 \ g.nodeIds = ∅ :=
    Finset.sdiff_eq_empty_iff_subset.mpr (applyEvents_subset scenario.events)
  rw [simulateScenario, assessed]
  split_ifs with hnone
  · rfl
  · rw [analyze, if_pos hknown]
    rfl

theorem assessed_affected (g : DependencyGraph) (failed : Finset String) :
    ((assessed g failed).map (affectedBy failed)).getD [] =
      affectedBy failed (assessment g failed true) := by
  rw [assessed]
  split_ifs with hnone
  · rw [hnone, affectedBy_empty, Option.map_none, Option.getD_none]
  · rw [Option.map_some, Option.getD_some]

theorem assessed_violations (repr : String → String) (g : DependencyGraph)
    (failed : Finset String) :
    0 < (((assessed g failed).map (violationsOf repr)).getD []).length ↔
      failed ≠ ∅ ∧ (singlePointsFast g ≠ [] ∨
        ∃ provider, truthy (some provider) = true ∧ 3 ≤ providerCount g.nodes provider) := by
  rw [assessed]
  split_ifs with hnone
  · rw [Option.map_none, Option.getD_none]
    simp [hnone]
  · rw [Option.map_some, Option.getD_some, violationsOf_pos, and_iff_right hnone]

theorem capacityLoss_eq {affected total : ℕ} (h : affected ≤ total) :
    capacityLoss affected total = (affected : ℚ) / total := by
  rw [capacityLoss]
  split_ifs with hpos
  · have hle : (affected : ℚ) / total ≤ 1 :=
      div_le_one_of_le₀ (by exact_mod_cast h) (Nat.cast_nonneg total)
    exact min_eq_right hle
  · have hzero : total = 0 := by omega
    simp [hzero]

/-- Every node of the graph is counted once. The failed nodes are those that an event closes, the
affected ones are others at the end of a walk from them, and what a failed node passes on above
the tolerance is among them. -/
theorem simulate_accounts (repr : String → String) (scenario : Scenario) (g : DependencyGraph) :
    ∃ result, simulateScenario repr scenario g = .ok result ∧
      result.failedNodes.Pairwise (· < ·) ∧
      (∀ v, v ∈ result.failedNodes ↔ Closed g scenario.events v) ∧
      (result.affectedFacilities.map AffectedFacility.nodeId).Nodup ∧
      (∀ facility ∈ result.affectedFacilities, facility.nodeId ∈ g.nodeIds ∧
        ¬ Closed g scenario.events facility.nodeId ∧
        0 ≤ facility.impactProbability ∧ facility.impactProbability ≤ 1 ∧
        ∃ path, WalkFrom g result.failedNodes.toFinset path facility.nodeId ∧
          facility.reason = "cascade from " ++ String.intercalate " → " path) ∧
      (∀ e ∈ g.edges, Closed g scenario.events e.source →
        tolerance < weight g result.failedNodes.toFinset e →
        Closed g scenario.events e.target ∨
          ∃ facility ∈ result.affectedFacilities, facility.nodeId = e.target) ∧
      (result.failedNodes.length + result.affectedFacilities.length : ℤ) +
        result.remainingViablePaths = g.nodes.length ∧
      result.totalCapacityLoss = roundDigits 6
        ((result.failedNodes.length + result.affectedFacilities.length : ℚ) / g.nodes.length) ∧
      (result.recoveryRequired = true ↔
        1 / 10 < (result.failedNodes.length + result.affectedFacilities.length : ℚ) /
          g.nodes.length ∨
        result.failedNodes ≠ [] ∧ (singlePointsFast g ≠ [] ∨
          ∃ provider, truthy (some provider) = true ∧ 3 ≤ providerCount g.nodes provider)) := by
  refine ⟨_, simulateScenario_ok repr scenario g, ?_⟩
  set failed := (applyEvents g scenario.events).1 with hfailed
  have hsub : failed ⊆ g.nodeIds := applyEvents_subset scenario.events
  have hclosed (v : String) : v ∈ failed ↔ Closed g scenario.events v :=
    mem_applyEvents scenario.events v
  have hcount : failed.card + (affectedBy failed (assessment g failed true)).length ≤
      g.nodes.length := (count_affected g failed).trans_le (count_le hsub)
  have hloss := capacityLoss_eq hcount
  simp only [resultOf, assessed_affected, mem_sortedSet, length_sortedSet, sortedSet_toFinset,
    ← hfailed, hloss, Bool.or_eq_true, decide_eq_true_eq, assessed_violations, ← hclosed]
  refine ⟨pairwise_sortedSet _, fun _ => trivial, affected_ids_nodup g failed,
    fun facility hmem => affected_sound hsub hmem, ?_, ?_, ?_, ?_⟩
  · intro e he hsource hweight
    by_cases htarget : e.target ∈ failed
    · exact Or.inl htarget
    · exact Or.inr (reached_of_weight he hsource hweight htarget)
  · omega
  · rw [Nat.cast_add]
  · have hnone : sortedSet failed = [] ↔ failed = ∅ := by
      rw [← List.length_eq_zero_iff, length_sortedSet, Finset.card_eq_zero]
    have hsome : sortedSet failed ≠ [] ↔ failed ≠ ∅ := not_congr hnone
    rw [Nat.cast_add, hsome]

end ContinuityOS.Scenarios
