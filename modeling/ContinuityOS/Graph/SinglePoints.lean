import ContinuityOS.Graph.Termination

/-! # Single points of failure

The search for single points gives up a candidate as soon as something critical is hit, and
leaves out candidates without outgoing edges. It lists exactly the nodes whose failure alone,
carried through to the end, hits another critical node hard.
-/
namespace ContinuityOS.Graph
open Library

theorem foundSpof_iff (g : DependencyGraph) (candidate : String) :
    (SpofSearch.run g (g.fuel 1) candidate).foundSpof = true ↔
      CriticalImpact g candidate (withoutSpofState g {candidate}).prob := by
  obtain ⟨n, hn, hexits⟩ := (withoutSpofLoop_fits g {candidate}).exists_exitsAfter
  have hstate : withoutSpofState g {candidate} =
      (withoutSpofLoop g {candidate}).pop^[n] (Propagation.start {candidate}) :=
    whileLoop_of_exitsAfter hexits hn
  rw [hstate, SpofSearch.run, SpofSearch.start_eq]
  exact SpofSearch.whileLoop_found_iff g candidate (Propagation.start_bounded {candidate})
    (SpofSearch.not_criticalImpact_start g candidate) hexits hn

/-- Without outgoing edges the search empties its queue in one pass. -/
theorem not_foundSpof_of_isolated {g : DependencyGraph} {candidate : String}
    (h : g.outgoing candidate = []) : (SpofSearch.run g (g.fuel 1) candidate).foundSpof = false := by
  have hpop : SpofSearch.pop g candidate (SpofSearch.start candidate) =
      { SpofSearch.start candidate with queue := [] } := by
    simp [SpofSearch.pop, SpofSearch.start, h]
  have hexits : ExitsAfter SpofSearch.pending (SpofSearch.pop g candidate)
      (SpofSearch.start candidate) 1 := by
    refine ExitsAfter.succ rfl ⟨fun k hk => absurd hk (Nat.not_lt_zero k), ?_⟩
    rw [hpop]
    rfl
  have hfuel : 1 ≤ g.fuel 1 := Nat.le_add_right 1 _
  rw [SpofSearch.run, whileLoop_of_exitsAfter hexits hfuel, Function.iterate_one, hpop]
  rfl

theorem mem_analyzeWithoutSpof {g : DependencyGraph} {failed : Finset String} {P : String → ℚ → Prop} :
    (∃ item ∈ analyzeWithoutSpof g failed, P item.nodeId item.impactProbability) ↔
      ∃ v x, (withoutSpofState g failed).probability.get? v = some x ∧ P v x := by
  constructor
  · rintro ⟨item, hitem, hP⟩
    obtain ⟨⟨v, x⟩, hentry, rfl⟩ := List.mem_map.mp hitem
    exact ⟨v, x, (Dict.mem_entries _ v x).mp hentry, hP⟩
  · rintro ⟨v, x, hget, hP⟩
    exact ⟨_, List.mem_map_of_mem ((Dict.mem_entries _ v x).mpr hget), hP⟩

/-- The failure of the node alone hits another critical node hard. -/
def SinglePoint (g : DependencyGraph) (candidate : String) : Prop :=
  ∃ item ∈ analyzeWithoutSpof g {candidate}, item.nodeId ≠ candidate ∧
    8 / 10 ≤ g.criticalityOf item.nodeId ∧ 7 / 10 ≤ item.impactProbability

theorem singlePoint_iff (g : DependencyGraph) (candidate : String) :
    SinglePoint g candidate ↔ CriticalImpact g candidate (withoutSpofState g {candidate}).prob := by
  rw [SinglePoint, mem_analyzeWithoutSpof (P := fun v x => v ≠ candidate ∧
    8 / 10 ≤ g.criticalityOf v ∧ 7 / 10 ≤ x)]
  constructor
  · rintro ⟨v, x, hget, hne, hcritical, hx⟩
    refine ⟨v, hne, hcritical, ?_⟩
    rwa [Propagation.prob, Dict.getD_of_get? _ hget]
  · rintro ⟨v, hne, hcritical, hprob⟩
    have himpacted : (withoutSpofState g {candidate}).Impacted v :=
      Propagation.impacted_of_prob_pos _ (by linarith)
    obtain ⟨x, hget⟩ := Option.ne_none_iff_exists'.mp himpacted
    rw [Propagation.prob, Dict.getD_of_get? _ hget] at hprob
    exact ⟨v, x, hget, hne, hcritical, hprob⟩

/-- The list is sorted, has exactly the single points among the nodes of the graph, and the
propagation that defines them has run to its end. -/
theorem mem_singlePointsFast_iff (g : DependencyGraph) :
    (singlePointsFast g).Pairwise (· < ·) ∧
      (∀ candidate, candidate ∈ singlePointsFast g ↔
        candidate ∈ g.nodeIds ∧ SinglePoint g candidate) ∧
      ∀ candidate, (withoutSpofState g {candidate}).queue = [] := by
  refine ⟨?_, fun candidate => ?_, fun candidate => ?_⟩
  · exact ((pairwise_sortedSet g.nodeIds).filter _).filter _
  · rw [singlePointsFast, List.mem_filter, List.mem_filter, mem_sortedSet, foundSpof_iff,
      ← singlePoint_iff]
    refine ⟨fun h => ⟨h.1.1, h.2⟩, fun h => ⟨⟨h.1, ?_⟩, h.2⟩⟩
    have hfound := (foundSpof_iff g candidate).mpr ((singlePoint_iff g candidate).mp h.2)
    cases houtgoing : g.outgoing candidate with
    | nil =>
      rw [not_foundSpof_of_isolated houtgoing] at hfound
      cases hfound
    | cons e rest => rfl
  · exact (withoutSpofLoop_fits g {candidate}).run_queue

end ContinuityOS.Graph
