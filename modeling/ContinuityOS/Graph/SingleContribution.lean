import ContinuityOS.Graph.Monotone
import ContinuityOS.Graph.NoisyOrMeaning

/-! # Each edge contributes once

A node that is raised twice passes its impact on twice. Where no relaying node is popped twice,
each edge of an acyclic graph contributes at most once, and the propagation computes the noisy-OR
meaning up to what the tolerance cuts off and the edges pass on of it.
-/
namespace ContinuityOS.Graph
open Library Relation

/-- No node with an effective edge is popped twice. -/
def PopsOnce (g : DependencyGraph) (failed : Finset String) (l : RunLog) : Prop :=
  ∀ u, Relays g failed u → l.popped.count u ≤ 1

/-- Bounds on how far the cut-offs pull the nodes down, in units of the tolerance: one for each
in-edge that was cut off, and what the in-edges pass on of their sources' bounds. -/
structure DriftBound (g : DependencyGraph) (failed : Finset String)
    (cutOff : List DependencyEdge) (drift : String → ℚ) : Prop where
  nonneg : ∀ v, 0 ≤ drift v
  adds : ∀ v, v ∉ failed → (incoming g v).countP (fun e => e ∈ cutOff) +
    ((incoming g v).map fun e => drift e.source * weight g failed e).sum ≤ drift v
  le_edges : ∀ v, drift v ≤ g.edges.length

/-- Without cut-offs nothing is pulled down. -/
theorem driftBound_nil (g : DependencyGraph) (failed : Finset String) :
    DriftBound g failed [] fun _ => 0 where
  nonneg _ := le_rfl
  adds v _ := by simp
  le_edges _ := Nat.cast_nonneg _

section Meaning
variable {g : DependencyGraph} {failed : Finset String} {p : String → ℚ}

theorem bounds_of_solution (hacyclic : Acyclic g) (hsol : NoisyOrSolution g failed p) :
    Bounds g failed (fun _ => True) p where
  unit := hsol.unit hacyclic
  failed_eq := hsol.failed_eq
  combined v edges hedges _ := by
    have hp := hsol.unit hacyclic
    by_cases hv : v ∈ failed
    · rw [hsol.failed_eq v hv]
      exact (noisyOr_mem_unit (unitValues_map g failed hp edges)).2
    · obtain ⟨listed, hperm, hsublist⟩ := hedges
      rw [hsol.combined v hv]
      exact noisyOr_le_of_subperm ⟨_, hperm.map _, hsublist.map _⟩ (unitValues_map g failed hp _)

/-- A run that raises along each edge once stays below the meaning. -/
theorem prob_le_meaning (hacyclic : Acyclic g) (hsol : NoisyOrSolution g failed p)
    (honce : (analyzeLog g failed).RaisesOnce g) (v : String) :
    (analyzeState g failed).prob v ≤ p v := by
  have hbounds := bounds_of_solution hacyclic hsol
  rw [← analyzeLog_state]
  exact (explained_run (analyzeLoop_fits g failed) hbounds _ honce fun _ _ => trivial).prob_le
    hbounds honce (fun _ _ => trivial) v

/-- A run falls short of the meaning by no more than its drift. -/
theorem meaning_le_prob (hacyclic : Acyclic g) (hsol : NoisyOrSolution g failed p)
    (honce : (analyzeLog g failed).RaisesOnce g) {drift : String → ℚ}
    (hdrift : DriftBound g failed (analyzeLog g failed).cutOff drift) (v : String) :
    p v ≤ (analyzeState g failed).prob v + drift v * tolerance := by
  have hpos := tolerance_pos
  have hp := hsol.unit hacyclic
  have hrun : Delivered g failed (analyzeLog g failed) := delivered_run (analyzeLoop_fits g failed) _
  have hqueue := analyzeLog_queue g failed
  rw [← analyzeLog_state]
  have hunit := hrun.failedAtOne.1
  refine hacyclic.induction
    (P := fun v => p v ≤ (analyzeLog g failed).state.prob v + drift v * tolerance) ?_ v
  intro v ih
  by_cases hv : v ∈ failed
  · rw [hsol.failed_eq v hv, hrun.failedAtOne.2 v hv]
    have hslack := mul_nonneg (hdrift.nonneg v) hpos.le
    linarith
  · -- the in-edges at the probabilities of the run, those cut off included
    have hall : noisyOr ((incoming g v).map
          (delivery g failed (analyzeLog g failed).state.prob)) ≤
        (analyzeLog g failed).state.prob v + (incoming g v).countP
          (fun e => e ∈ (analyzeLog g failed).cutOff) * tolerance := by
      refine noisyOr_map_le_add_gaps (unitValues_map g failed hunit _) (hunit v).2
        (hrun.deliveries_le (analyzeLog_stopped g failed) hqueue v) fun e he hcut => ?_
      have hsmall := hrun.cut_le e hcut (by simp [hqueue])
      rwa [(mem_incoming.mp he).2] at hsmall
    -- what the in-edges lose with their sources
    have hlost : noisyOr ((incoming g v).map (delivery g failed p)) ≤
        noisyOr ((incoming g v).map (delivery g failed (analyzeLog g failed).state.prob)) +
          ((incoming g v).map fun e => delivery g failed p e -
            delivery g failed (analyzeLog g failed).state.prob e).sum := by
      apply noisyOr_map_le_add
      intro e _
      have hle := prob_le_meaning hacyclic hsol honce e.source
      rw [← analyzeLog_state] at hle
      exact ⟨(delivery_mem_unit hunit e).1, mul_le_mul_of_nonneg_right hle (weight_nonneg g failed e),
        (delivery_mem_unit hp e).2⟩
    have hpassed : ((incoming g v).map fun e => delivery g failed p e -
          delivery g failed (analyzeLog g failed).state.prob e).sum ≤
        ((incoming g v).map fun e => drift e.source * weight g failed e).sum * tolerance := by
      rw [← List.sum_map_mul_right]
      apply List.sum_le_sum
      intro e he
      have hshare := mul_le_mul_of_nonneg_right (ih e he) (weight_nonneg g failed e)
      rw [delivery, delivery]
      linarith
    have hadds := mul_le_mul_of_nonneg_right (hdrift.adds v hv) hpos.le
    rw [hsol.combined v hv]
    linarith

theorem prob_close (hacyclic : Acyclic g) (hsol : NoisyOrSolution g failed p)
    (honce : (analyzeLog g failed).RaisesOnce g) {drift : String → ℚ}
    (hdrift : DriftBound g failed (analyzeLog g failed).cutOff drift) (v : String) :
    |(analyzeState g failed).prob v - p v| ≤ g.edges.length * tolerance := by
  have hbelow := prob_le_meaning hacyclic hsol honce v
  have habove := meaning_le_prob hacyclic hsol honce hdrift v
  have hedges := mul_le_mul_of_nonneg_right (hdrift.le_edges v) tolerance_pos.le
  have hslack : (0 : ℚ) ≤ g.edges.length * tolerance :=
    mul_nonneg (Nat.cast_nonneg _) tolerance_pos.le
  rw [abs_le]
  constructor <;> linarith

end Meaning

theorem NoParallel.nodup {g : DependencyGraph} (hpar : NoParallel g) : g.edges.Nodup := by
  refine List.Pairwise.imp ?_ hpar
  intro e e' hne heq
  exact hne ⟨by rw [heq], by rw [heq]⟩

/-- On an acyclic graph without parallel edges the noisy-OR equations have one solution. Where no
relaying node is popped twice and the cut-offs do not multiply, the loop of `analyze` computes it
up to the tolerance for each edge, and each edge raises its target at most once. -/
theorem analyze_noisyOr_meaning (g : DependencyGraph) (failed : Finset String)
    (hacyclic : Acyclic g) (hpar : NoParallel g) :
    (∃! p, NoisyOrSolution g failed p) ∧
      (PopsOnce g failed (analyzeLog g failed) →
        (∃ drift, DriftBound g failed (analyzeLog g failed).cutOff drift) →
          (∀ p, NoisyOrSolution g failed p → ∀ v,
            |(analyzeState g failed).prob v - p v| ≤ g.edges.length * (1 / 1000000000)) ∧
          (analyzeLog g failed).raised.Nodup ∧ (analyzeLog g failed).raised ⊆ g.edges) := by
  refine ⟨⟨_, noisyOrSolution_exists hacyclic, fun q hq =>
    hq.unique hacyclic (noisyOrSolution_exists hacyclic)⟩, fun hpops hdrift => ?_⟩
  have honce : (analyzeLog g failed).RaisesOnce g :=
    raisesOnce_of_popped (analyzeLoop_fits g failed) _ hpops
  obtain ⟨drift, hdrift⟩ := hdrift
  refine ⟨fun p hsol v => prob_close hacyclic hsol honce hdrift v, ?_, honce.subset⟩
  obtain ⟨listed, hperm, hsublist⟩ := honce
  exact hperm.nodup_iff.mp (hpar.nodup.sublist hsublist)

/-- A height that rises along every edge rules out cycles. -/
theorem acyclic_of_height {g : DependencyGraph} (height : String → ℕ)
    (h : ∀ e ∈ g.edges, height e.source < height e.target) : Acyclic g := by
  have hrises : ∀ {a b}, TransGen (EdgeTo g) a b → height a < height b := by
    intro a b hab
    induction hab with
    | single hedge =>
      obtain ⟨e, he, rfl, rfl⟩ := hedge
      exact h e he
    | tail _ hedge ih =>
      obtain ⟨e, he, rfl, rfl⟩ := hedge
      exact ih.trans (h e he)
  exact fun v hv => lt_irrefl _ (hrises hv)

def letterHeight (v : String) : ℕ :=
  if v = "a" then 0 else if v = "b" then 1 else if v = "c" then 2 else 3

theorem analyze_noisyOr_meaning_relay :
    noisyOrUpTo relayGraph {"a", "b"} 6 "d" = 1 / 2 ∧
      (∀ v, |(analyzeState relayGraph {"a", "b"}).prob v - noisyOrUpTo relayGraph {"a", "b"} 6 v| ≤
        4 * (1 / 1000000000)) ∧ (analyzeLog relayGraph {"a", "b"}).raised.Nodup := by
  have hacyclic : Acyclic relayGraph := acyclic_of_height letterHeight (by decide)
  have hpar : NoParallel relayGraph := by
    unfold NoParallel
    decide
  have hpopped : (analyzeLog relayGraph {"a", "b"}).popped = ["a", "b", "c", "d", "y"] := by
    with_unfolding_all decide
  have hpops : PopsOnce relayGraph {"a", "b"} (analyzeLog relayGraph {"a", "b"}) := by
    intro u _
    rw [hpopped]
    exact List.nodup_iff_count_le_one.mp (by decide) u
  have hcut : (analyzeLog relayGraph {"a", "b"}).cutOff = [] := by with_unfolding_all decide
  obtain ⟨hclose, hnodup, -⟩ := (analyze_noisyOr_meaning relayGraph {"a", "b"} hacyclic hpar).2 hpops
    ⟨_, hcut ▸ driftBound_nil relayGraph {"a", "b"}⟩
  exact ⟨by with_unfolding_all decide, hclose _ (noisyOrSolution_exists hacyclic), hnodup⟩

/-- The relay with two feeds passes its impact on twice. -/
theorem analyze_not_noisyOr_joined :
    Acyclic joinedGraph ∧ NoParallel joinedGraph ∧
      NoisyOrSolution joinedGraph {"a", "b"} (noisyOrUpTo joinedGraph {"a", "b"} 5) ∧
      noisyOrUpTo joinedGraph {"a", "b"} 5 "d" = 3 / 8 ∧
      (analyzeState joinedGraph {"a", "b"}).prob "d" = 39 / 64 ∧
      ¬ |(analyzeState joinedGraph {"a", "b"}).prob "d" -
        noisyOrUpTo joinedGraph {"a", "b"} 5 "d"| ≤ joinedGraph.edges.length * (1 / 1000000000) := by
  have hacyclic : Acyclic joinedGraph := acyclic_of_height letterHeight (by decide)
  have hmeaning : noisyOrUpTo joinedGraph {"a", "b"} 5 "d" = 3 / 8 := by with_unfolding_all decide
  have hcode : (analyzeState joinedGraph {"a", "b"}).prob "d" = 39 / 64 := by with_unfolding_all decide
  refine ⟨hacyclic, ?_, noisyOrSolution_exists hacyclic, hmeaning, hcode, ?_⟩
  · unfold NoParallel
    decide
  · rw [hmeaning, hcode]
    norm_num [joinedGraph, abs_le]

end ContinuityOS.Graph
