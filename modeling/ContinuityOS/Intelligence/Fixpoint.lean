import ContinuityOS.Graph.SingleContribution
import ContinuityOS.Intelligence.Evidence
import ContinuityOS.Library.FloatNumber

/-! # When three sweeps reach the noisy-OR equations

On an acyclic graph the sweeps come to rest after finitely many, in the one solution of the
equations. A forecast meets them exactly when three are enough. A node has its final posterior once
its parents have theirs, in the same sweep where the parent comes first among the targets and in
the next one otherwise. The order of the edges then makes no difference as long as the represented
products do not depend on it.
-/
namespace ContinuityOS.Intelligence.BayesianCascadeForecaster
open Library ContinuityOS.Graph

section Definitions
variable (fl : ℚ → ℚ) (graph : DependencyGraph) (observed : Dict String ℚ)

/-- Every unobserved node with incoming edges is the bounded noisy-OR of its parents. -/
def NoisyOrEquations (nodeProbs : Dict String BayesianNodeProb) : Prop :=
  ∀ v prob, nodeProbs.get? v = some prob → v ∉ observed.keys → incoming graph v ≠ [] →
    prob.posteriorProbability =
      noisyOrPosterior fl prob.priorProbability (posteriorOf nodeProbs) (incoming graph v)

/-- Every forecast for the graph and the evidence meets the noisy-OR equations. -/
def ForecastMeetsEquations : Prop :=
  ∀ forecastId targetNode r, forecast fl forecastId graph targetNode observed = some r →
    NoisyOrEquations fl graph observed r.nodeProbabilities

/-- The posteriors after so many sweeps over the evidence. -/
def afterSweeps (n : ℕ) : String → ℚ :=
  (Sweeps.sweep (beliefUpdate fl graph) (sweepOrder graph observed))^[n]
    (evidencePosterior fl graph observed)

/-- A further sweep changes no node. -/
def AtRest (n : ℕ) : Prop :=
  ∀ v ∈ sweepOrder graph observed,
    afterSweeps fl graph observed (n + 1) v = afterSweeps fl graph observed n v

instance (n : ℕ) : Decidable (AtRest fl graph observed n) :=
  inferInstanceAs (Decidable (∀ v ∈ sweepOrder graph observed, _ = _))

/-- Every computed node has its final value after three sweeps, whatever the values are. -/
def SettlesInThree : Prop :=
  ∀ v ∈ sweepOrder graph observed,
    Sweeps.SettlesBy (fun v u => EdgeTo graph u v) (sweepOrder graph observed) 3 v

/-- The equations hold of the posteriors, and nothing else is computed. -/
structure Solves (posterior : String → ℚ) : Prop where
  given : ∀ v, v ∉ sweepOrder graph observed → posterior v = evidencePosterior fl graph observed v
  computed : ∀ v ∈ sweepOrder graph observed, beliefUpdate fl graph v posterior = posterior v

end Definitions

/-- The same nodes, and the same edges in another order. -/
structure Reordering (graph graph' : DependencyGraph) : Prop where
  nodes : graph.nodes = graph'.nodes
  edges : graph.edges.Perm graph'.edges

section Orders
variable (fl : ℚ → ℚ) (graph graph' : DependencyGraph) (observed : Dict String ℚ)

/-- At the solution for the graph the edges into a node give the same in both orders. -/
def SameUpdates : Prop :=
  ∀ posterior, Solves fl graph observed posterior → ∀ v ∈ sweepOrder graph observed,
    beliefUpdate fl graph v posterior = beliefUpdate fl graph' v posterior

end Orders

variable {fl : ℚ → ℚ} {graph : DependencyGraph} {observed : Dict String ℚ}

section Sweeping

theorem beliefUpdate_congr (v : String) (σ τ : String → ℚ) (h : ∀ u, EdgeTo graph u v → σ u = τ u) :
    beliefUpdate fl graph v σ = beliefUpdate fl graph v τ := by
  have hfold : ∀ p, (incoming graph v).foldl
      (fun p e => combine fl p (σ e.source) e.dependencyStrength.val) p =
        (incoming graph v).foldl
          (fun p e => combine fl p (τ e.source) e.dependencyStrength.val) p := by
    intro p
    apply List.foldl_ext
    intro p e he
    obtain ⟨hedge, htarget⟩ := mem_incoming.mp he
    rw [h e.source ⟨e, hedge, rfl, htarget⟩]
  rw [beliefUpdate, beliefUpdate, noisyOrPosterior, noisyOrPosterior, hfold]

theorem posteriorOf_nodeProbabilities :
    posteriorOf (nodeProbabilities fl graph observed) = afterSweeps fl graph observed 3 :=
  (nodeProbabilities_spec fl graph observed).2

/-- Nodes that are not computed keep what they start from. -/
theorem afterSweeps_of_not_mem (n : ℕ) {v : String} (hv : v ∉ sweepOrder graph observed) :
    afterSweeps fl graph observed n v = evidencePosterior fl graph observed v := by
  induction n with
  | zero => rfl
  | succ n ih =>
    rw [afterSweeps, Function.iterate_succ_apply', Sweeps.sweep_of_not_mem hv]
    exact ih

theorem isFixedPt_iff_atRest {n : ℕ} : Function.IsFixedPt
    (Sweeps.sweep (beliefUpdate fl graph) (sweepOrder graph observed))
      (afterSweeps fl graph observed n) ↔ AtRest fl graph observed n := by
  have hnext : afterSweeps fl graph observed (n + 1) =
      Sweeps.sweep (beliefUpdate fl graph) (sweepOrder graph observed)
        (afterSweeps fl graph observed n) := Function.iterate_succ_apply' _ _ _
  rw [AtRest, hnext]
  constructor
  · intro h v _
    rw [h.eq]
  · exact Sweeps.isFixedPt_of_order

theorem atRest_iff_solves {n : ℕ} :
    AtRest fl graph observed n ↔ Solves fl graph observed (afterSweeps fl graph observed n) := by
  rw [← isFixedPt_iff_atRest, Sweeps.isFixedPt_iff sweepOrder_nodup]
  exact ⟨fun h => ⟨fun v hv => afterSweeps_of_not_mem n hv, h⟩, fun h => h.computed⟩

theorem AtRest.mono {n m : ℕ} (h : AtRest fl graph observed n) (hle : n ≤ m) :
    AtRest fl graph observed m := by
  rw [← isFixedPt_iff_atRest] at h ⊢
  have hsame : afterSweeps fl graph observed m = afterSweeps fl graph observed n := by
    obtain ⟨k, rfl⟩ := Nat.exists_eq_add_of_le' hle
    rw [afterSweeps, Function.iterate_add_apply]
    exact h.iterate k
  rwa [hsame]

/-- No path three times against the order of the targets: three sweeps are enough under all
values. -/
theorem SettlesInThree.atRest (h : SettlesInThree graph observed) :
    AtRest fl graph observed 3 :=
  isFixedPt_iff_atRest.mp (Sweeps.SettlesBy.isFixedPt sweepOrder_nodup beliefUpdate_congr h _)

end Sweeping

section Equations

theorem noisyOrEquations_iff :
    NoisyOrEquations fl graph observed (nodeProbabilities fl graph observed) ↔
      AtRest fl graph observed 3 := by
  have hcovers := (nodeProbabilities_spec fl graph observed).1
  rw [atRest_iff_solves, ← posteriorOf_nodeProbabilities]
  constructor
  · intro h
    refine ⟨fun v hv => ?_, fun v hv => ?_⟩
    · rw [posteriorOf_nodeProbabilities, afterSweeps_of_not_mem 3 hv]
    · obtain ⟨hincoming, hobserved⟩ := mem_sweepOrder.mp hv
      obtain ⟨e, he⟩ := List.exists_mem_of_ne_nil _ hincoming
      obtain ⟨hedge, rfl⟩ := mem_incoming.mp he
      obtain ⟨prob, hprob⟩ := hcovers.get?_eq (graph.target_mem hedge)
      rw [beliefUpdate, ← hcovers.prior_eq _ prob hprob, ← h _ prob hprob hobserved hincoming,
        posteriorOf_eq hprob]
  · intro h v prob hprob hobserved hincoming
    have hupdate := h.computed v (mem_sweepOrder.mpr ⟨hincoming, hobserved⟩)
    rw [beliefUpdate, ← hcovers.prior_eq v prob hprob, posteriorOf_eq hprob] at hupdate
    exact hupdate.symm

/-- A graph with a computed node has a forecast. -/
theorem exists_forecast (fl : ℚ → ℚ) (observed : Dict String ℚ) (h : graph.nodes ≠ []) :
    ∃ r, forecast fl "" graph "" observed = some r ∧
      r.nodeProbabilities = nodeProbabilities fl graph observed := by
  obtain ⟨r, hr⟩ := forecast_returns fl "" graph "" observed h
  exact ⟨r, hr, forecast_nodeProbabilities hr⟩

theorem forecastMeetsEquations_iff :
    ForecastMeetsEquations fl graph observed ↔ AtRest fl graph observed 3 := by
  rw [← noisyOrEquations_iff]
  constructor
  · intro h v prob hprob
    have hnodes : graph.nodes ≠ [] := by
      intro hnil
      have hkeys := (nodeProbabilities_spec fl graph observed).1.keys
      have hmem : v ∈ (nodeProbabilities fl graph observed).keys := by
        rw [Dict.mem_keys, hprob]
        exact Option.some_ne_none _
      rw [hkeys, hnil] at hmem
      cases hmem
    obtain ⟨r, hr, hsame⟩ := exists_forecast fl observed hnodes
    have hequations := h "" "" r hr
    rw [hsame] at hequations
    exact hequations v prob hprob
  · intro h forecastId targetNode r hr
    rwa [forecast_nodeProbabilities hr]

end Equations

section Orders
variable {graph' : DependencyGraph}

theorem Reordering.incoming (h : Reordering graph graph') (v : String) :
    (incoming graph v).Perm (incoming graph' v) := h.edges.filter _

theorem Reordering.edgeTo (h : Reordering graph graph') (u v : String) :
    EdgeTo graph u v ↔ EdgeTo graph' u v := by
  simp only [EdgeTo, h.edges.mem_iff]

theorem Reordering.prior (h : Reordering graph graph') (v : String) :
    prior fl graph v = prior fl graph' v := by
  simp only [BayesianCascadeForecaster.prior, DependencyGraph.criticalityOf,
    DependencyGraph.nodeDict, h.nodes]

theorem Reordering.evidencePosterior (h : Reordering graph graph') (v : String) :
    evidencePosterior fl graph observed v = evidencePosterior fl graph' observed v := by
  have hmem : v ∈ graph.nodeIds ↔ v ∈ graph'.nodeIds := by
    rw [graph.mem_nodeIds, graph'.mem_nodeIds, h.nodes]
  rw [BayesianCascadeForecaster.evidencePosterior, BayesianCascadeForecaster.evidencePosterior,
    h.prior, if_congr hmem rfl rfl]

theorem Reordering.mem_sweepOrder (h : Reordering graph graph') {v : String} :
    v ∈ sweepOrder graph observed ↔ v ∈ sweepOrder graph' observed := by
  have hperm := h.incoming v
  have hnil : Graph.incoming graph v = [] ↔ Graph.incoming graph' v = [] :=
    ⟨fun hnil => List.perm_nil.mp (hnil ▸ hperm.symm), fun hnil => List.perm_nil.mp (hnil ▸ hperm)⟩
  rw [BayesianCascadeForecaster.mem_sweepOrder, BayesianCascadeForecaster.mem_sweepOrder, ne_eq,
    ne_eq, hnil]

theorem Reordering.refl (graph : DependencyGraph) : Reordering graph graph :=
  ⟨rfl, .refl _⟩

/-- In exact arithmetic they always are. -/
theorem sameUpdates_id (h : Reordering graph graph') : SameUpdates id graph graph' observed := by
  intro posterior _ v _
  rw [beliefUpdate, beliefUpdate, noisyOrPosterior_id, noisyOrPosterior_id, h.prior,
    ((h.incoming v).map _).prod_eq]

end Orders

section Samples

def supplyNode (nodeId : String) : DependencyNode where
  nodeId := nodeId
  name := nodeId
  nodeType := .supplier

/-- A terminal that two suppliers serve, its edges in some order. -/
def terminal (edges : List DependencyEdge)
    (h : ∀ e ∈ edges, e.source ∈ ["a", "b", "y"] ∧ e.target ∈ ["a", "b", "y"]) :
    DependencyGraph where
  graphId := "terminal"
  nodes := [supplyNode "a", supplyNode "b", { supplyNode "y" with criticality := Score.one }]
  edges := edges
  uniqueIds := by decide
  knownEnds := h

def weakSupply : DependencyEdge where
  source := "a"
  target := "y"
  dependencyStrength := ⟨binary64 (15 / 100), by decide +kernel⟩

def strongSupply : DependencyEdge where
  source := "b"
  target := "y"
  dependencyStrength := ⟨binary64 (75 / 100), by decide +kernel⟩

def terminalEvidence : Dict String ℚ :=
  (Dict.empty.set "a" (binary64 (25 / 100))).set "b" (binary64 (80 / 100))

/-- Doubles tell the two orders of the edges apart. -/
example :
    afterSweeps binary64 (terminal [weakSupply, strongSupply] (by decide +kernel))
      terminalEvidence 3 "y" = binary64 (653 / 1000) ∧
    afterSweeps binary64 (terminal [strongSupply, weakSupply] (by decide +kernel))
      terminalEvidence 3 "y" = binary64 (654 / 1000) := by
  decide +kernel

end Samples

end ContinuityOS.Intelligence.BayesianCascadeForecaster
