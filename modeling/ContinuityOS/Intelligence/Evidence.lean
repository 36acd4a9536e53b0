import Mathlib.Algebra.Order.BigOperators.GroupWithZero.List
import ContinuityOS.Intelligence.Forecast

/-! # Evidence and posteriors

In exact arithmetic every update of a sweep is monotone where posteriors are probabilities, also
on graphs with cycles, so worse evidence on the same nodes never lowers a posterior.
-/
namespace ContinuityOS.Intelligence.BayesianCascadeForecaster
open Library ContinuityOS.Graph

section Exact

/-- In exact arithmetic the probability of no failure is a product. -/
theorem foldl_combine_id (posterior : String → ℚ) (edges : List DependencyEdge) (p : ℚ) :
    edges.foldl (fun p e => combine id p (posterior e.source) e.dependencyStrength.val) p =
      p * (edges.map fun e => 1 - posterior e.source * e.dependencyStrength.val).prod := by
  induction edges generalizing p with
  | nil => simp
  | cons e edges ih =>
    rw [List.foldl_cons, ih, List.map_cons, List.prod_cons, ← mul_assoc]
    rfl

theorem noisyOrPosterior_id (p : ℚ) (posterior : String → ℚ) (edges : List DependencyEdge) :
    noisyOrPosterior id p posterior edges = roundDigits 3 (clampProbability id (1 - (1 - p) *
      (edges.map fun e => 1 - posterior e.source * e.dependencyStrength.val).prod)) := by
  rw [noisyOrPosterior, foldl_combine_id]
  rfl

end Exact

theorem clampProbability_mono {p q : ℚ} (h : p ≤ q) :
    clampProbability id p ≤ clampProbability id q :=
  min_le_min_left _ (max_le_max_left _ h)

theorem clampProbability_nonneg (p : ℚ) : 0 ≤ clampProbability id p :=
  le_min (by norm_num) (le_max_of_le_left (by norm_num))

theorem clampProbability_le_one (p : ℚ) : clampProbability id p ≤ 1 :=
  (min_le_left _ _).trans (by norm_num)

theorem rounded_clamp_unit (p : ℚ) : 0 ≤ round3 id (clampProbability id p) ∧
    round3 id (clampProbability id p) ≤ 1 :=
  ⟨roundDigits_nonneg 3 (clampProbability_nonneg p),
    roundDigits_le_one 3 (clampProbability_le_one p)⟩

/-- Every node has a probability. -/
def Probabilities : Set (String → ℚ) := {posterior | ∀ v, 0 ≤ posterior v ∧ posterior v ≤ 1}

variable {graph : DependencyGraph}

theorem criticalityOf_le_one (v : String) : graph.criticalityOf v ≤ 1 := by
  unfold DependencyGraph.criticalityOf
  cases graph.nodeDict.get? v with
  | none => simp
  | some n => simpa using n.criticality.le_one

theorem prior_unit (v : String) : 0 ≤ prior id graph v ∧ prior id graph v ≤ 1 := by
  have hlow := graph.criticalityOf_nonneg v
  have hhigh : graph.criticalityOf v ≤ 1 := criticalityOf_le_one v
  have hprior : prior id graph v = roundDigits 3 (graph.criticalityOf v * (1 / 10)) := rfl
  rw [hprior]
  exact ⟨roundDigits_nonneg 3 (by linarith), roundDigits_le_one 3 (by linarith)⟩

theorem update_probabilities (v : String) {posterior : String → ℚ}
    (h : posterior ∈ Probabilities) :
    Function.update posterior v (beliefUpdate id graph v posterior) ∈ Probabilities := by
  intro u
  rw [Function.update_apply]
  split_ifs
  · exact rounded_clamp_unit _
  · exact h u

/-- A parent's share of the survival is itself a probability. -/
theorem survival_nonneg {posterior : String → ℚ} (h : posterior ∈ Probabilities)
    (e : DependencyEdge) : 0 ≤ 1 - posterior e.source * e.dependencyStrength.val := by
  have hle := mul_le_one₀ (h e.source).2 e.dependencyStrength.nonneg e.dependencyStrength.le_one
  linarith

theorem beliefUpdate_mono (v : String) : MonotoneOn (beliefUpdate id graph v) Probabilities := by
  intro σ hσ τ hτ hle
  rw [beliefUpdate, beliefUpdate, noisyOrPosterior_id, noisyOrPosterior_id]
  apply roundDigits_mono
  apply clampProbability_mono
  apply sub_le_sub_left
  apply mul_le_mul_of_nonneg_left _ (sub_nonneg.mpr (prior_unit v).2)
  apply List.prod_map_le_prod_map₀
  · exact fun e _ => survival_nonneg hτ e
  · intro e _
    exact sub_le_sub_left (mul_le_mul_of_nonneg_right (hle e.source) e.dependencyStrength.nonneg) 1

theorem evidencePosterior_probabilities (observedDegradations : Dict String ℚ) :
    evidencePosterior id graph observedDegradations ∈ Probabilities := by
  intro v
  unfold evidencePosterior
  split_ifs
  · cases observedDegradations.get? v with
    | none => exact prior_unit v
    | some level => exact rounded_clamp_unit level
  · norm_num

/-- The second map observes the same nodes, each at least as degraded. -/
structure AtLeastAsDegraded (observed observed' : Dict String ℚ) : Prop where
  sameKeys : ∀ v, v ∈ observed.keys ↔ v ∈ observed'.keys
  le : ∀ v level level', observed.get? v = some level → observed'.get? v = some level' →
    level ≤ level'

theorem AtLeastAsDegraded.single (v : String) {level level' : ℚ} (h : level ≤ level') :
    AtLeastAsDegraded (Dict.empty.set v level) (Dict.empty.set v level') where
  sameKeys u := by rw [Dict.keys_set, Dict.keys_set]
  le u a a' ha ha' := by
    rw [Dict.get?_set] at ha ha'
    split_ifs at ha ha'
    · rw [← Option.some.inj ha, ← Option.some.inj ha']
      exact h
    · cases ha

variable {observed observed' : Dict String ℚ}

theorem AtLeastAsDegraded.sweepOrder (h : AtLeastAsDegraded observed observed') :
    sweepOrder graph observed = sweepOrder graph observed' := by
  unfold BayesianCascadeForecaster.sweepOrder
  simp only [h.sameKeys]

theorem AtLeastAsDegraded.evidencePosterior (h : AtLeastAsDegraded observed observed') :
    evidencePosterior id graph observed ≤ evidencePosterior id graph observed' := by
  intro v
  have hkeys := h.sameKeys v
  rw [Dict.mem_keys, Dict.mem_keys] at hkeys
  unfold BayesianCascadeForecaster.evidencePosterior
  split_ifs
  · cases hlevel : observed.get? v with
    | none =>
      have hlevel' : observed'.get? v = none := by
        by_contra hne
        exact hkeys.mpr hne hlevel
      rw [hlevel']
    | some level =>
      obtain ⟨level', hlevel'⟩ := Option.ne_none_iff_exists'.mp
        (hkeys.mp (hlevel ▸ Option.some_ne_none _))
      rw [hlevel']
      exact roundDigits_mono 3 (clampProbability_mono (h.le v level level' hlevel hlevel'))
  · exact le_rfl

theorem AtLeastAsDegraded.posteriorOf (h : AtLeastAsDegraded observed observed') :
    posteriorOf (nodeProbabilities id graph observed) ≤
      posteriorOf (nodeProbabilities id graph observed') := by
  rw [(nodeProbabilities_spec id graph observed).2, (nodeProbabilities_spec id graph observed').2,
    h.sweepOrder]
  exact Sweeps.iterate_sweep_mono (fun v _ _ hσ => update_probabilities v hσ)
    (fun v _ => beliefUpdate_mono v) (evidencePosterior_probabilities observed)
    (evidencePosterior_probabilities observed') h.evidencePosterior 3

theorem posteriorOf_probabilities (graph : DependencyGraph) (observed : Dict String ℚ) :
    posteriorOf (nodeProbabilities id graph observed) ∈ Probabilities := by
  rw [(nodeProbabilities_spec id graph observed).2]
  exact Sweeps.iterate_sweep_mem (fun v _ _ hσ => update_probabilities v hσ)
    (evidencePosterior_probabilities observed) 3

theorem posteriorOf_eq {nodeProbs : Dict String BayesianNodeProb} {v : String}
    {prob : BayesianNodeProb} (h : nodeProbs.get? v = some prob) :
    posteriorOf nodeProbs v = prob.posteriorProbability := by
  rw [BayesianCascadeForecaster.posteriorOf, h]
  rfl

/-- Worse evidence on the same nodes never lowers the posterior of a node. -/
theorem forecast_monotone {forecastId forecastId' targetNode : String}
    {r r' : CascadeForecastResult} (hevidence : AtLeastAsDegraded observed observed')
    (hr : forecast id forecastId graph targetNode observed = some r)
    (hr' : forecast id forecastId' graph targetNode observed' = some r') :
    r.nodeProbabilities.keys = graph.nodes.map DependencyNode.nodeId ∧
      r'.nodeProbabilities.keys = graph.nodes.map DependencyNode.nodeId ∧
      ∀ v prob prob', r.nodeProbabilities.get? v = some prob →
        r'.nodeProbabilities.get? v = some prob' →
        prob.posteriorProbability ≤ prob'.posteriorProbability ∧
          (0 ≤ prob.posteriorProbability ∧ prob.posteriorProbability ≤ 1) ∧
          0 ≤ prob'.posteriorProbability ∧ prob'.posteriorProbability ≤ 1 := by
  rw [forecast_nodeProbabilities hr, forecast_nodeProbabilities hr']
  refine ⟨(nodeProbabilities_spec id graph observed).1.keys,
    (nodeProbabilities_spec id graph observed').1.keys, ?_⟩
  intro v prob prob' hprob hprob'
  rw [← posteriorOf_eq hprob, ← posteriorOf_eq hprob']
  exact ⟨hevidence.posteriorOf v, posteriorOf_probabilities graph observed v,
    posteriorOf_probabilities graph observed' v⟩

/-- Two nodes that depend on each other. -/
def mutualDependency : DependencyGraph where
  graphId := "mutual"
  nodes := [{ nodeId := "grid", name := "Grid", nodeType := .power },
    { nodeId := "pumps", name := "Pumps", nodeType := .fuel }]
  edges := [{ source := "grid", target := "pumps" }, { source := "pumps", target := "grid" }]
  uniqueIds := by decide
  knownEnds := by decide

theorem forecast_monotone_mutualDependency : ∃ r r',
    forecast id "mild" mutualDependency "pumps" (Dict.empty.set "grid" (1 / 5)) = some r ∧
      forecast id "severe" mutualDependency "pumps" (Dict.empty.set "grid" (4 / 5)) = some r' ∧
      ∀ v prob prob', r.nodeProbabilities.get? v = some prob →
        r'.nodeProbabilities.get? v = some prob' →
        prob.posteriorProbability ≤ prob'.posteriorProbability ∧
          (0 ≤ prob.posteriorProbability ∧ prob.posteriorProbability ≤ 1) ∧
          0 ≤ prob'.posteriorProbability ∧ prob'.posteriorProbability ≤ 1 := by
  obtain ⟨r, hr⟩ := forecast_returns id "mild" mutualDependency "pumps"
    (Dict.empty.set "grid" (1 / 5)) (List.cons_ne_nil _ _)
  obtain ⟨r', hr'⟩ := forecast_returns id "severe" mutualDependency "pumps"
    (Dict.empty.set "grid" (4 / 5)) (List.cons_ne_nil _ _)
  exact ⟨r, r', hr, hr', (forecast_monotone (.single "grid" (by norm_num)) hr hr').2.2⟩

end ContinuityOS.Intelligence.BayesianCascadeForecaster
