import ContinuityOS.Graph.NoisyOrMeaning
import ContinuityOS.Library.Sweeps

/-! # Cascade failure forecasting

Every node starts from an ambient prior, observed nodes are pinned to their evidence, and three
sweeps over the nodes with dependencies combine what their parents pass on. The results of
arithmetic are represented as a parameter says: doubles round them, exact arithmetic keeps them.
-/
namespace ContinuityOS.Intelligence
open Library ContinuityOS.Graph

/-- Estimated failure probability of a node. -/
structure BayesianNodeProb where
  nodeId : String
  priorProbability : ℚ
  posteriorProbability : ℚ
  confidenceInterval95 : ℚ × ℚ
  primaryInfluencingParents : List String := []
deriving DecidableEq

structure CascadeForecastResult where
  forecastId : String
  targetNodeId : String
  failureProbability : ℚ
  highRiskUpstreamNodes : List String
  nodeProbabilities : Dict String BayesianNodeProb
  executiveForecast : String
deriving DecidableEq

section Arithmetic
variable (fl : ℚ → ℚ)

def round3 (p : ℚ) : ℚ := fl (roundDigits 3 p)

/-- Infinite levels are clamped like large ones, and one that is no number like zero. -/
def clampProbability (p : ℚ) : ℚ := min (fl (99 / 100)) (max (fl (1 / 100)) p)

def confidenceInterval (p margin : ℚ) : ℚ × ℚ :=
  (round3 fl (max 0 (fl (p - fl margin))), round3 fl (min 1 (fl (p + fl margin))))

end Arithmetic

namespace BayesianCascadeForecaster

section Definitions
variable (fl : ℚ → ℚ)

def initialProb (node : DependencyNode) : BayesianNodeProb :=
  let prior := fl (node.criticality.val * fl (1 / 10))
  { nodeId := node.nodeId
    priorProbability := round3 fl prior
    posteriorProbability := round3 fl prior
    confidenceInterval95 := confidenceInterval fl prior (5 / 100) }

def initialProbs (graph : DependencyGraph) : Dict String BayesianNodeProb :=
  graph.nodes.foldl (fun nodeProbs node => nodeProbs.set node.nodeId (initialProb fl node))
    Dict.empty

def observe (prob : BayesianNodeProb) (degradationLevel : ℚ) : BayesianNodeProb :=
  let pObs := clampProbability fl degradationLevel
  { prob with
    posteriorProbability := round3 fl pObs
    confidenceInterval95 := confidenceInterval fl pObs (3 / 100) }

def injectEvidence (nodeProbs : Dict String BayesianNodeProb) (evidence : String × ℚ) :
    Dict String BayesianNodeProb :=
  match nodeProbs.get? evidence.1 with
  | some prob => nodeProbs.set evidence.1 (observe fl prob evidence.2)
  | none => nodeProbs

/-- The sources of each target's edges with their strengths. -/
def adjParents (graph : DependencyGraph) : Dict String (List (String × ℚ)) :=
  Dict.collect (graph.edges.map fun edge =>
    (edge.target, (edge.source, edge.dependencyStrength.val)))

/-- The probability of no failure, with one more parent. -/
def combine (pNoFailure posterior weight : ℚ) : ℚ :=
  fl (pNoFailure * fl (1 - fl (posterior * weight)))

/-- The probability of no failure and the influencing parents, with one more parent. -/
def combineParent (nodeProbs : Dict String BayesianNodeProb) (acc : ℚ × List String)
    (parent : String × ℚ) : ℚ × List String :=
  match nodeProbs.get? parent.1 with
  | some prob =>
    (combine fl acc.1 prob.posteriorProbability parent.2,
      if fl (3 / 10) < prob.posteriorProbability then acc.2 ++ [parent.1] else acc.2)
  | none => acc

def updateNode (observedDegradations : Dict String ℚ) (nodeProbs : Dict String BayesianNodeProb)
    (node : String × List (String × ℚ)) : Dict String BayesianNodeProb :=
  if node.1 ∈ observedDegradations.keys then nodeProbs
  else
    match nodeProbs.get? node.1 with
    | none => nodeProbs
    | some prob =>
      let combined := node.2.foldl (combineParent fl nodeProbs) (fl (1 - prob.priorProbability), [])
      let posterior := clampProbability fl (fl (1 - combined.1))
      nodeProbs.set node.1 { prob with
        posteriorProbability := round3 fl posterior
        confidenceInterval95 := confidenceInterval fl posterior (6 / 100)
        primaryInfluencingParents := combined.2 }

def nodeProbabilities (graph : DependencyGraph) (observedDegradations : Dict String ℚ) :
    Dict String BayesianNodeProb :=
  (fun nodeProbs =>
      (adjParents graph).entries.foldl (updateNode fl observedDegradations) nodeProbs)^[3]
    (observedDegradations.entries.foldl (injectEvidence fl) (initialProbs fl graph))

/-- The forecast for a graph; one without nodes has no first node to fall back on. -/
def forecast (forecastId : String) (graph : DependencyGraph) (targetNode : String)
    (observedDegradations : Dict String ℚ) : Option CascadeForecastResult :=
  let nodeProbs := nodeProbabilities fl graph observedDegradations
  match nodeProbs.entries with
  | [] => none
  | first :: _ =>
    let targetProb := nodeProbs.getD targetNode first.2
    let highRisk := (nodeProbs.entries.filter fun b =>
      decide (1 / 2 ≤ b.2.posteriorProbability)).map Prod.fst
    let summary := "Bayesian Forecast for '" ++ targetNode ++ "': Failure Probability is " ++
      percent targetProb.posteriorProbability ++ ". " ++ toString highRisk.length ++
      " nodes in severe cascade regime: " ++ ", ".intercalate (highRisk.take 4) ++ "."
    some { forecastId := forecastId, targetNodeId := targetNode
           failureProbability := targetProb.posteriorProbability
           highRiskUpstreamNodes := highRisk, nodeProbabilities := nodeProbs
           executiveForecast := summary }

end Definitions

section Posteriors
variable (fl : ℚ → ℚ) (graph : DependencyGraph)

def prior (v : String) : ℚ := round3 fl (fl (graph.criticalityOf v * fl (1 / 10)))

/-- The posterior of a node, zero where there is none. -/
def posteriorOf (nodeProbs : Dict String BayesianNodeProb) (v : String) : ℚ :=
  ((nodeProbs.get? v).map BayesianNodeProb.posteriorProbability).getD 0

/-- The bounded noisy-OR of what edges pass on to a node of some prior probability. -/
def noisyOrPosterior (priorProbability : ℚ) (posterior : String → ℚ)
    (edges : List DependencyEdge) : ℚ :=
  round3 fl (clampProbability fl (fl (1 - edges.foldl
    (fun p e => combine fl p (posterior e.source) e.dependencyStrength.val)
    (fl (1 - priorProbability)))))

def beliefUpdate (v : String) (posterior : String → ℚ) : ℚ :=
  noisyOrPosterior fl (prior fl graph v) posterior (incoming graph v)

/-- The nodes that a sweep computes, in its order. -/
def sweepOrder (observedDegradations : Dict String ℚ) : List String :=
  (adjParents graph).keys.filter fun v => decide (v ∉ observedDegradations.keys)

/-- The dictionary has every node of the graph with its prior, in the order of the nodes. -/
structure Covers (nodeProbs : Dict String BayesianNodeProb) : Prop where
  keys : nodeProbs.keys = graph.nodes.map DependencyNode.nodeId
  prior_eq : ∀ v prob, nodeProbs.get? v = some prob → prob.priorProbability = prior fl graph v

end Posteriors

section Sets
variable {fl : ℚ → ℚ} {graph : DependencyGraph} {nodeProbs : Dict String BayesianNodeProb}

theorem Covers.get?_eq (h : Covers fl graph nodeProbs) {v : String} (hv : v ∈ graph.nodeIds) :
    ∃ prob, nodeProbs.get? v = some prob := by
  rw [← Option.ne_none_iff_exists', ← Dict.mem_keys, h.keys]
  exact graph.mem_nodeIds.mp hv

theorem Covers.get?_eq_none (h : Covers fl graph nodeProbs) {v : String} (hv : v ∉ graph.nodeIds) :
    nodeProbs.get? v = none := by
  rwa [Dict.get?_eq_none, h.keys, ← graph.mem_nodeIds]

theorem Covers.set (h : Covers fl graph nodeProbs) {v : String} {prob : BayesianNodeProb}
    (hprob : nodeProbs.get? v = some prob) {new : BayesianNodeProb}
    (hprior : new.priorProbability = prob.priorProbability) :
    Covers fl graph (nodeProbs.set v new) where
  keys := by
    have hmem : v ∈ nodeProbs.keys := by
      rw [Dict.mem_keys, hprob]
      exact Option.some_ne_none _
    rw [Dict.keys_set, if_pos hmem, h.keys]
  prior_eq u p hu := by
    rw [Dict.get?_set] at hu
    split_ifs at hu with huv
    · rw [← Option.some.inj hu, hprior, ← huv, h.prior_eq v prob hprob]
    · exact h.prior_eq u p hu

theorem posteriorOf_set (v : String) (new : BayesianNodeProb) :
    posteriorOf (nodeProbs.set v new) =
      Function.update (posteriorOf nodeProbs) v new.posteriorProbability := by
  funext u
  rw [Function.update_apply, posteriorOf, Dict.get?_set]
  by_cases h : v = u
  · rw [if_pos h, if_pos h.symm]
    rfl
  · rw [if_neg h, if_neg (Ne.symm h), posteriorOf]

end Sets

section Evidence
variable {fl : ℚ → ℚ} {graph : DependencyGraph} {nodeProbs : Dict String BayesianNodeProb}

/-- The posteriors that the sweeps start from. -/
def evidencePosterior (fl : ℚ → ℚ) (graph : DependencyGraph) (observedDegradations : Dict String ℚ)
    (v : String) : ℚ :=
  if v ∈ graph.nodeIds then
    ((observedDegradations.get? v).map fun level => round3 fl (clampProbability fl level)).getD
      (prior fl graph v)
  else 0

theorem initialProbs_entries (fl : ℚ → ℚ) (graph : DependencyGraph) :
    (initialProbs fl graph).entries = graph.nodes.map fun n => (n.nodeId, initialProb fl n) :=
  Dict.entries_foldl_set_map DependencyNode.nodeId (initialProb fl) graph.uniqueIds

theorem criticalityOf_nodeId {n : DependencyNode} (hn : n ∈ graph.nodes) :
    graph.criticalityOf n.nodeId = n.criticality.val := by
  have hget : graph.nodeDict.get? n.nodeId = some n :=
    (Dict.mem_entries _ _ _).mp (List.mem_map.mpr ⟨n, hn, rfl⟩)
  rw [DependencyGraph.criticalityOf, hget]
  rfl

theorem initialProbs_get? {v : String} {prob : BayesianNodeProb}
    (h : (initialProbs fl graph).get? v = some prob) :
    prob.priorProbability = prior fl graph v ∧ prob.posteriorProbability = prior fl graph v := by
  rw [← Dict.mem_entries, initialProbs_entries] at h
  obtain ⟨n, hn, heq⟩ := List.mem_map.mp h
  cases heq
  rw [prior, criticalityOf_nodeId hn]
  exact ⟨rfl, rfl⟩

theorem initialProbs_covers (fl : ℚ → ℚ) (graph : DependencyGraph) : Covers fl graph (initialProbs fl graph) where
  keys := by
    rw [Dict.keys, initialProbs_entries, List.map_map]
    rfl
  prior_eq _ _ h := (initialProbs_get? h).1

theorem Covers.posteriorOf_eq_zero (h : Covers fl graph nodeProbs) {v : String}
    (hv : v ∉ graph.nodeIds) : posteriorOf nodeProbs v = 0 := by
  rw [posteriorOf, h.get?_eq_none hv]
  rfl

theorem Covers.injectEvidence (h : Covers fl graph nodeProbs) (evidence : String × ℚ) :
    Covers fl graph (injectEvidence fl nodeProbs evidence) := by
  unfold BayesianCascadeForecaster.injectEvidence
  split
  · rename_i prob hprob
    exact h.set hprob rfl
  · exact h

theorem posteriorOf_injectEvidence (h : Covers fl graph nodeProbs) (evidence : String × ℚ)
    (v : String) : posteriorOf (injectEvidence fl nodeProbs evidence) v =
      if v ∈ graph.nodeIds ∧ evidence.1 = v then round3 fl (clampProbability fl evidence.2)
      else posteriorOf nodeProbs v := by
  unfold injectEvidence
  by_cases hmem : evidence.1 ∈ graph.nodeIds
  · obtain ⟨prob, hprob⟩ := h.get?_eq hmem
    simp only [hprob]
    rw [posteriorOf_set, Function.update_apply]
    by_cases hv : v = evidence.1
    · rw [if_pos hv, if_pos ⟨hv ▸ hmem, hv.symm⟩]
      rfl
    · rw [if_neg hv, if_neg fun hand => hv hand.2.symm]
  · simp only [h.get?_eq_none hmem]
    rw [if_neg]
    rintro ⟨hv, rfl⟩
    exact hmem hv

theorem posteriorOf_foldl_injectEvidence (h : Covers fl graph nodeProbs) {l : List (String × ℚ)}
    (hl : (l.map Prod.fst).Nodup) :
    Covers fl graph (l.foldl (injectEvidence fl) nodeProbs) ∧
      ∀ v ∈ graph.nodeIds, posteriorOf (l.foldl (injectEvidence fl) nodeProbs) v =
        ((Bindings.lookup l v).map fun level => round3 fl (clampProbability fl level)).getD
          (posteriorOf nodeProbs v) := by
  induction l generalizing nodeProbs with
  | nil => exact ⟨h, fun v _ => rfl⟩
  | cons b l ih =>
    rw [List.map_cons, List.nodup_cons] at hl
    obtain ⟨hcovers, hrest⟩ := ih (h.injectEvidence b) hl.2
    refine ⟨hcovers, fun v hv => ?_⟩
    rw [List.foldl_cons, hrest v hv, posteriorOf_injectEvidence h, Bindings.lookup]
    by_cases hb : b.1 = v
    · rw [if_pos ⟨hv, hb⟩, if_pos hb, (Bindings.lookup_eq_none l v).mpr (hb ▸ hl.1)]
      rfl
    · rw [if_neg fun hand => hb hand.2, if_neg hb]

theorem evidence_covers (fl : ℚ → ℚ) (graph : DependencyGraph) (observedDegradations : Dict String ℚ) :
    Covers fl graph (observedDegradations.entries.foldl (injectEvidence fl) (initialProbs fl graph)) :=
  (posteriorOf_foldl_injectEvidence (initialProbs_covers fl graph) observedDegradations.nodup).1

theorem posteriorOf_evidence (fl : ℚ → ℚ) (graph : DependencyGraph) (observedDegradations : Dict String ℚ) :
    posteriorOf (observedDegradations.entries.foldl (injectEvidence fl) (initialProbs fl graph)) =
      evidencePosterior fl graph observedDegradations := by
  funext v
  rw [evidencePosterior]
  by_cases hv : v ∈ graph.nodeIds
  · obtain ⟨prob, hprob⟩ := (initialProbs_covers fl graph).get?_eq hv
    rw [if_pos hv, (posteriorOf_foldl_injectEvidence (initialProbs_covers fl graph)
      observedDegradations.nodup).2 v hv, posteriorOf, hprob, Option.map_some, Option.getD_some,
      (initialProbs_get? hprob).2]
    rfl
  · rw [if_neg hv, (evidence_covers fl graph observedDegradations).posteriorOf_eq_zero hv]

end Evidence

section Sweeping
variable {fl : ℚ → ℚ} {graph : DependencyGraph} {observedDegradations : Dict String ℚ}

theorem adjParents_mem {v : String} {parents : List (String × ℚ)}
    (h : (v, parents) ∈ (adjParents graph).entries) :
    v ∈ graph.nodeIds ∧
      parents = (incoming graph v).map fun e => (e.source, e.dependencyStrength.val) := by
  obtain ⟨hkey, rfl⟩ := (Dict.mem_entries_collect _ _ _).mp h
  rw [List.map_map] at hkey
  obtain ⟨e, he, rfl⟩ := List.mem_map.mp hkey
  refine ⟨graph.target_mem he, ?_⟩
  rw [List.filter_map, List.map_map]
  rfl

theorem mem_adjParents_keys {v : String} :
    v ∈ (adjParents graph).keys ↔ incoming graph v ≠ [] := by
  rw [Dict.mem_keys, adjParents, Dict.get?_collect, List.map_map]
  constructor
  · intro h hnil
    rw [if_neg] at h
    · exact h rfl
    · intro hmem
      obtain ⟨e, he, rfl⟩ := List.mem_map.mp hmem
      exact List.ne_nil_of_mem (mem_incoming.mpr ⟨he, rfl⟩) hnil
  · intro h
    obtain ⟨e, he⟩ := List.exists_mem_of_ne_nil _ h
    obtain ⟨hedge, rfl⟩ := mem_incoming.mp he
    rw [if_pos]
    · exact Option.some_ne_none _
    · exact List.mem_map.mpr ⟨e, hedge, rfl⟩

theorem mem_sweepOrder {v : String} :
    v ∈ sweepOrder graph observedDegradations ↔
      incoming graph v ≠ [] ∧ v ∉ observedDegradations.keys := by
  rw [sweepOrder, List.mem_filter, mem_adjParents_keys, decide_eq_true_eq]

theorem sweepOrder_nodup : (sweepOrder graph observedDegradations).Nodup :=
  (adjParents graph).nodup.filter _

variable {nodeProbs : Dict String BayesianNodeProb}

theorem foldl_combineParent (h : Covers fl graph nodeProbs) {edges : List DependencyEdge}
    (hedges : ∀ e ∈ edges, e ∈ graph.edges) (acc : ℚ × List String) :
    ((edges.map fun e => (e.source, e.dependencyStrength.val)).foldl (combineParent fl nodeProbs)
      acc).1 = edges.foldl (fun p e =>
        combine fl p (posteriorOf nodeProbs e.source) e.dependencyStrength.val) acc.1 := by
  induction edges generalizing acc with
  | nil => rfl
  | cons e edges ih =>
    rw [List.forall_mem_cons] at hedges
    have hsource := graph.mem_nodeIds.mpr (graph.knownEnds e hedges.1).1
    obtain ⟨prob, hprob⟩ := h.get?_eq hsource
    have hparent : (combineParent fl nodeProbs acc (e.source, e.dependencyStrength.val)).1 =
        combine fl acc.1 (posteriorOf nodeProbs e.source) e.dependencyStrength.val := by
      rw [combineParent, posteriorOf]
      simp only [hprob, Option.map_some, Option.getD_some]
    rw [List.map_cons, List.foldl_cons, ih hedges.2, List.foldl_cons, hparent]

/-- An update of a node that is not observed recomputes its posterior from the others. -/
theorem updateNode_eq (fl : ℚ → ℚ) (observedDegradations : Dict String ℚ) (h : Covers fl graph nodeProbs)
    {v : String} {parents : List (String × ℚ)}
    (hv : (v, parents) ∈ (adjParents graph).entries) :
    Covers fl graph (updateNode fl observedDegradations nodeProbs (v, parents)) ∧
      posteriorOf (updateNode fl observedDegradations nodeProbs (v, parents)) =
        if v ∈ observedDegradations.keys then posteriorOf nodeProbs
        else Function.update (posteriorOf nodeProbs) v
          (beliefUpdate fl graph v (posteriorOf nodeProbs)) := by
  unfold updateNode
  split_ifs with hobserved
  · exact ⟨h, rfl⟩
  · obtain ⟨hmem, rfl⟩ := adjParents_mem hv
    obtain ⟨prob, hprob⟩ := h.get?_eq hmem
    simp only [hprob]
    refine ⟨h.set hprob rfl, ?_⟩
    rw [posteriorOf_set, beliefUpdate, noisyOrPosterior, ← foldl_combineParent h
      (fun e he => (mem_incoming.mp he).1) (fl (1 - prior fl graph v), []), h.prior_eq v prob hprob]

theorem foldl_updateNode (fl : ℚ → ℚ) (observedDegradations : Dict String ℚ)
    {l : List (String × List (String × ℚ))} (hl : ∀ b ∈ l, b ∈ (adjParents graph).entries)
    (h : Covers fl graph nodeProbs) :
    Covers fl graph (l.foldl (updateNode fl observedDegradations) nodeProbs) ∧
      posteriorOf (l.foldl (updateNode fl observedDegradations) nodeProbs) =
        Sweeps.sweep (beliefUpdate fl graph)
          ((l.map Prod.fst).filter fun v => decide (v ∉ observedDegradations.keys))
          (posteriorOf nodeProbs) := by
  induction l generalizing nodeProbs with
  | nil => exact ⟨h, rfl⟩
  | cons b l ih =>
    rw [List.forall_mem_cons] at hl
    obtain ⟨hcovers, hposterior⟩ := updateNode_eq fl observedDegradations h hl.1
    obtain ⟨hcovers', hrest⟩ := ih hl.2 hcovers
    refine ⟨hcovers', hrest.trans ?_⟩
    rw [hposterior, List.map_cons]
    by_cases hobserved : b.1 ∈ observedDegradations.keys
    · rw [if_pos hobserved, List.filter_cons_of_neg (by simpa using hobserved)]
    · rw [if_neg hobserved, List.filter_cons_of_pos (by simpa using hobserved)]
      rfl

/-- The posteriors of a forecast are three sweeps in place from the evidence. -/
theorem nodeProbabilities_spec (fl : ℚ → ℚ) (graph : DependencyGraph) (observedDegradations : Dict String ℚ) :
    Covers fl graph (nodeProbabilities fl graph observedDegradations) ∧
      posteriorOf (nodeProbabilities fl graph observedDegradations) =
        (Sweeps.sweep (beliefUpdate fl graph) (sweepOrder graph observedDegradations))^[3]
          (evidencePosterior fl graph observedDegradations) := by
  rw [← posteriorOf_evidence, nodeProbabilities]
  have hcovers := evidence_covers fl graph observedDegradations
  generalize observedDegradations.entries.foldl (injectEvidence fl) (initialProbs fl graph) = nodeProbs
    at hcovers ⊢
  generalize 3 = sweeps
  induction sweeps generalizing nodeProbs with
  | zero => exact ⟨hcovers, rfl⟩
  | succ sweeps ih =>
    obtain ⟨hnext, hposterior⟩ := foldl_updateNode fl observedDegradations (fun b hb => hb) hcovers
    rw [Function.iterate_succ_apply, Function.iterate_succ_apply]
    exact hposterior ▸ ih _ hnext

end Sweeping

/-- Only a graph without nodes has no forecast. -/
theorem forecast_returns (fl : ℚ → ℚ) (forecastId : String) (graph : DependencyGraph) (targetNode : String)
    (observedDegradations : Dict String ℚ) (h : graph.nodes ≠ []) :
    ∃ r, forecast fl forecastId graph targetNode observedDegradations = some r := by
  have hkeys := (nodeProbabilities_spec fl graph observedDegradations).1.keys
  unfold forecast
  dsimp only
  split
  · rename_i hnil
    rw [Dict.keys, hnil, List.map_nil, eq_comm, List.map_eq_nil_iff] at hkeys
    exact absurd hkeys h
  · exact ⟨_, rfl⟩

theorem forecast_nodeProbabilities {fl : ℚ → ℚ} {forecastId : String} {graph : DependencyGraph}
    {targetNode : String} {observedDegradations : Dict String ℚ} {r : CascadeForecastResult}
    (h : forecast fl forecastId graph targetNode observedDegradations = some r) :
    r.nodeProbabilities = nodeProbabilities fl graph observedDegradations := by
  unfold forecast at h
  dsimp only at h
  split at h
  · cases h
  · rw [← Option.some.inj h]

end BayesianCascadeForecaster

end ContinuityOS.Intelligence
