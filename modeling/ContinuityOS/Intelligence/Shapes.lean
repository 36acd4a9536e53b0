import ContinuityOS.Intelligence.Fixpoint

/-! # Three sweeps are exact for a shape

Whether all nodes settle depends on the nodes, the order of the edges and the nodes observed, not
on their values. Where some node does not settle, there are values under which it is left with a
stale posterior even in exact arithmetic: every computed node follows one parent that delays it,
and nothing else counts.
-/
namespace ContinuityOS.Intelligence.BayesianCascadeForecaster
open Library ContinuityOS.Graph

/-- The nodes and edges are the same and in the same order, whatever their values. -/
structure SameShape (graph graph' : DependencyGraph) : Prop where
  nodes : graph'.nodes.map DependencyNode.nodeId = graph.nodes.map DependencyNode.nodeId
  edges : graph'.edges.map (fun e => (e.source, e.target)) =
    graph.edges.map fun e => (e.source, e.target)

section Shape
variable {graph graph' : DependencyGraph} {observed observed' : Dict String ℚ}

theorem edgeTo_iff_mem {u v : String} :
    EdgeTo graph u v ↔ (u, v) ∈ graph.edges.map fun e => (e.source, e.target) := by
  rw [EdgeTo, List.mem_map]
  simp only [Prod.mk.injEq]

theorem SameShape.edgeTo (h : SameShape graph graph') : EdgeTo graph' = EdgeTo graph := by
  funext u v
  rw [eq_iff_iff, edgeTo_iff_mem, edgeTo_iff_mem, h.edges]

theorem SameShape.sweepOrder (h : SameShape graph graph') (hkeys : observed'.keys = observed.keys) :
    sweepOrder graph' observed' = sweepOrder graph observed := by
  have htargets : graph'.edges.map DependencyEdge.target =
      graph.edges.map DependencyEdge.target := by
    have hsnd := congrArg (List.map Prod.snd) h.edges
    rwa [List.map_map, List.map_map] at hsnd
  have hadj : (adjParents graph').keys = (adjParents graph).keys := by
    rw [adjParents, adjParents, Dict.keys_collect, Dict.keys_collect, List.map_map, List.map_map]
    exact congrArg _ htargets
  rw [BayesianCascadeForecaster.sweepOrder, BayesianCascadeForecaster.sweepOrder, hadj, hkeys]

theorem SameShape.settles (h : SameShape graph graph') (hkeys : observed'.keys = observed.keys)
    (hsettles : SettlesInThree graph observed) : SettlesInThree graph' observed' := by
  unfold SettlesInThree
  rw [h.sweepOrder hkeys, h.edgeTo]
  exact hsettles

end Shape

section Cut
variable (graph : DependencyGraph) (order : List String) (chosen : String → ℕ)

/-- Computed nodes have no prior of their own, the others all that there is. -/
def cutNode (node : DependencyNode) : DependencyNode :=
  { node with criticality := if node.nodeId ∈ order then ⟨0, Score.zero_mem⟩ else Score.one }

/-- Only the edge at the position chosen for its target counts. -/
def cutEdge (edge : DependencyEdge × ℕ) : DependencyEdge :=
  { edge.1 with
    dependencyStrength :=
      if chosen edge.1.target = edge.2 then Score.one else ⟨0, Score.zero_mem⟩ }

theorem cutEdges_ends : ((graph.edges.zipIdx.map (cutEdge chosen)).map fun e =>
    (e.source, e.target)) = graph.edges.map fun e => (e.source, e.target) := by
  conv_rhs => rw [← List.zipIdx_map_fst 0 graph.edges]
  rw [List.map_map, List.map_map]
  rfl

def cutGraph : DependencyGraph where
  graphId := graph.graphId
  nodes := graph.nodes.map (cutNode order)
  edges := graph.edges.zipIdx.map (cutEdge chosen)
  uniqueIds := by
    rw [List.map_map]
    exact graph.uniqueIds
  knownEnds e he := by
    have hends : (e.source, e.target) ∈ (graph.edges.zipIdx.map (cutEdge chosen)).map fun e =>
        (e.source, e.target) := List.mem_map_of_mem he
    rw [cutEdges_ends] at hends
    obtain ⟨e', he', heq⟩ := List.mem_map.mp hends
    obtain ⟨hsource, htarget⟩ := Prod.mk.inj heq
    rw [List.map_map, ← hsource, ← htarget]
    exact graph.knownEnds e' he'

theorem sameShape_cutGraph : SameShape graph (cutGraph graph order chosen) where
  nodes := by
    rw [cutGraph, List.map_map]
    rfl
  edges := cutEdges_ends graph chosen

variable {graph order chosen}

theorem prior_cutGraph {v : String} (hv : v ∈ graph.nodeIds) :
    prior id (cutGraph graph order chosen) v = if v ∈ order then 0 else 1 / 10 := by
  obtain ⟨n, hn, rfl⟩ := List.mem_map.mp (graph.mem_nodeIds.mp hv)
  have hnode : cutNode order n ∈ (cutGraph graph order chosen).nodes := List.mem_map_of_mem hn
  have hcriticality : (cutGraph graph order chosen).criticalityOf n.nodeId =
      (cutNode order n).criticality.val := criticalityOf_nodeId hnode
  rw [prior, hcriticality, cutNode]
  split_ifs
  · rw [zero_mul]
    exact roundDigits_zero 3
  · have htenth : roundDigits 3 (1 * (1 / 10)) = 1 / 10 := by decide +kernel
    exact htenth

theorem prod_map_single {α : Type*} {l : List α} (hl : l.Nodup) {f : α → ℚ} {a : α} (ha : a ∈ l)
    (hone : ∀ b ∈ l, b ≠ a → f b = 1) : (l.map f).prod = f a := by
  induction l with
  | nil => cases ha
  | cons b l ih =>
    rw [List.nodup_cons] at hl
    rw [List.forall_mem_cons] at hone
    rw [List.map_cons, List.prod_cons]
    by_cases hb : b = a
    · subst hb
      have hrest : ∀ q ∈ l.map f, q = 1 := List.forall_mem_map.mpr fun c hc =>
        hone.2 c hc fun hcb => hl.1 (hcb ▸ hc)
      rw [List.prod_eq_one hrest, mul_one]
    · rw [hone.1 hb, one_mul, ih hl.2 ((List.mem_cons.mp ha).resolve_left (Ne.symm hb)) hone.2]

/-- A computed node takes on the bounded posterior of the parent chosen for it. -/
theorem beliefUpdate_cutGraph {v : String} (hv : v ∈ order) {e : DependencyEdge}
    (he : graph.edges[chosen v]? = some e) (htarget : e.target = v) (posterior : String → ℚ) :
    beliefUpdate id (cutGraph graph order chosen) v posterior =
      round3 id (clampProbability id (posterior e.source)) := by
  have hmem : v ∈ graph.nodeIds := htarget ▸ graph.target_mem (List.mem_of_getElem? he)
  have hincoming : (incoming (cutGraph graph order chosen) v).map (fun e =>
      1 - posterior e.source * e.dependencyStrength.val) =
        (graph.edges.zipIdx.filter fun p => decide (p.1.target = v)).map fun p =>
          1 - posterior p.1.source * (cutEdge chosen p).dependencyStrength.val := by
    rw [incoming, cutGraph, List.filter_map, List.map_map]
    rfl
  have hnodup : (graph.edges.zipIdx.filter fun p => decide (p.1.target = v)).Nodup := by
    refine List.Nodup.filter _ (List.Nodup.of_map Prod.snd ?_)
    rw [List.zipIdx_map_snd]
    exact List.nodup_range' _
  have hedge : (e, chosen v) ∈ graph.edges.zipIdx.filter fun p => decide (p.1.target = v) :=
    List.mem_filter.mpr ⟨List.mem_zipIdx_iff_getElem?.mpr he, decide_eq_true htarget⟩
  have hproduct : ((graph.edges.zipIdx.filter fun p => decide (p.1.target = v)).map fun p =>
      1 - posterior p.1.source * (cutEdge chosen p).dependencyStrength.val).prod =
        1 - posterior e.source := by
    rw [prod_map_single hnodup hedge]
    · simp [cutEdge, htarget, Score.one]
    · rintro ⟨e', i⟩ hmem' hne
      obtain ⟨hindex, ht⟩ := List.mem_filter.mp hmem'
      have ht' : e'.target = v := of_decide_eq_true ht
      rw [List.mem_zipIdx_iff_getElem?] at hindex
      have hchosen : chosen v ≠ i := by
        rintro rfl
        exact hne (Prod.ext (Option.some.inj (hindex.symm.trans he)) rfl)
      simp only [cutEdge, ht', if_neg hchosen, mul_zero, sub_zero]
  rw [beliefUpdate, noisyOrPosterior_id, hincoming, hproduct, prior_cutGraph hmem, if_pos hv, sub_zero, one_mul,
    sub_sub_cancel]
  rfl

end Cut

section Stale
variable {graph : DependencyGraph} {observed : Dict String ℚ}

/-- The same nodes observed, each a little degraded. -/
def slightly (observed : Dict String ℚ) : Dict String ℚ :=
  Dict.ofKeys observed.keys observed.keys_nodup fun _ => 1 / 10

theorem keys_slightly : (slightly observed).keys = observed.keys := Dict.keys_ofKeys _ _ _

variable {chosen : String → ℕ}

/-- The graph of a shape in which only the chosen edges count. -/
abbrev delayedGraph (graph : DependencyGraph) (observed : Dict String ℚ)
    (chosen : String → ℕ) : DependencyGraph := cutGraph graph (sweepOrder graph observed) chosen

theorem sameShape_delayedGraph : SameShape graph (delayedGraph graph observed chosen) :=
  sameShape_cutGraph graph _ chosen

theorem sweepOrder_delayedGraph :
    sweepOrder (delayedGraph graph observed chosen) (slightly observed) =
      sweepOrder graph observed := sameShape_delayedGraph.sweepOrder keys_slightly

theorem evidencePosterior_delayedGraph {v : String} (hv : v ∈ graph.nodeIds) :
    evidencePosterior id (delayedGraph graph observed chosen) (slightly observed) v =
      if v ∈ sweepOrder graph observed then 0 else 1 / 10 := by
  have hmem : v ∈ (delayedGraph graph observed chosen).nodeIds := by
    rw [DependencyGraph.mem_nodeIds, sameShape_delayedGraph.nodes]
    exact graph.mem_nodeIds.mp hv
  rw [evidencePosterior, if_pos hmem, slightly, Dict.get?_ofKeys, prior_cutGraph hv]
  by_cases hobserved : v ∈ observed.keys
  · rw [if_pos hobserved, if_neg fun horder => (mem_sweepOrder.mp horder).2 hobserved]
    decide +kernel
  · rw [if_neg hobserved]
    rfl

/-- A parent for every computed node that delays it as long as it has not settled, and the
position of an edge from this parent. -/
structure DelayingParents (graph : DependencyGraph) (observed : Dict String ℚ)
    (parent : String → String) (chosen : String → ℕ) : Prop where
  edge : ∀ v ∈ sweepOrder graph observed,
    ∃ e, graph.edges[chosen v]? = some e ∧ e.source = parent v ∧ e.target = v
  delays : ∀ v ∈ sweepOrder graph observed, ∀ m < 3,
    ¬ Sweeps.SettlesBy (fun v u => EdgeTo graph u v) (sweepOrder graph observed) (m + 1) v →
    Sweeps.Delays (fun v u => EdgeTo graph u v) (sweepOrder graph observed) m (parent v) v

theorem exists_delayingParents (graph : DependencyGraph) (observed : Dict String ℚ) :
    ∃ parent chosen, DelayingParents graph observed parent chosen := by
  have hparent : ∀ v, ∃ (u : String) (i : ℕ), v ∈ sweepOrder graph observed →
      (∃ e, graph.edges[i]? = some e ∧ e.source = u ∧ e.target = v) ∧
        ∀ m < 3, ¬ Sweeps.SettlesBy (fun v u => EdgeTo graph u v) (sweepOrder graph observed)
          (m + 1) v → Sweeps.Delays (fun v u => EdgeTo graph u v) (sweepOrder graph observed)
            m u v := by
    intro v
    by_cases hv : v ∈ sweepOrder graph observed
    · obtain ⟨e, he⟩ := List.exists_mem_of_ne_nil _ (mem_sweepOrder.mp hv).1
      obtain ⟨hedge, htarget⟩ := mem_incoming.mp he
      have hreads : ∃ u, EdgeTo graph u v := ⟨e.source, e, hedge, rfl, htarget⟩
      obtain ⟨u, ⟨e', he', hsource, htarget'⟩, hdelays⟩ :=
        Sweeps.exists_delays (fun v u => EdgeTo graph u v) (sweepOrder graph observed) hreads 3
      obtain ⟨i, hi⟩ := List.mem_iff_getElem?.mp he'
      exact ⟨u, i, fun _ => ⟨⟨e', hi, hsource, htarget'⟩, hdelays⟩⟩
    · exact ⟨v, 0, fun hmem => absurd hmem hv⟩
  choose parent chosen hchosen using hparent
  exact ⟨parent, chosen, fun v hv => (hchosen v hv).1, fun v hv => (hchosen v hv).2⟩

variable {parent : String → String}

theorem DelayingParents.beliefUpdate (h : DelayingParents graph observed parent chosen) {v : String}
    (hv : v ∈ sweepOrder graph observed) (posterior : String → ℚ) :
    beliefUpdate id (delayedGraph graph observed chosen) v posterior =
      round3 id (clampProbability id (posterior (parent v))) := by
  obtain ⟨e, he, hsource, htarget⟩ := h.edge v hv
  rw [beliefUpdate_cutGraph hv he htarget, hsource]

/-- A solution of the equations carries the signal of the sources to every node. -/
theorem DelayingParents.signal (h : DelayingParents graph observed parent chosen)
    (hacyclic : Acyclic graph) {posterior : String → ℚ}
    (hsolves : Solves id (delayedGraph graph observed chosen) (slightly observed) posterior)
    {v : String} (hmem : v ∈ graph.nodeIds) : posterior v = 1 / 10 := by
  revert hmem
  refine hacyclic.induction (P := fun v => v ∈ graph.nodeIds → posterior v = 1 / 10) ?_ v
  intro v ih hmem
  by_cases hv : v ∈ sweepOrder graph observed
  · obtain ⟨e, he, hsource, htarget⟩ := h.edge v hv
    have hedge := List.mem_of_getElem? he
    have hparent := ih e (mem_incoming.mpr ⟨hedge, htarget⟩)
      (graph.mem_nodeIds.mpr (graph.knownEnds e hedge).1)
    rw [hsource] at hparent
    rw [← hsolves.computed v (by rwa [sweepOrder_delayedGraph]), h.beliefUpdate hv, hparent]
    decide +kernel
  · rw [hsolves.given v (by rwa [sweepOrder_delayedGraph]), evidencePosterior_delayedGraph hmem,
      if_neg hv]

/-- Three sweeps do not bring the signal to a node that has not settled. -/
theorem DelayingParents.stale (h : DelayingParents graph observed parent chosen) {v : String}
    (hv : ¬ Sweeps.SettlesBy (fun v u => EdgeTo graph u v) (sweepOrder graph observed) 3 v) :
    afterSweeps id (delayedGraph graph observed chosen) (slightly observed) 3 v ≤ 1 / 100 := by
  rw [afterSweeps, sweepOrder_delayedGraph]
  refine Sweeps.stale_of_not_settlesBy sweepOrder_nodup h.delays (fun p => p ≤ 1 / 100) ?_ ?_
    le_rfl hv
  · intro u hu
    obtain ⟨e, he, -, rfl⟩ := h.edge u hu
    rw [evidencePosterior_delayedGraph (graph.target_mem (List.mem_of_getElem? he)), if_pos hu]
    norm_num
  · intro u hu posterior hposterior
    rw [h.beliefUpdate hu]
    calc
      round3 id (clampProbability id (posterior (parent u)))
          ≤ round3 id (clampProbability id (1 / 100)) :=
        roundDigits_mono 3 (clampProbability_mono hposterior)
      _ ≤ 1 / 100 := by decide +kernel

/-- Values under which a node that does not settle has not come to rest. -/
theorem exists_stale (hacyclic : Acyclic graph) (h : ¬ SettlesInThree graph observed) :
    ∃ graph' observed', SameShape graph graph' ∧ observed'.keys = observed.keys ∧
      ¬ AtRest id graph' observed' 3 := by
  obtain ⟨parent, chosen, hparents⟩ := exists_delayingParents graph observed
  refine ⟨delayedGraph graph observed chosen, slightly observed, sameShape_delayedGraph,
    keys_slightly, fun hrest => ?_⟩
  rw [SettlesInThree] at h
  push Not at h
  obtain ⟨v, hv, hunsettled⟩ := h
  obtain ⟨e, he, -, rfl⟩ := hparents.edge v hv
  have hsignal := hparents.signal hacyclic (atRest_iff_solves.mp hrest)
    (graph.target_mem (List.mem_of_getElem? he))
  have hstale := hparents.stale hunsettled
  rw [hsignal] at hstale
  norm_num at hstale

/-- Exactly where every node settles within three sweeps do the forecasts for the shape meet their
equations under all values. -/
theorem settlesInThree_iff (hacyclic : Acyclic graph) :
    SettlesInThree graph observed ↔ ∀ graph' observed', SameShape graph graph' →
      observed'.keys = observed.keys → ForecastMeetsEquations id graph' observed' := by
  constructor
  · intro hsettles graph' observed' hshape hkeys
    exact forecastMeetsEquations_iff.mpr (hshape.settles hkeys hsettles).atRest
  · intro hall
    by_contra hunsettled
    obtain ⟨graph', observed', hshape, hkeys, hnot⟩ := exists_stale hacyclic hunsettled
    exact hnot (forecastMeetsEquations_iff.mp (hall graph' observed' hshape hkeys))

end Stale

end ContinuityOS.Intelligence.BayesianCascadeForecaster
