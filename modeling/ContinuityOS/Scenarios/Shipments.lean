import ContinuityOS.Connectors.Synthesis
import ContinuityOS.Graph.SinglePoints
import ContinuityOS.Scenarios.Simulation

/-! # Scenarios on the graphs of shipments

The edges of a synthesized graph have full strength and its nodes middling criticality and no
provider. A closed stop therefore takes down every stop that shipments reach from it, for certain,
and no policy violation is ever seen.
-/
namespace ContinuityOS.Scenarios
open Library ContinuityOS.Graph ContinuityOS.Connectors

def stopsOf (shipments : List ShipmentRecord) : List ShipmentStop :=
  shipments.flatMap ShipmentRecord.stops

section Synthesized
variable {lower : String → String}

/-- The identifiers of the facilities that shipments stop at. -/
def facilities (lower : String → String) (shipments : List ShipmentRecord) : Finset String :=
  ((stopsOf shipments).map (nodeIdOf lower)).toFinset

/-- Some shipment goes from a stop of the first facility to one of the second at once. -/
def Follows (lower : String → String) (shipments : List ShipmentRecord) (u v : String) : Prop :=
  ∃ shipment ∈ shipments, ∃ leg ∈ legs shipment.stops,
    nodeIdOf lower leg.1 = u ∧ nodeIdOf lower leg.2 = v

/-- The nodes so far are those of the stops so far. -/
structure Visited (lower : String → String) (s : Synthesis) (stops : List ShipmentStop) : Prop where
  entries : ∀ b ∈ s.nodes.entries, ∃ stop ∈ stops, b = (nodeIdOf lower stop, stopNode lower stop)
  keys : ∀ stop ∈ stops, nodeIdOf lower stop ∈ s.nodes.keys

theorem addStop_visited {s : Synthesis} {stops : List ShipmentStop} (h : Visited lower s stops)
    (stop : ShipmentStop) : Visited lower (addStop lower s stop) (stops ++ [stop]) := by
  constructor
  · rintro ⟨k, node⟩ hb
    rw [Dict.mem_entries, addStop, Dict.get?_setDefault, Option.or_eq_some_iff] at hb
    rcases hb with hold | ⟨-, hnew⟩
    · obtain ⟨other, hother, heq⟩ := h.entries _ ((Dict.mem_entries _ _ _).mpr hold)
      exact ⟨other, List.mem_append_left _ hother, heq⟩
    · split_ifs at hnew with hk
      cases hnew
      exact ⟨stop, by simp, by rw [hk]⟩
  · intro other hother
    rw [Dict.mem_keys, addStop, Dict.get?_setDefault]
    rcases List.mem_append.mp hother with hold | hnew
    · have hkey := (Dict.mem_keys _ _).mp (h.keys other hold)
      simp [Option.or_eq_none_iff, hkey]
    · simp [List.mem_singleton.mp hnew]

theorem foldl_addStop_visited {s : Synthesis} {visited : List ShipmentStop}
    (h : Visited lower s visited) (stops : List ShipmentStop) :
    Visited lower (stops.foldl (addStop lower) s) (visited ++ stops) := by
  induction stops generalizing s visited with
  | nil => rwa [List.append_nil]
  | cons stop stops ih => simpa using ih (addStop_visited h stop)

theorem foldl_addShipment_visited {s : Synthesis} {visited : List ShipmentStop}
    (h : Visited lower s visited) (shipments : List ShipmentRecord) :
    Visited lower (shipments.foldl (addShipment lower) s) (visited ++ stopsOf shipments) := by
  induction shipments generalizing s visited with
  | nil => rwa [stopsOf, List.flatMap_nil, List.append_nil]
  | cons shipment shipments ih =>
    have hone : Visited lower (addShipment lower s shipment) (visited ++ shipment.stops) := by
      unfold addShipment
      split_ifs with hstops
      · rwa [hstops, List.append_nil]
      · have hfirst : Visited lower { s with prevStop := none } visited := ⟨h.entries, h.keys⟩
        exact foldl_addStop_visited hfirst shipment.stops
    rw [List.foldl_cons, stopsOf, List.flatMap_cons, ← List.append_assoc]
    exact ih hone

theorem foldl_addShipment_edges (shipments : List ShipmentRecord) (s : Synthesis) :
    (shipments.foldl (addShipment lower) s).edges = s.edges ++
      (shipments.flatMap fun shipment => legs shipment.stops).map
        fun leg => stopEdge lower leg.1 leg.2 := by
  induction shipments generalizing s with
  | nil => simp
  | cons shipment shipments ih =>
    have hone : (addShipment lower s shipment).edges =
        s.edges ++ (legs shipment.stops).map fun leg => stopEdge lower leg.1 leg.2 := by
      unfold addShipment
      split_ifs with hstops
      · simp [hstops, legs]
      · rw [foldl_addStop_edges]
        rfl
    rw [List.foldl_cons, ih, hone, List.flatMap_cons, List.map_append, List.append_assoc]

theorem validateReferences_nodes {graphId : String} {nodes : List DependencyNode}
    {edges : List DependencyEdge} {g : DependencyGraph}
    (h : validateReferences graphId nodes edges = .ok g) : g.nodes = nodes := by
  unfold validateReferences at h
  split_ifs at h
  split at h
  · cases h
  · cases h
    rfl

/-- The graph of the shipments has a node for each facility and an edge for each leg. -/
theorem synthesize_parts (shipments : List ShipmentRecord) (networkId : String) :
    ∃ g, synthesizeDependencyGraph lower shipments networkId = .ok g ∧
      (∀ node ∈ g.nodes, ∃ stop ∈ stopsOf shipments, node = stopNode lower stop) ∧
      (∀ stop ∈ stopsOf shipments, nodeIdOf lower stop ∈ g.nodeIds) ∧
      ∀ e, e ∈ g.edges ↔ ∃ shipment ∈ shipments, ∃ leg ∈ legs shipment.stops,
        stopEdge lower leg.1 leg.2 = e := by
  obtain ⟨g, hg, hedges⟩ := @synthesizeDependencyGraph_ok lower shipments networkId
  have hempty : Visited lower {} [] :=
    ⟨fun _ h => absurd h List.not_mem_nil, fun _ h => absurd h List.not_mem_nil⟩
  have hvisited := foldl_addShipment_visited hempty shipments
  have hnodes := validateReferences_nodes hg
  rw [List.nil_append] at hvisited
  refine ⟨g, hg, fun node hmem => ?_, fun stop hstop => ?_, fun e => ?_⟩
  · rw [hnodes] at hmem
    obtain ⟨b, hb, rfl⟩ := List.mem_map.mp hmem
    obtain ⟨stop, hstop, rfl⟩ := hvisited.entries b hb
    exact ⟨stop, hstop, rfl⟩
  · obtain ⟨b, hb, hkey⟩ := List.mem_map.mp (hvisited.keys stop hstop)
    obtain ⟨other, -, rfl⟩ := hvisited.entries b hb
    rw [g.mem_nodeIds, hnodes, List.map_map]
    exact List.mem_map.mpr ⟨_, hb, hkey⟩
  · rw [hedges, foldl_addShipment_edges, List.nil_append, List.mem_map]
    simp only [List.mem_flatMap]
    constructor
    · rintro ⟨leg, ⟨shipment, hshipment, hleg⟩, rfl⟩
      exact ⟨shipment, hshipment, leg, hleg, rfl⟩
    · rintro ⟨shipment, hshipment, leg, hleg, rfl⟩
      exact ⟨leg, ⟨shipment, hshipment, hleg⟩, rfl⟩

/-- What every synthesized graph has in common. -/
structure Plain (lower : String → String) (shipments : List ShipmentRecord)
    (g : DependencyGraph) : Prop where
  nodeIds : g.nodeIds = facilities lower shipments
  joins : ∀ u v, Joins g u v ↔ Follows lower shipments u v
  passesAll : PassesAll g
  nodes : ∀ node ∈ g.nodes, node.criticality = Score.half ∧ node.providerId = none

theorem synthesize_plain (shipments : List ShipmentRecord) (networkId : String) :
    ∃ g, synthesizeDependencyGraph lower shipments networkId = .ok g ∧
      Plain lower shipments g := by
  obtain ⟨g, hg, hnode, hstop, hedge⟩ := @synthesize_parts lower shipments networkId
  refine ⟨g, hg, ?_, fun u v => ?_, ?_, fun node hmem => ?_⟩
  · ext v
    rw [facilities, List.mem_toFinset]
    constructor
    · intro hv
      obtain ⟨node, hmem, rfl⟩ := List.mem_map.mp (g.mem_nodeIds.mp hv)
      obtain ⟨stop, hvisit, rfl⟩ := hnode node hmem
      exact List.mem_map_of_mem hvisit
    · intro hv
      obtain ⟨stop, hmem, rfl⟩ := List.mem_map.mp hv
      exact hstop stop hmem
  · constructor
    · rintro ⟨e, he, rfl, rfl⟩
      obtain ⟨shipment, hshipment, leg, hleg, rfl⟩ := (hedge e).mp he
      exact ⟨shipment, hshipment, leg, hleg, rfl, rfl⟩
    · rintro ⟨shipment, hshipment, leg, hleg, rfl, rfl⟩
      exact ⟨_, (hedge _).mpr ⟨shipment, hshipment, leg, hleg, rfl⟩, rfl, rfl⟩
  · refine passesAll_of_strength (fun e he => ?_) fun e he => ?_
    · obtain ⟨_, _, _, _, rfl⟩ := (hedge e).mp he
      rfl
    · obtain ⟨_, _, _, _, rfl⟩ := (hedge e).mp he
      rfl
  · obtain ⟨stop, -, rfl⟩ := hnode node hmem
    exact ⟨rfl, rfl⟩

namespace Plain
variable {shipments : List ShipmentRecord} {g : DependencyGraph}

/-- No node is critical enough for a single point of failure. -/
theorem singlePointsFast_eq (h : Plain lower shipments g) : singlePointsFast g = [] := by
  have hlow (v : String) : g.criticalityOf v ≤ 1 / 2 := by
    rw [DependencyGraph.criticalityOf]
    cases hget : g.nodeDict.get? v with
    | none => norm_num
    | some node =>
      have hmem := (Dict.mem_entries _ _ _).mpr hget
      obtain ⟨other, hother, heq⟩ := List.mem_map.mp hmem
      have hnode : node = other := (congrArg Prod.snd heq).symm
      rw [Option.map_some, Option.getD_some, hnode, (h.nodes other hother).1]
      norm_num [Score.half]
  refine List.eq_nil_iff_forall_not_mem.mpr fun candidate hmem => ?_
  have hfound := (List.mem_filter.mp hmem).2
  obtain ⟨v, -, hcritical, -⟩ := (foundSpof_iff g candidate).mp hfound
  linarith [hlow v]

theorem providerCount_eq (h : Plain lower shipments g) (provider : String) :
    providerCount g.nodes provider = 0 := by
  rw [providerCount, List.length_eq_zero_iff, List.filter_eq_nil_iff]
  intro node hmem
  simp [(h.nodes node hmem).2]

theorem noViolations (h : Plain lower shipments g) (repr : String → String)
    (failed : Finset String) :
    ((assessed g failed).map (violationsOf repr)).getD [] = [] := by
  have hnone : ¬ 0 < (((assessed g failed).map (violationsOf repr)).getD []).length := by
    rw [assessed_violations, h.singlePointsFast_eq]
    rintro ⟨-, hpoints | ⟨provider, -, hmany⟩⟩
    · exact hpoints rfl
    · rw [h.providerCount_eq] at hmany
      omega
  exact List.length_eq_zero_iff.mp (Nat.le_zero.mp (not_lt.mp hnone))

/-- A stop is impacted when shipments lead to it from a failed one. -/
theorem impacted_iff (h : Plain lower shipments g) (failed : Finset String) (v : String) :
    (analyzeState g failed).Impacted v ↔
      ∃ f ∈ failed, Relation.ReflTransGen (Follows lower shipments) f v := by
  have hsame : Joins g = Follows lower shipments := funext₂ fun u v => propext (h.joins u v)
  rw [impacted_iff_downstream h.passesAll, Downstream, hsame]

theorem impactProbability_eq (h : Plain lower shipments g) {failed : Finset String}
    {facility : AffectedFacility}
    (hmem : facility ∈ affectedBy failed (assessment g failed true)) :
    facility.impactProbability = 1 := by
  obtain ⟨impact, himpact, -, rfl⟩ := mem_affectedBy.mp hmem
  obtain ⟨p, hget, hitem⟩ := mem_impactedNodes.mp himpact
  have hone := analyzeState_certain h.passesAll failed impact.nodeId
    (Option.ne_none_iff_exists'.mpr ⟨p, hget⟩)
  rw [Propagation.prob_of_get? _ hget] at hone
  rw [affectedFacility, hitem, hone, roundDigits_one]

end Plain

end Synthesized

theorem tenth_lt_share_iff {count total : ℕ} (h : count ≤ total) :
    1 / 10 < (count : ℚ) / total ↔ total < 10 * count := by
  rcases Nat.eq_zero_or_pos total with rfl | hpos
  · have hzero : count = 0 := Nat.le_zero.mp h
    simp [hzero]
  · have hcast : (0 : ℚ) < total := by exact_mod_cast hpos
    rw [div_lt_div_iff₀ (by norm_num) hcast, one_mul, mul_comm]
    exact_mod_cast Iff.rfl

/-- A closure takes down for certain exactly what shipments go on to from a closed stop, and only
the share of facilities lost decides whether recovery is required. -/
theorem simulate_shipments (repr lower : String → String) (shipments : List ShipmentRecord)
    (networkId : String) (scenario : Scenario) :
    ∃ g result, synthesizeDependencyGraph lower shipments networkId = .ok g ∧
      simulateScenario repr scenario g = .ok result ∧
      (∀ v, v ∈ result.failedNodes ↔ v ∈ facilities lower shipments ∧
        ∃ event ∈ scenario.events, event.target = v ∧ isClosed event.state = true) ∧
      (∀ v, v ∈ result.affectedFacilities.map AffectedFacility.nodeId ↔ v ∉ result.failedNodes ∧
        ∃ f ∈ result.failedNodes, Relation.ReflTransGen (Follows lower shipments) f v) ∧
      (∀ facility ∈ result.affectedFacilities, facility.impactProbability = 1) ∧
      result.policyViolations = [] ∧
      (result.recoveryRequired = true ↔ (facilities lower shipments).card <
        10 * (result.failedNodes.length + result.affectedFacilities.length)) := by
  obtain ⟨g, hg, hplain⟩ := @synthesize_plain lower shipments networkId
  refine ⟨g, _, hg, simulateScenario_ok repr scenario g, ?_⟩
  set failed := (applyEvents g scenario.events).1 with hfailed
  have hcount : failed.card + (affectedBy failed (assessment g failed true)).length ≤
      g.nodes.length := (count_affected g failed).trans_le (count_le (applyEvents_subset _))
  have hloss := capacityLoss_eq hcount
  simp only [resultOf, assessed_affected, mem_sortedSet, length_sortedSet, ← hfailed, hloss,
    hplain.noViolations, Bool.or_eq_true, decide_eq_true_eq, List.length_nil, lt_irrefl, or_false]
  refine ⟨fun v => ?_, fun v => ?_, fun facility hmem => hplain.impactProbability_eq hmem, trivial,
    ?_⟩
  · rw [hfailed, mem_applyEvents, Closed, hplain.nodeIds]
  · rw [mem_affected_ids, hplain.impacted_iff]
  · rw [← hplain.nodeIds, g.card_nodeIds, tenth_lt_share_iff hcount]

end ContinuityOS.Scenarios
