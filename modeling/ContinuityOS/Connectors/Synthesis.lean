import ContinuityOS.Connectors.Edi
import ContinuityOS.Graph.Model

/-! # Graphs of shipments

Each stop of a shipment becomes a node, and each stop is joined to the one before it in the list
of stops. The description always meets the checks of a dependency graph.
-/
namespace ContinuityOS.Connectors
open Library ContinuityOS.Graph

/-- The nodes and edges of the stops so far, and the stop before. -/
structure Synthesis where
  nodes : Dict String DependencyNode := Dict.empty
  edges : List DependencyEdge := []
  prevStop : Option ShipmentStop := none

section Synthesizer
variable (lower : String → String)

/-- The node of a stop. Lower case is a parameter. -/
def nodeIdOf (stop : ShipmentStop) : String :=
  "node:" ++ String.ofList ((lower stop.facilityId).toList.map fun c => if c = ' ' then '-' else c)

def nodeTypeOf (stop : ShipmentStop) : NodeType :=
  if "PLANT".toList <:+: stop.facilityId.toList ∨ "DEPOT".toList <:+: stop.facilityId.toList then
    .facility
  else .intermodalTerminal

def stopNode (stop : ShipmentStop) : DependencyNode where
  nodeId := nodeIdOf lower stop
  name := stop.facilityName
  nodeType := nodeTypeOf stop
  criticality := Score.half
  attributes := Dict.ofBindings [("city", .str stop.city), ("country", .str stop.country),
    ("modal_type", .str stop.modalType)]

/-- The edge between consecutive stops. -/
def stopEdge (prev stop : ShipmentStop) : DependencyEdge where
  source := nodeIdOf lower prev
  target := nodeIdOf lower stop
  dependencyStrength := Score.one

def addStop (s : Synthesis) (stop : ShipmentStop) : Synthesis where
  nodes := s.nodes.setDefault (nodeIdOf lower stop) (stopNode lower stop)
  edges := match s.prevStop with
    | none => s.edges
    | some prev => s.edges ++ [stopEdge lower prev stop]
  prevStop := some stop

/-- The stops of one shipment, the first one without a stop before. -/
def addShipment (s : Synthesis) (shipment : ShipmentRecord) : Synthesis :=
  if shipment.stops = [] then s
  else shipment.stops.foldl (addStop lower) { s with prevStop := none }

def synthesizeDependencyGraph (shipments : List ShipmentRecord)
    (networkId : String := "synthesized-logistics-network") : Except String DependencyGraph :=
  let s := shipments.foldl (addShipment lower) {}
  validateReferences networkId (s.nodes.entries.map Prod.snd) s.edges

/-- Nodes stand under their ids, and edges and the stop before refer to known nodes. -/
structure Synthesis.Known (s : Synthesis) : Prop where
  ids : ∀ b ∈ s.nodes.entries, b.2.nodeId = b.1
  ends : ∀ e ∈ s.edges, e.source ∈ s.nodes.keys ∧ e.target ∈ s.nodes.keys
  prev : ∀ stop, s.prevStop = some stop → nodeIdOf lower stop ∈ s.nodes.keys

variable {lower}

theorem known_empty : Synthesis.Known lower {} :=
  ⟨fun _ h => absurd h List.not_mem_nil, fun _ h => absurd h List.not_mem_nil, fun _ h => by cases h⟩

theorem addStop_known {s : Synthesis} (h : s.Known lower) (stop : ShipmentStop) :
    (addStop lower s stop).Known lower := by
  have hkeys : ∀ k, k ∈ (addStop lower s stop).nodes.keys ↔
      k ∈ s.nodes.keys ∨ nodeIdOf lower stop = k := by
    intro k
    rw [Dict.mem_keys, Dict.mem_keys, addStop, Dict.get?_setDefault]
    by_cases hk : nodeIdOf lower stop = k <;> simp [hk]
  constructor
  · rintro ⟨k, node⟩ hb
    rw [Dict.mem_entries, addStop, Dict.get?_setDefault, Option.or_eq_some_iff] at hb
    rcases hb with hold | ⟨-, hnew⟩
    · exact h.ids _ ((Dict.mem_entries _ _ _).mpr hold)
    · split_ifs at hnew with hk
      cases hnew
      exact hk
  · intro e he
    have hold : e ∈ s.edges → e.source ∈ (addStop lower s stop).nodes.keys ∧
        e.target ∈ (addStop lower s stop).nodes.keys := fun he =>
      ⟨(hkeys _).mpr (Or.inl (h.ends e he).1), (hkeys _).mpr (Or.inl (h.ends e he).2)⟩
    cases hprev : s.prevStop with
    | none =>
      rw [addStop, hprev] at he
      exact hold he
    | some prev =>
      rw [addStop, hprev] at he
      rcases List.mem_append.mp he with he | he
      · exact hold he
      · rw [List.mem_singleton.mp he]
        exact ⟨(hkeys _).mpr (Or.inl (h.prev prev hprev)), (hkeys _).mpr (Or.inr rfl)⟩
  · intro other hother
    cases hother
    exact (hkeys _).mpr (Or.inr rfl)

theorem foldl_addStop_known {s : Synthesis} (h : s.Known lower) (stops : List ShipmentStop) :
    (stops.foldl (addStop lower) s).Known lower := by
  induction stops generalizing s with
  | nil => exact h
  | cons stop stops ih => exact ih (addStop_known h stop)

theorem addShipment_known {s : Synthesis} (h : s.Known lower) (shipment : ShipmentRecord) :
    (addShipment lower s shipment).Known lower := by
  unfold addShipment
  split_ifs with hstops
  · exact h
  · have hfirst : Synthesis.Known lower { s with prevStop := none } :=
      ⟨h.ids, h.ends, fun _ hnone => by cases hnone⟩
    exact foldl_addStop_known hfirst shipment.stops

theorem foldl_addShipment_known {s : Synthesis} (h : s.Known lower)
    (shipments : List ShipmentRecord) : (shipments.foldl (addShipment lower) s).Known lower := by
  induction shipments generalizing s with
  | nil => exact h
  | cons shipment shipments ih => exact ih (addShipment_known h shipment)

/-- A description that the validator accepts is the graph's. -/
theorem validateReferences_edges {graphId : String} {nodes : List DependencyNode}
    {edges : List DependencyEdge} {g : DependencyGraph}
    (h : validateReferences graphId nodes edges = .ok g) : g.edges = edges := by
  unfold validateReferences at h
  split_ifs at h
  split at h
  · cases h
  · cases h
    rfl

/-- Every list of shipments has a graph, with the edges of its stops. -/
theorem synthesizeDependencyGraph_ok (shipments : List ShipmentRecord) (networkId : String) :
    ∃ g, synthesizeDependencyGraph lower shipments networkId = .ok g ∧
      g.edges = (shipments.foldl (addShipment lower) {}).edges := by
  have hknown : (shipments.foldl (addShipment lower) {}).Known lower :=
    foldl_addShipment_known known_empty shipments
  set s := shipments.foldl (addShipment lower) {} with hs
  have hids : (s.nodes.entries.map Prod.snd).map DependencyNode.nodeId = s.nodes.keys := by
    rw [List.map_map]
    exact List.map_congr_left hknown.ids
  obtain ⟨g, hg⟩ := (validateReferences_ok_iff networkId (s.nodes.entries.map Prod.snd)
    s.edges).mpr ⟨hids ▸ s.nodes.keys_nodup, fun e he => hids ▸ hknown.ends e he⟩
  exact ⟨g, hg, validateReferences_edges hg⟩

/-- Consecutive stops. -/
def legs (stops : List ShipmentStop) : List (ShipmentStop × ShipmentStop) := stops.zip stops.tail

theorem foldl_addStop_edges (stops : List ShipmentStop) (s : Synthesis) :
    (stops.foldl (addStop lower) s).edges =
      s.edges ++ (legs (s.prevStop.toList ++ stops)).map fun leg => stopEdge lower leg.1 leg.2 := by
  induction stops generalizing s with
  | nil => cases s.prevStop <;> simp [legs]
  | cons stop stops ih =>
    rw [List.foldl_cons, ih]
    cases hprev : s.prevStop <;> simp [addStop, hprev, legs]

/-- The edges of one shipment join its consecutive stops. -/
theorem addShipment_edges (shipment : ShipmentRecord) :
    (addShipment lower {} shipment).edges =
      (legs shipment.stops).map fun leg => stopEdge lower leg.1 leg.2 := by
  unfold addShipment
  split_ifs with hstops
  · rw [hstops]
    rfl
  · rw [foldl_addStop_edges]
    rfl

end Synthesizer

end ContinuityOS.Connectors
