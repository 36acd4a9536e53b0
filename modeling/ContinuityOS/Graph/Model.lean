import Mathlib.Data.String.Basic
import ContinuityOS.Domain
import ContinuityOS.Library.Dict
import ContinuityOS.Library.Sorting

/-! # Dependency graphs

An edge points from a dependency to the system that depends on it. A graph
carries the two facts its validator checks: node ids are unique, and every
edge joins known nodes.
-/
namespace ContinuityOS.Graph
open Library

inductive NodeType where
  | corridor | port | airfield | vessel | icebreaker | fuel | power | inventory | satcom
  | terrestrialNetwork | identityProvider | cloudService | portOt | dataFeed | supplier | carrier
  | community | facility | railHub | pipeline | mineOrRefinery | manufacturingPlant
  | intermodalTerminal | customsBorder | strategicStockpile | subseaCable | permafrostCorridor
  | seabedSensor | microwaveRelay | satelliteUplink
deriving DecidableEq

def NodeType.value : NodeType → String
  | .corridor => "corridor"
  | .port => "port"
  | .airfield => "airfield"
  | .vessel => "vessel"
  | .icebreaker => "icebreaker"
  | .fuel => "fuel"
  | .power => "power"
  | .inventory => "inventory"
  | .satcom => "satcom"
  | .terrestrialNetwork => "terrestrial_network"
  | .identityProvider => "identity_provider"
  | .cloudService => "cloud_service"
  | .portOt => "port_ot"
  | .dataFeed => "data_feed"
  | .supplier => "supplier"
  | .carrier => "carrier"
  | .community => "community"
  | .facility => "facility"
  | .railHub => "rail_hub"
  | .pipeline => "pipeline"
  | .mineOrRefinery => "mine_or_refinery"
  | .manufacturingPlant => "manufacturing_plant"
  | .intermodalTerminal => "intermodal_terminal"
  | .customsBorder => "customs_border"
  | .strategicStockpile => "strategic_stockpile"
  | .subseaCable => "subsea_cable"
  | .permafrostCorridor => "permafrost_corridor"
  | .seabedSensor => "seabed_sensor"
  | .microwaveRelay => "microwave_relay"
  | .satelliteUplink => "satellite_uplink"

/-- A node attribute; a floating-point value is kept by its text. -/
inductive AttributeValue where
  | str (s : String)
  | int (n : ℤ)
  | bool (b : Bool)
  | float (text : String)
deriving DecidableEq

/-- The attribute converted to a string. -/
def AttributeValue.text : AttributeValue → String
  | .str s => s
  | .int n => toString n
  | .bool true => "True"
  | .bool false => "False"
  | .float text => text

structure DependencyNode where
  nodeId : String
  name : String
  nodeType : NodeType
  criticality : Score := Score.half
  providerId : Option String := none
  attributes : Dict String AttributeValue := Dict.empty
deriving DecidableEq

structure DependencyEdge where
  source : String
  target : String
  dependencyStrength : Score := Score.one
  substitutable : Bool := false
  substituteGroup : Option String := none
deriving DecidableEq

structure DependencyGraph where
  graphId : String
  nodes : List DependencyNode
  edges : List DependencyEdge
  uniqueIds : (nodes.map DependencyNode.nodeId).Nodup
  knownEnds : ∀ e ∈ edges, e.source ∈ nodes.map DependencyNode.nodeId ∧
    e.target ∈ nodes.map DependencyNode.nodeId

/-- The model validator: the graph, or the text of the first failed check. -/
def validateReferences (graphId : String) (nodes : List DependencyNode)
    (edges : List DependencyEdge) : Except String DependencyGraph :=
  if hu : (nodes.map DependencyNode.nodeId).Nodup then
    match hf : edges.find? (fun e => decide (e.source ∉ nodes.map DependencyNode.nodeId ∨
        e.target ∉ nodes.map DependencyNode.nodeId)) with
    | some e => .error ("edge references unknown node: " ++ e.source ++ "->" ++ e.target)
    | none => .ok ⟨graphId, nodes, edges, hu, fun e he => by
        have h := List.find?_eq_none.mp hf e he
        simpa [not_or] using h⟩
  else .error "node ids must be unique"

/-- The validator accepts exactly the descriptions that meet both conditions. -/
theorem validateReferences_ok_iff (graphId : String) (nodes : List DependencyNode)
    (edges : List DependencyEdge) :
    (∃ g, validateReferences graphId nodes edges = .ok g) ↔
      (nodes.map DependencyNode.nodeId).Nodup ∧
        ∀ e ∈ edges, e.source ∈ nodes.map DependencyNode.nodeId ∧
          e.target ∈ nodes.map DependencyNode.nodeId := by
  unfold validateReferences
  split_ifs with hu
  · split
    · rename_i e hf
      have hmem := List.mem_of_find?_eq_some hf
      have hbad := List.find?_some hf
      simp only [reduceCtorEq, exists_false, false_iff, not_and]
      intro _ hk
      have hok := hk e hmem
      simp only [decide_eq_true_eq] at hbad
      tauto
    · rename_i hf
      simp only [Except.ok.injEq, exists_eq', true_iff]
      refine ⟨hu, fun e he => ?_⟩
      have h := List.find?_eq_none.mp hf e he
      simpa [not_or] using h
  · simp [hu]

namespace DependencyGraph
variable (g : DependencyGraph)

def nodeIds : Finset String := (g.nodes.map DependencyNode.nodeId).toFinset

/-- The dictionary of nodes by id. -/
def nodeDict : Dict String DependencyNode where
  entries := g.nodes.map (fun n => (n.nodeId, n))
  nodup := by simpa [List.map_map, Function.comp_def] using g.uniqueIds

def criticalityOf (nodeId : String) : ℚ :=
  ((g.nodeDict.get? nodeId).map (fun n => n.criticality.val)).getD 0

/-- Outgoing edges of a node in list order. -/
def outgoing (nodeId : String) : List DependencyEdge := g.edges.filter (fun e => e.source = nodeId)

/-- Sources of the edges that name a substitute group. -/
def substituteMembers (group : String) : Finset String :=
  ((g.edges.filter (fun e => truthy e.substituteGroup && e.substituteGroup = some group)).map
    DependencyEdge.source).toFinset

theorem mem_nodeIds {v : String} : v ∈ g.nodeIds ↔ v ∈ g.nodes.map DependencyNode.nodeId :=
  List.mem_toFinset

theorem card_nodeIds : g.nodeIds.card = g.nodes.length := by
  rw [nodeIds, List.toFinset_card_of_nodup g.uniqueIds, List.length_map]

theorem mem_outgoing {u : String} {e : DependencyEdge} :
    e ∈ g.outgoing u ↔ e ∈ g.edges ∧ e.source = u := by simp [outgoing]

theorem target_mem {e : DependencyEdge} (he : e ∈ g.edges) : e.target ∈ g.nodeIds :=
  g.mem_nodeIds.mpr (g.knownEnds e he).2

theorem criticalityOf_nonneg (v : String) : 0 ≤ g.criticalityOf v := by
  unfold criticalityOf
  cases g.nodeDict.get? v with
  | none => simp
  | some n => simpa using n.criticality.nonneg

end DependencyGraph

/-- Some edge leads from the first node to the second. -/
def Joins (g : DependencyGraph) (u v : String) : Prop :=
  ∃ e ∈ g.edges, e.source = u ∧ e.target = v

instance (g : DependencyGraph) (u v : String) : Decidable (Joins g u v) :=
  inferInstanceAs (Decidable (∃ e ∈ g.edges, e.source = u ∧ e.target = v))

/-- No two edges join the same pair of nodes. -/
def NoParallel (g : DependencyGraph) : Prop :=
  g.edges.Pairwise fun e e' => ¬ (e.source = e'.source ∧ e.target = e'.target)

theorem NoParallel.outgoing {g : DependencyGraph} (hp : NoParallel g) (u : String) :
    (g.outgoing u).Pairwise fun e e' => e.target ≠ e'.target := by
  have hsub : (g.outgoing u).Sublist g.edges := List.filter_sublist
  have hpair := hp.sublist hsub
  refine hpair.imp_of_mem ?_
  intro e e' he he' hne htarget
  exact hne ⟨((g.mem_outgoing).mp he).2.trans ((g.mem_outgoing).mp he').2.symm, htarget⟩

/-- Attenuation of an edge, given the healthy members of each substitute group. -/
def attenuationWith (healthy : String → Finset String) (edge : DependencyEdge) : ℚ :=
  match edge.substituteGroup with
  | some group =>
    if edge.substitutable = true ∧ truthy (some group) = true ∧ (healthy group).Nonempty then 1 / 4
    else 1
  | none => 1

/-- Attenuation used by the propagation loops: the popped node and the failed nodes are no
alternative to themselves. -/
def attenuation (g : DependencyGraph) (failed : Finset String) (current : String) :
    DependencyEdge → ℚ :=
  attenuationWith (fun group => (g.substituteMembers group \ failed) \ {current})

/-- Attenuation used by the single-point search. -/
def spofAttenuation (g : DependencyGraph) (candidate curr : String) : DependencyEdge → ℚ :=
  attenuationWith (fun group => g.substituteMembers group \ {candidate, curr})

theorem attenuationWith_pos (healthy : String → Finset String) (e : DependencyEdge) :
    0 < attenuationWith healthy e := by
  unfold attenuationWith
  split
  · split_ifs <;> norm_num
  · norm_num

theorem attenuationWith_le_one (healthy : String → Finset String) (e : DependencyEdge) :
    attenuationWith healthy e ≤ 1 := by
  unfold attenuationWith
  split
  · split_ifs <;> norm_num
  · norm_num

/-- Fewer healthy alternatives never strengthen the attenuation. -/
theorem attenuationWith_anti {healthy healthy' : String → Finset String}
    (h : ∀ group, healthy' group ⊆ healthy group) (e : DependencyEdge) :
    attenuationWith healthy e ≤ attenuationWith healthy' e := by
  unfold attenuationWith
  split
  · rename_i group _
    split_ifs with h1 h2 h2
    · exact le_rfl
    · norm_num
    · exact absurd ⟨h2.1, h2.2.1, h2.2.2.mono (h group)⟩ h1
    · exact le_rfl
  · exact le_rfl

theorem spofAttenuation_eq (g : DependencyGraph) (candidate curr : String) :
    spofAttenuation g candidate curr = attenuation g {candidate} curr := by
  unfold spofAttenuation attenuation
  congr 1
  funext group
  ext v
  simp only [Finset.mem_sdiff, Finset.mem_insert, Finset.mem_singleton, not_or]
  tauto

end ContinuityOS.Graph
