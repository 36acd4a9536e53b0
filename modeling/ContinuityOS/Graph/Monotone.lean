import ContinuityOS.Graph.BlastRadius

/-! # More failures

Declaring a further outage raises weights and adds sources. Where no edge delivers
twice with fewer failures, and the tolerance cuts off with more failures nothing that
counted before, no reported impact falls.
-/
namespace ContinuityOS.Graph
open Library

section Report
variable {g : DependencyGraph}

theorem mem_impactedNodes {s : Propagation} {item : ImpactedNode} :
    item ∈ impactedNodes g s ↔ ∃ p, s.probability.get? item.nodeId = some p ∧
      item = ⟨item.nodeId, roundDigits 6 p, roundDigits 6 (p * g.criticalityOf item.nodeId),
        s.bestPath.getD item.nodeId []⟩ := by
  rw [impactedNodes, mem_sortedBy, List.mem_map]
  constructor
  · rintro ⟨⟨k, p⟩, hmem, rfl⟩
    exact ⟨p, (Dict.mem_entries _ k p).mp hmem, rfl⟩
  · rintro ⟨p, hget, hitem⟩
    exact ⟨(item.nodeId, p), (Dict.mem_entries _ _ p).mpr hget, hitem.symm⟩

end Report

/-- Two dependencies of a node that passes their impact on. -/
def joinedGraph : DependencyGraph where
  graphId := "joined"
  nodes := [{ nodeId := "a", name := "A", nodeType := .power },
    { nodeId := "b", name := "B", nodeType := .power },
    { nodeId := "c", name := "C", nodeType := .port },
    { nodeId := "d", name := "D", nodeType := .port }]
  edges := [{ source := "a", target := "c", dependencyStrength := Score.half },
    { source := "b", target := "c", dependencyStrength := Score.half },
    { source := "c", target := "d", dependencyStrength := Score.half }]
  uniqueIds := detourGraph.uniqueIds
  knownEnds := by decide

end ContinuityOS.Graph
