import Mathlib.Data.Prod.Lex
import ContinuityOS.Graph.Propagation
import ContinuityOS.Library.Rounding

/-! # The dependency engine

The entry points of the engine over the propagation loops: the full assessment,
the propagation without single-point search, and the blast radius. Loop fuel is
the bound that the termination proof supplies.
-/
namespace ContinuityOS.Graph
open Library

structure ImpactedNode where
  nodeId : String
  impactProbability : ℚ
  weightedImpact : ℚ
  path : List String
deriving DecidableEq

structure GraphAssessment where
  graphId : String
  failedNodes : List String
  impactedNodes : List ImpactedNode
  totalWeightedImpact : ℚ
  providerConcentration : List (String × ℕ)
  singlePointsOfFailure : List String
deriving DecidableEq

/-- The `ValueError` of `analyze`, with the sorted ids its text lists. -/
inductive AnalyzeError where
  | unknownFailedNodes (unknown : List String)
deriving DecidableEq

/-- Passes that are enough for every loop started from `n` failed nodes. -/
def DependencyGraph.fuel (g : DependencyGraph) (n : ℕ) : ℕ := n + g.nodes.length * 1000000000

/-- Final state of the loop of `analyze`. -/
def analyzeState (g : DependencyGraph) (failed : Finset String) : Propagation :=
  (analyzeLoop g failed).run (g.fuel failed.card) failed

/-- Final state of the loop of `analyze_without_spof`. -/
def withoutSpofState (g : DependencyGraph) (failed : Finset String) : Propagation :=
  (withoutSpofLoop g failed).run (g.fuel failed.card) failed

def providerCounts (nodes : List DependencyNode) : Dict String ℕ :=
  nodes.foldl (fun counts node =>
    match node.providerId with
    | some provider =>
      if truthy (some provider) then counts.set provider (counts.getD provider 0 + 1) else counts
    | none => counts) Dict.empty

def impactedNodes (g : DependencyGraph) (s : Propagation) : List ImpactedNode :=
  sortedBy (fun item => toLex (-item.weightedImpact, item.nodeId))
    (s.probability.entries.map (fun b =>
      { nodeId := b.1
        impactProbability := roundDigits 6 b.2
        weightedImpact := roundDigits 6 (b.2 * g.criticalityOf b.1)
        path := s.bestPath.getD b.1 [] }))

def singlePointsFast (g : DependencyGraph) : List String :=
  ((sortedSet g.nodeIds).filter (fun id => !(g.outgoing id).isEmpty)).filter
    (fun candidate => (SpofSearch.run g (g.fuel 1) candidate).foundSpof)

def assessment (g : DependencyGraph) (failed : Finset String) (calculateSpof : Bool) :
    GraphAssessment where
  graphId := g.graphId
  failedNodes := sortedSet failed
  impactedNodes := impactedNodes g (analyzeState g failed)
  totalWeightedImpact :=
    roundDigits 6 ((impactedNodes g (analyzeState g failed)).map ImpactedNode.weightedImpact).sum
  providerConcentration := sortedBy Prod.fst (providerCounts g.nodes).entries
  singlePointsOfFailure := if calculateSpof then singlePointsFast g else []

def analyze (g : DependencyGraph) (failed : Finset String) (calculateSpof : Bool := true) :
    Except AnalyzeError GraphAssessment :=
  if failed \ g.nodeIds = ∅ then .ok (assessment g failed calculateSpof)
  else .error (.unknownFailedNodes (sortedSet (failed \ g.nodeIds)))

def analyzeWithoutSpof (g : DependencyGraph) (failed : Finset String) : List ImpactedNode :=
  (withoutSpofState g failed).probability.entries.map (fun b =>
    { nodeId := b.1
      impactProbability := b.2
      weightedImpact := b.2 * g.criticalityOf b.1
      path := (withoutSpofState g failed).bestPath.getD b.1 [] })

def calculateBlastRadius (g : DependencyGraph) (failed : Finset String) : Dict String ℚ :=
  (analyzeWithoutSpof g failed).foldl
    (fun radius node => radius.set node.nodeId node.impactProbability) Dict.empty

end ContinuityOS.Graph
