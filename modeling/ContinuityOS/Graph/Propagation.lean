import ContinuityOS.Graph.Model
import ContinuityOS.Library.Loop
import ContinuityOS.Library.NoisyOr

/-! # The propagation loops

The engine has three work-queue loops with one inner body. They differ in the
order in which a popped node's edges are taken, in whether the popped node's
probability is read once or before every edge, and in the early exit of the
single-point search.
-/
namespace ContinuityOS.Graph
open Library

/-- A rise that is not larger than this is dropped. -/
def tolerance : ℚ := 1 / 1000000000

/-- The local variables of a propagation loop. -/
structure Propagation where
  probability : Dict String ℚ
  bestPath : Dict String (List String)
  queue : List String

namespace Propagation

/-- Probability of a node, zero when it is absent. -/
def prob (s : Propagation) (v : String) : ℚ := s.probability.getD v 0

/-- The node is a key of the probability dictionary. -/
def Impacted (s : Propagation) (v : String) : Prop := s.probability.get? v ≠ none

def raise (s : Propagation) (current target : String) (value : ℚ) : Propagation where
  probability := s.probability.set target value
  bestPath := s.bestPath.set target (s.bestPath.getD current [] ++ [target])
  queue := s.queue ++ [target]

/-- One outgoing edge of the popped node. -/
def relax (s : Propagation) (current : String) (propagated : ℚ) (edge : DependencyEdge) :
    Propagation :=
  let existing := s.probability.getD edge.target 0
  let combined := 1 - (1 - existing) * (1 - propagated)
  if combined > existing + tolerance then s.raise current edge.target (min 1 combined) else s

/-- The state before the first pass. -/
def start (failed : Finset String) : Propagation where
  probability := Dict.ofKeys (sortedSet failed) (nodup_sortedSet failed) (fun _ => 1)
  bestPath := Dict.ofKeys (sortedSet failed) (nodup_sortedSet failed) (fun v => [v])
  queue := sortedSet failed

def pending (s : Propagation) : Bool := !s.queue.isEmpty

end Propagation

/-- What distinguishes the loops: the edges of a popped node in the order they are taken, their
attenuation, and whether the node's probability is reread before every edge. -/
structure Discipline where
  edgesOf : String → List DependencyEdge
  attenuationOf : String → DependencyEdge → ℚ
  rereads : Bool

namespace Discipline
variable (d : Discipline)

/-- The popped node's probability as the inner loop sees it. -/
def reading (s s' : Propagation) (current : String) : ℚ :=
  if d.rereads then s'.prob current else s.prob current

def takeEdge (s : Propagation) (current : String) (s' : Propagation) (edge : DependencyEdge) :
    Propagation :=
  s'.relax current
    (d.reading s s' current * edge.dependencyStrength.val * d.attenuationOf current edge) edge

/-- One pass of the work queue. -/
def pop (s : Propagation) : Propagation :=
  match s.queue with
  | [] => s
  | current :: rest =>
    (d.edgesOf current).foldl (d.takeEdge s current) { s with queue := rest }

def run (fuel : ℕ) (failed : Finset String) : Propagation :=
  whileLoop Propagation.pending d.pop fuel (Propagation.start failed)

end Discipline

/-- The loop of `analyze`: edges sorted by target, probability read once per pop. -/
def analyzeLoop (g : DependencyGraph) (failed : Finset String) : Discipline where
  edgesOf u := sortedBy DependencyEdge.target (g.outgoing u)
  attenuationOf := attenuation g failed
  rereads := false

/-- The loop of `analyze_without_spof`: edges in list order, probability reread for each. -/
def withoutSpofLoop (g : DependencyGraph) (failed : Finset String) : Discipline where
  edgesOf := g.outgoing
  attenuationOf := attenuation g failed
  rereads := true

/-- The local variables of the single-point search for one candidate. -/
structure SpofSearch where
  probability : Dict String ℚ
  queue : List String
  foundSpof : Bool

namespace SpofSearch

def start (candidate : String) : SpofSearch where
  probability := Dict.empty.set candidate 1
  queue := [candidate]
  foundSpof := false

def pending (s : SpofSearch) : Bool := !s.queue.isEmpty && !s.foundSpof

/-- A critical impact ends the inner loop, so later edges leave the state alone. -/
def takeEdge (g : DependencyGraph) (candidate curr : String) (s : SpofSearch)
    (edge : DependencyEdge) : SpofSearch :=
  if s.foundSpof then s else
    let propagated := s.probability.getD curr 0 * edge.dependencyStrength.val *
      spofAttenuation g candidate curr edge
    let existing := s.probability.getD edge.target 0
    let combined := 1 - (1 - existing) * (1 - propagated)
    if combined > existing + tolerance then
      if edge.target ≠ candidate ∧ g.criticalityOf edge.target ≥ 8 / 10 ∧ min 1 combined ≥ 7 / 10 then
        { s with probability := s.probability.set edge.target (min 1 combined), foundSpof := true }
      else
        { s with
          probability := s.probability.set edge.target (min 1 combined)
          queue := s.queue ++ [edge.target] }
    else s

def pop (g : DependencyGraph) (candidate : String) (s : SpofSearch) : SpofSearch :=
  match s.queue with
  | [] => s
  | curr :: rest => (g.outgoing curr).foldl (takeEdge g candidate curr) { s with queue := rest }

def run (g : DependencyGraph) (fuel : ℕ) (candidate : String) : SpofSearch :=
  whileLoop pending (pop g candidate) fuel (start candidate)

end SpofSearch

end ContinuityOS.Graph
