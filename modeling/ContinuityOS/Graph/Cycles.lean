import ContinuityOS.Graph.Model

/-! # Cycle detection

A depth-first search colours nodes: gray while their call is running, black afterwards. The gray
nodes are linked by the parents stored for them, so an edge back to a gray node closes a walk
that the search records. Where nothing is recorded, every black node is at the end of its edges.
-/
namespace ContinuityOS.Graph
open Library

inductive Color where
  | white
  | gray
  | black
deriving DecidableEq

/-- The variables of the search. -/
structure CycleSearch where
  color : Dict String Color
  parent : Dict String (Option String)
  cycles : List (List String)

namespace CycleSearch

def start (g : DependencyGraph) : CycleSearch where
  color := Dict.ofKeys (g.nodes.map DependencyNode.nodeId) g.uniqueIds (fun _ => .white)
  parent := Dict.ofKeys (g.nodes.map DependencyNode.nodeId) g.uniqueIds (fun _ => none)
  cycles := []

variable (s : CycleSearch)

def colorOf (v : String) : Color := s.color.getD v .white

def parentOf (v : String) : Option String := s.parent.getD v none

def paint (v : String) (color : Color) : CycleSearch := { s with color := s.color.set v color }

def adopt (v parent : String) : CycleSearch := { s with parent := s.parent.set v (some parent) }

def report (cycle : List String) : CycleSearch := { s with cycles := s.cycles ++ [cycle] }

/-- The nodes from `current` up to `neighbor`, added to the cycle. -/
def climb (neighbor : String) : ℕ → String → List String → List String
  | 0, _, cycle => cycle
  | fuel + 1, current, cycle =>
    if current = neighbor then cycle
    else match s.parentOf current with
      | none => cycle ++ [current]
      | some p => climb neighbor fuel p (cycle ++ [current])

/-- The walk that an edge back to a gray node closes. -/
def closeCycle (fuel : ℕ) (node neighbor : String) : List String :=
  (s.climb neighbor fuel node [neighbor] ++ [neighbor]).reverse

end CycleSearch

def neighbors (g : DependencyGraph) (node : String) : List String :=
  sortedBy id ((g.outgoing node).map DependencyEdge.target)

def visit (recurse : String → CycleSearch → CycleSearch) (fuel : ℕ) (node : String)
    (s : CycleSearch) (neighbor : String) : CycleSearch :=
  match s.colorOf neighbor with
  | .gray => s.report (s.closeCycle fuel node neighbor)
  | .white => recurse neighbor (s.adopt neighbor node)
  | .black => s

/-- The calls below a node, at most `fuel` deep. -/
def dfs (g : DependencyGraph) : ℕ → String → CycleSearch → CycleSearch
  | 0, _, s => s
  | fuel + 1, node, s =>
    ((neighbors g node).foldl (visit (dfs g fuel) g.nodes.length node) (s.paint node .gray)).paint
      node .black

def detectCyclesWithin (fuel : ℕ) (g : DependencyGraph) : List (List String) :=
  ((sortedSet g.nodeIds).foldl
    (fun s node => if s.colorOf node = .white then dfs g fuel node s else s)
    (CycleSearch.start g)).cycles

/-- Calls are never deeper than there are nodes. -/
def detectCycles (g : DependencyGraph) : List (List String) := detectCyclesWithin g.nodes.length g

example : detectCycles
    { graphId := "g"
      nodes := [{ nodeId := "A", name := "A", nodeType := .facility },
        { nodeId := "B", name := "B", nodeType := .facility },
        { nodeId := "C", name := "C", nodeType := .facility }]
      edges := [{ source := "A", target := "B" }, { source := "B", target := "C" },
        { source := "C", target := "A" }, { source := "C", target := "C" }]
      uniqueIds := by decide
      knownEnds := by decide } = [["A", "B", "C", "A"], ["C", "C"]] := by decide

section Walks
variable {g : DependencyGraph}

/-- A walk along edges that ends where it starts and meets no other node twice. -/
structure ClosedWalk (g : DependencyGraph) (walk : List String) : Prop where
  long : 2 ≤ walk.length
  closed : walk.head? = walk.getLast?
  joined : walk.IsChain (Joins g)
  distinct : walk.dropLast.Nodup

/-- Some node is reached again from itself. -/
def Cyclic (g : DependencyGraph) : Prop := ∃ v, Relation.TransGen (Joins g) v v

theorem ClosedWalk.cyclic {walk : List String} (h : ClosedWalk g walk) : Cyclic g := by
  obtain ⟨hlong, hclosed, hjoined, -⟩ := h
  match walk with
  | [] => cases hlong
  | [v] => exact absurd hlong (by simp)
  | v :: next :: rest =>
    rw [List.isChain_cons_cons] at hjoined
    have hlast : (next :: rest).getLast (List.cons_ne_nil _ _) = v := by
      rw [List.head?_cons, List.getLast?_cons_cons, List.getLast?_eq_some_getLast
        (List.cons_ne_nil _ _), Option.some.injEq] at hclosed
      exact hclosed.symm
    exact ⟨v, .head' hjoined.1 (List.relationReflTransGen_of_exists_isChain_cons rest hjoined.2 hlast)⟩

/-- All walks from the node come to an end. -/
def Ends (g : DependencyGraph) (v : String) : Prop := Acc (fun next node => Joins g node next) v

theorem Ends.not_transGen {v : String} (h : Ends g v) : ¬ Relation.TransGen (Joins g) v v := by
  induction h with
  | intro _ _ ih =>
    intro hcycle
    obtain ⟨next, hnext, hback⟩ := Relation.TransGen.head'_iff.mp hcycle
    exact ih next hnext (.tail' hback hnext)

theorem mem_neighbors {node v : String} : v ∈ neighbors g node ↔ Joins g node v := by
  rw [neighbors, mem_sortedBy, List.mem_map]
  simp only [g.mem_outgoing, Joins, and_assoc]

theorem Joins.known {u v : String} (h : Joins g u v) : u ∈ g.nodeIds ∧ v ∈ g.nodeIds := by
  obtain ⟨e, he, rfl, rfl⟩ := h
  exact ⟨g.mem_nodeIds.mpr (g.knownEnds e he).1, g.target_mem he⟩

end Walks

namespace CycleSearch

section Frame
variable (s : CycleSearch) (node : String) (color : Color)

theorem colorOf_paint (v : String) :
    (s.paint node color).colorOf v = if node = v then color else s.colorOf v :=
  Dict.getD_set _ _ _ _ _

@[simp] theorem colorOf_paint_self : (s.paint node color).colorOf node = color := by
  rw [colorOf_paint, if_pos rfl]

theorem colorOf_paint_ne {v : String} (h : v ≠ node) :
    (s.paint node color).colorOf v = s.colorOf v := by
  rw [colorOf_paint, if_neg h.symm]

theorem parentOf_adopt (v above : String) :
    (s.adopt node above).parentOf v = if node = v then some above else s.parentOf v :=
  Dict.getD_set _ _ _ _ _

theorem colorOf_start (g : DependencyGraph) (v : String) : (start g).colorOf v = .white := by
  rw [colorOf, start, Dict.getD, Dict.get?_ofKeys]
  split_ifs <;> rfl

/-- The nodes that are still white. -/
def whites (g : DependencyGraph) (s : CycleSearch) : Finset String :=
  g.nodeIds.filter fun v => s.colorOf v = .white

end Frame

/-- Nodes that are no longer white keep their colour, and recorded cycles stay. -/
structure Extends (s s' : CycleSearch) : Prop where
  kept : ∀ v, s.colorOf v ≠ .white → s'.colorOf v = s.colorOf v
  cycles : s.cycles <+: s'.cycles

namespace Extends
variable {g : DependencyGraph} {s s' s'' : CycleSearch}

theorem refl (s : CycleSearch) : Extends s s := ⟨fun _ _ => rfl, List.prefix_rfl⟩

theorem trans (h : Extends s s') (h' : Extends s' s'') : Extends s s'' where
  kept v hv := by
    have hsame := h.kept v hv
    rw [h'.kept v (hsame ▸ hv), hsame]
  cycles := h.cycles.trans h'.cycles

theorem whites_subset (h : Extends s s') : whites g s' ⊆ whites g s := by
  intro v hv
  obtain ⟨hnode, hwhite⟩ := Finset.mem_filter.mp hv
  refine Finset.mem_filter.mpr ⟨hnode, ?_⟩
  by_contra hcolor
  exact hcolor ((h.kept v hcolor).symm.trans hwhite)

theorem cycles_eq_nil (h : Extends s s') (hnil : s'.cycles = []) : s.cycles = [] :=
  List.prefix_nil.mp (hnil ▸ h.cycles)

end Extends

end CycleSearch

section Extend
open CycleSearch
variable {g : DependencyGraph}

theorem extends_paint {s : CycleSearch} {node : String} (hwhite : s.colorOf node = .white)
    (color : Color) : Extends s (s.paint node color) where
  kept _ hv := colorOf_paint_ne s node color fun heq => hv (heq ▸ hwhite)
  cycles := List.prefix_rfl

theorem visit_extends {recurse : String → CycleSearch → CycleSearch}
    (h : ∀ node s, s.colorOf node = .white → Extends s (recurse node s)) (fuel : ℕ)
    (node : String) (s : CycleSearch) (neighbor : String) :
    Extends s (visit recurse fuel node s neighbor) := by
  rw [visit]
  split
  · exact ⟨fun _ _ => rfl, List.prefix_append _ _⟩
  · rename_i hwhite
    have hrest := h neighbor (s.adopt neighbor node) hwhite
    exact ⟨hrest.kept, hrest.cycles⟩
  · exact Extends.refl s

theorem foldl_extends {step : CycleSearch → String → CycleSearch}
    (h : ∀ s v, Extends s (step s v)) (l : List String) (s : CycleSearch) :
    Extends s (l.foldl step s) := by
  induction l generalizing s with
  | nil => exact Extends.refl s
  | cons v l ih => exact (h s v).trans (ih _)

theorem dfs_extends (fuel : ℕ) (node : String) (s : CycleSearch) (hwhite : s.colorOf node = .white) :
    Extends s (dfs g fuel node s) := by
  induction fuel generalizing node s with
  | zero => exact Extends.refl s
  | succ fuel ih =>
    have hfold := foldl_extends (visit_extends ih g.nodes.length node) (neighbors g node)
      (s.paint node .gray)
    have hrest := (extends_paint hwhite .gray).trans hfold
    refine ⟨fun v hv => ?_, hrest.cycles⟩
    have hne : v ≠ node := fun heq => hv (heq ▸ hwhite)
    rw [dfs, colorOf_paint_ne _ _ _ hne]
    exact hrest.kept v hv

theorem whites_paint {s : CycleSearch} {node : String} (hnode : node ∈ g.nodeIds)
    (hwhite : s.colorOf node = .white) :
    (whites g (s.paint node .gray)).card < (whites g s).card := by
  refine Finset.card_lt_card (Finset.ssubset_iff_subset_ne.mpr
    ⟨(extends_paint hwhite .gray).whites_subset, fun heq => ?_⟩)
  have hmem : node ∈ whites g s := Finset.mem_filter.mpr ⟨hnode, hwhite⟩
  rw [← heq] at hmem
  have hcolor := (Finset.mem_filter.mp hmem).2
  rw [colorOf_paint_self] at hcolor
  cases hcolor

end Extend

section Fuel
open CycleSearch
variable {g : DependencyGraph}

theorem foldl_step_congr {step step' : CycleSearch → String → CycleSearch} {n : ℕ}
    (hextends : ∀ s v, Extends s (step s v)) {l : List String}
    (h : ∀ s, (whites g s).card ≤ n → ∀ v ∈ l, step s v = step' s v) {s : CycleSearch}
    (hs : (whites g s).card ≤ n) : l.foldl step s = l.foldl step' s := by
  induction l generalizing s with
  | nil => rfl
  | cons v l ih =>
    have hnext : (whites g (step s v)).card ≤ n :=
      (Finset.card_le_card (hextends s v).whites_subset).trans hs
    rw [List.foldl_cons, List.foldl_cons, ← h s hs v List.mem_cons_self]
    exact ih (fun s hs v hv => h s hs v (List.mem_cons_of_mem _ hv)) hnext

/-- Calls may be as deep as there are white nodes; a greater bound changes nothing. -/
theorem dfs_fuel {fuel : ℕ} {node : String} {s : CycleSearch} (hnode : node ∈ g.nodeIds)
    (hwhite : s.colorOf node = .white) (hfuel : (whites g s).card ≤ fuel) :
    dfs g (fuel + 1) node s = dfs g fuel node s := by
  induction fuel generalizing node s with
  | zero =>
    have hmem : node ∈ whites g s := Finset.mem_filter.mpr ⟨hnode, hwhite⟩
    exact absurd (Finset.card_pos.mpr ⟨node, hmem⟩) (by omega)
  | succ fuel ih =>
    have hless := whites_paint hnode hwhite
    have hsteps : ∀ s', (whites g s').card ≤ fuel → ∀ v ∈ neighbors g node,
        visit (dfs g (fuel + 1)) g.nodes.length node s' v =
          visit (dfs g fuel) g.nodes.length node s' v := by
      intro s' hs' v hv
      rw [visit, visit]
      split
      · rfl
      · rename_i hv'
        exact ih (mem_neighbors.mp hv).known.2 hv' hs'
      · rfl
    rw [dfs, dfs, foldl_step_congr (visit_extends (dfs_extends (fuel + 1)) g.nodes.length node)
      hsteps (by omega)]

theorem dfs_stable {fuel fuel' : ℕ} {node : String} {s : CycleSearch} (hnode : node ∈ g.nodeIds)
    (hwhite : s.colorOf node = .white) (hfuel : (whites g s).card ≤ fuel) (hle : fuel ≤ fuel') :
    dfs g fuel' node s = dfs g fuel node s := by
  induction fuel', hle using Nat.le_induction with
  | base => rfl
  | succ fuel' hle ih => rw [dfs_fuel hnode hwhite (hfuel.trans hle), ih]

theorem whites_le (s : CycleSearch) : (whites g s).card ≤ g.nodes.length :=
  (Finset.card_filter_le _ _).trans g.card_nodeIds.le

theorem start_extends (fuel : ℕ) (s : CycleSearch) (node : String) :
    Extends s (if s.colorOf node = .white then dfs g fuel node s else s) := by
  split_ifs with hwhite
  · exact dfs_extends fuel node s hwhite
  · exact Extends.refl s

/-- The recursion ends by itself: allowing deeper calls changes nothing. -/
theorem detectCyclesWithin_eq {fuel : ℕ} (h : g.nodes.length ≤ fuel) :
    detectCyclesWithin fuel g = detectCycles g := by
  rw [detectCyclesWithin, detectCycles, detectCyclesWithin]
  have hstart : (whites g (CycleSearch.start g)).card ≤ g.nodes.length := whites_le _
  refine congrArg CycleSearch.cycles
    (foldl_step_congr (start_extends fuel) (fun s hs node hnode => ?_) hstart)
  split_ifs with hwhite
  · exact dfs_stable ((mem_sortedSet _ _).mp hnode) hwhite hs h
  · rfl

end Fuel

section Climb
open CycleSearch
variable {g : DependencyGraph} {s : CycleSearch}

/-- The child's stored parent, along an edge. -/
def Linked (g : DependencyGraph) (s : CycleSearch) (child above : String) : Prop :=
  s.parentOf child = some above ∧ Joins g above child

/-- The walk up the parents reaches the node that the edge leads back to. -/
theorem climb_eq {front rest : List String} {neighbor current : String} {fuel : ℕ}
    (hlinked : (front ++ neighbor :: rest).IsChain (Linked g s)) (hnot : neighbor ∉ front)
    (hcurrent : (front ++ neighbor :: rest).head? = some current) (hfuel : front.length ≤ fuel)
    (cycle : List String) : s.climb neighbor fuel current cycle = cycle ++ front := by
  induction front generalizing current fuel cycle with
  | nil =>
    rw [List.nil_append, List.head?_cons, Option.some.injEq] at hcurrent
    rw [List.append_nil]
    cases fuel with
    | zero => rfl
    | succ fuel => rw [climb, if_pos hcurrent.symm]
  | cons v front ih =>
    rw [List.cons_append, List.head?_cons, Option.some.injEq] at hcurrent
    rw [List.mem_cons, not_or] at hnot
    rw [List.cons_append, List.isChain_cons] at hlinked
    obtain ⟨fuel, rfl⟩ : ∃ k, fuel = k + 1 :=
      Nat.exists_eq_succ_of_ne_zero (by rw [List.length_cons] at hfuel; omega)
    obtain ⟨above, habove⟩ : ∃ above, (front ++ neighbor :: rest).head? = some above := by
      cases front with
      | nil => exact ⟨neighbor, rfl⟩
      | cons w front => exact ⟨w, rfl⟩
    have hparent := (hlinked.1 above habove).1
    rw [← hcurrent, climb, if_neg (fun heq => hnot.1 heq.symm), hparent]
    have hrest := ih hlinked.2 hnot.2 habove (Nat.le_of_succ_le_succ hfuel) (cycle ++ [v])
    rw [List.append_assoc, List.singleton_append] at hrest
    exact hrest

/-- An edge back to a linked node closes a walk. -/
theorem closedWalk_closeCycle {chain : List String} {node neighbor : String} {fuel : ℕ}
    (hlinked : (node :: chain).IsChain (Linked g s)) (hnodup : (node :: chain).Nodup)
    (hfuel : (node :: chain).length ≤ fuel) (hjoins : Joins g node neighbor)
    (hmem : neighbor ∈ node :: chain) : ClosedWalk g (s.closeCycle fuel node neighbor) := by
  obtain ⟨front, rest, hsplit⟩ := List.append_of_mem hmem
  rw [hsplit] at hlinked hnodup hfuel
  have hnot : neighbor ∉ front := by
    intro hfront
    exact (List.nodup_append.mp hnodup).2.2 neighbor hfront neighbor List.mem_cons_self rfl
  have hhead : (front ++ neighbor :: rest).head? = some node := by rw [← hsplit]; rfl
  have henough : front.length ≤ fuel := by
    rw [List.length_append] at hfuel
    omega
  have hclimb := climb_eq hlinked hnot hhead henough [neighbor]
  have hback : (front ++ [neighbor]).IsChain (Linked g s) := by
    rw [← List.singleton_append, ← List.append_assoc] at hlinked
    exact hlinked.left_of_append
  have hwalk : s.closeCycle fuel node neighbor = (front ++ [neighbor]).reverse ++ [neighbor] := by
    rw [closeCycle, hclimb]
    simp
  have hfirst : (front ++ [neighbor]).head? = some node := by
    cases front with
    | nil => exact hhead
    | cons w front => exact hhead
  rw [hwalk]
  refine ⟨by simp, ?_, ?_, ?_⟩
  · rw [List.getLast?_concat, List.reverse_concat]
    rfl
  · refine List.isChain_append.mpr ⟨?_, List.isChain_singleton _, ?_⟩
    · exact List.isChain_reverse.mpr (hback.imp fun _ _ h => h.2)
    · intro u hu v hv
      rw [List.getLast?_reverse, hfirst, Option.mem_some_iff] at hu
      rw [List.head?_cons, Option.mem_some_iff] at hv
      rw [← hu, ← hv]
      exact hjoins
  · rw [List.dropLast_concat, List.nodup_reverse]
    rw [← List.singleton_append, ← List.append_assoc] at hnodup
    exact hnodup.of_append_left

end Climb

section Invariant
open CycleSearch
variable {g : DependencyGraph}

/-- The gray nodes are the running calls, each linked to the one above. Where no cycle is
recorded, every walk from a black node ends. -/
structure CycleSearch.Invariant (g : DependencyGraph) (chain : List String) (s : CycleSearch) :
    Prop where
  gray : ∀ v, s.colorOf v = .gray ↔ v ∈ chain
  known : ∀ v ∈ chain, v ∈ g.nodeIds
  nodup : chain.Nodup
  linked : chain.IsChain (Linked g s)
  closed : ∀ walk ∈ s.cycles, ClosedWalk g walk
  settled : s.cycles = [] → ∀ v, s.colorOf v = .black → Ends g v

variable {chain : List String} {s : CycleSearch} {node : String}

theorem CycleSearch.Invariant.enter (h : s.Invariant g chain) (hnode : node ∈ g.nodeIds)
    (hwhite : s.colorOf node = .white) (habove : ∀ above ∈ chain.head?, Linked g s node above) :
    (s.paint node .gray).Invariant g (node :: chain) where
  gray v := by
    rw [colorOf_paint, List.mem_cons, ← h.gray v]
    split_ifs with heq
    · exact iff_of_true rfl (Or.inl heq.symm)
    · exact (or_iff_right (Ne.symm heq)).symm
  known := List.forall_mem_cons.mpr ⟨hnode, h.known⟩
  nodup := by
    refine List.nodup_cons.mpr ⟨fun hmem => ?_, h.nodup⟩
    rw [← h.gray, hwhite] at hmem
    cases hmem
  linked := List.isChain_cons.mpr ⟨habove, h.linked⟩
  closed := h.closed
  settled hnil v hv := by
    rw [colorOf_paint] at hv
    split_ifs at hv
    exact h.settled hnil v hv

theorem CycleSearch.Invariant.leave (h : s.Invariant g (node :: chain))
    (hdone : s.cycles = [] → ∀ v, Joins g node v → s.colorOf v = .black) :
    (s.paint node .black).Invariant g chain where
  gray v := by
    have hnot := (List.nodup_cons.mp h.nodup).1
    rw [colorOf_paint]
    split_ifs with heq
    · rw [← heq]
      exact iff_of_false id hnot
    · rw [h.gray v, List.mem_cons]
      exact or_iff_right (Ne.symm heq)
  known := (List.forall_mem_cons.mp h.known).2
  nodup := (List.nodup_cons.mp h.nodup).2
  linked := (List.isChain_cons.mp h.linked).2
  closed := h.closed
  settled hnil v hv := by
    rw [colorOf_paint] at hv
    split_ifs at hv with heq
    · rw [← heq]
      exact Acc.intro node fun next hnext => h.settled hnil next (hdone hnil next hnext)
    · exact h.settled hnil v hv

theorem CycleSearch.Invariant.adopt (h : s.Invariant g (node :: chain)) {neighbor : String}
    (hwhite : s.colorOf neighbor = .white) : (s.adopt neighbor node).Invariant g (node :: chain) where
  gray := h.gray
  known := h.known
  nodup := h.nodup
  linked := by
    refine h.linked.imp_of_mem_imp fun child above hchild _ hlink => ⟨?_, hlink.2⟩
    have hne : neighbor ≠ child := by
      intro heq
      rw [← h.gray, ← heq, hwhite] at hchild
      cases hchild
    rw [parentOf_adopt, if_neg hne, hlink.1]
  closed := h.closed
  settled := h.settled

theorem CycleSearch.Invariant.report (h : s.Invariant g (node :: chain)) {neighbor : String}
    (hjoins : Joins g node neighbor) (hgray : s.colorOf neighbor = .gray) :
    (s.report (s.closeCycle g.nodes.length node neighbor)).Invariant g (node :: chain) where
  gray := h.gray
  known := h.known
  nodup := h.nodup
  linked := h.linked
  closed walk hwalk := by
    rcases List.mem_append.mp hwalk with hold | hnew
    · exact h.closed walk hold
    · have hlength : (node :: chain).length ≤ g.nodes.length := by
        have hsubset : (node :: chain).toFinset ⊆ g.nodeIds := fun v hv =>
          h.known v (List.mem_toFinset.mp hv)
        have hcard := Finset.card_le_card hsubset
        rwa [List.toFinset_card_of_nodup h.nodup, g.card_nodeIds] at hcard
      rw [List.mem_singleton.mp hnew]
      exact closedWalk_closeCycle h.linked h.nodup hlength hjoins ((h.gray neighbor).mp hgray)
  settled hnil := absurd hnil (List.append_ne_nil_of_right_ne_nil _ (List.cons_ne_nil _ _))

theorem invariant_start (g : DependencyGraph) : (CycleSearch.start g).Invariant g [] where
  gray v := by simp [colorOf_start]
  known := by simp
  nodup := List.nodup_nil
  linked := List.isChain_nil
  closed := by simp [CycleSearch.start]
  settled _ v hv := by
    rw [colorOf_start] at hv
    cases hv

/-- What a call with a large enough bound does to a white node under the running calls. -/
def Explores (g : DependencyGraph) (recurse : String → CycleSearch → CycleSearch) (fuel : ℕ) :
    Prop :=
  ∀ ⦃chain s node⦄, s.Invariant g chain → node ∈ g.nodeIds → s.colorOf node = .white →
    (∀ above ∈ chain.head?, Linked g s node above) → (whites g s).card ≤ fuel →
    (recurse node s).Invariant g chain ∧ (recurse node s).colorOf node = .black

theorem visit_invariant {recurse : String → CycleSearch → CycleSearch} {fuel : ℕ}
    (hrecurse : Explores g recurse fuel) (h : s.Invariant g (node :: chain)) {neighbor : String}
    (hjoins : Joins g node neighbor) (hfuel : (whites g s).card ≤ fuel) :
    (visit recurse g.nodes.length node s neighbor).Invariant g (node :: chain) ∧
      ((visit recurse g.nodes.length node s neighbor).cycles = [] →
        (visit recurse g.nodes.length node s neighbor).colorOf neighbor = .black) := by
  rw [visit]
  split
  · rename_i hgray
    have hreport := h.report hjoins hgray
    exact ⟨hreport, fun hnil =>
      absurd hnil (List.append_ne_nil_of_right_ne_nil _ (List.cons_ne_nil _ _))⟩
  · rename_i hwhite
    have hlink : ∀ above ∈ (node :: chain).head?, Linked g (s.adopt neighbor node) neighbor above := by
      intro above habove
      rw [List.head?_cons, Option.mem_some_iff] at habove
      rw [← habove]
      exact ⟨by rw [parentOf_adopt, if_pos rfl], hjoins⟩
    have hcall := hrecurse (h.adopt hwhite) hjoins.known.2 hwhite hlink hfuel
    exact ⟨hcall.1, fun _ => hcall.2⟩
  · rename_i hblack
    exact ⟨h, fun _ => hblack⟩

theorem foldl_invariant {step : CycleSearch → String → CycleSearch} {n : ℕ}
    (hextends : ∀ s v, Extends s (step s v)) {l : List String}
    (hstep : ∀ s, s.Invariant g chain → (whites g s).card ≤ n → ∀ v ∈ l,
      (step s v).Invariant g chain ∧ ((step s v).cycles = [] → (step s v).colorOf v = .black))
    (h : s.Invariant g chain) (hs : (whites g s).card ≤ n) :
    (l.foldl step s).Invariant g chain ∧
      ((l.foldl step s).cycles = [] → ∀ v ∈ l, (l.foldl step s).colorOf v = .black) := by
  induction l generalizing s with
  | nil => exact ⟨h, fun _ _ hv => absurd hv List.not_mem_nil⟩
  | cons v l ih =>
    obtain ⟨hnext, hblack⟩ := hstep s h hs v List.mem_cons_self
    have hless : (whites g (step s v)).card ≤ n :=
      (Finset.card_le_card (hextends s v).whites_subset).trans hs
    obtain ⟨hrest, hrestBlack⟩ :=
      ih (fun s hs hn w hw => hstep s hs hn w (List.mem_cons_of_mem _ hw)) hnext hless
    refine ⟨hrest, fun hnil => List.forall_mem_cons.mpr ⟨?_, hrestBlack hnil⟩⟩
    have hlater := foldl_extends hextends l (step s v)
    -- what is black after its own step stays black
    have hv := hblack (hlater.cycles_eq_nil hnil)
    rw [List.foldl_cons, hlater.kept v (by rw [hv]; decide), hv]

theorem dfs_explores (g : DependencyGraph) (fuel : ℕ) : Explores g (dfs g fuel) fuel := by
  induction fuel with
  | zero =>
    intro chain s node _ hnode hwhite _ hfuel
    have hmem : node ∈ whites g s := Finset.mem_filter.mpr ⟨hnode, hwhite⟩
    exact absurd (Finset.card_pos.mpr ⟨node, hmem⟩) (by omega)
  | succ fuel ih =>
    intro chain s node h hnode hwhite habove hfuel
    have hless := whites_paint hnode hwhite
    obtain ⟨hdone, hblack⟩ := foldl_invariant
      (visit_extends (dfs_extends fuel) g.nodes.length node)
      (fun s hs hn v hv => visit_invariant ih hs (mem_neighbors.mp hv) hn)
      (h.enter hnode hwhite habove) (by omega : (whites g (s.paint node .gray)).card ≤ fuel)
    refine ⟨hdone.leave fun hnil v hv => ?_, colorOf_paint_self _ _ _⟩
    exact hblack hnil v (mem_neighbors.mpr hv)

/-- The search records closed walks only, and records one wherever the graph has a cycle. -/
theorem detectCycles_spec (g : DependencyGraph) :
    (∀ fuel, g.nodes.length ≤ fuel → detectCyclesWithin fuel g = detectCycles g) ∧
    (∀ walk ∈ detectCycles g, ClosedWalk g walk) ∧
    (detectCycles g ≠ [] ↔ Cyclic g) := by
  have hstep : ∀ s, s.Invariant g [] → (whites g s).card ≤ g.nodes.length →
      ∀ v ∈ sortedSet g.nodeIds,
      (if s.colorOf v = .white then dfs g g.nodes.length v s else s).Invariant g [] ∧
        ((if s.colorOf v = .white then dfs g g.nodes.length v s else s).cycles = [] →
          (if s.colorOf v = .white then dfs g g.nodes.length v s else s).colorOf v = .black) := by
    intro s hs hn v hv
    split_ifs with hwhite
    · have hcall := dfs_explores g g.nodes.length hs ((mem_sortedSet _ _).mp hv) hwhite (by simp) hn
      exact ⟨hcall.1, fun _ => hcall.2⟩
    · refine ⟨hs, fun _ => ?_⟩
      have hgray : s.colorOf v ≠ .gray := fun heq => List.not_mem_nil ((hs.gray v).mp heq)
      cases hcolor : s.colorOf v with
      | white => exact absurd hcolor hwhite
      | gray => exact absurd hcolor hgray
      | black => rfl
  obtain ⟨hdone, hblack⟩ := foldl_invariant (start_extends g.nodes.length) hstep
    (invariant_start g) (whites_le _)
  refine ⟨fun fuel hfuel => detectCyclesWithin_eq hfuel, hdone.closed, fun hne => ?_, ?_⟩
  · obtain ⟨walk, hwalk⟩ := List.exists_mem_of_ne_nil _ hne
    exact (hdone.closed walk hwalk).cyclic
  · rintro ⟨v, hcycle⟩ hnil
    obtain ⟨next, hnext, -⟩ := Relation.TransGen.head'_iff.mp hcycle
    have hv := hblack hnil v ((mem_sortedSet _ _).mpr hnext.known.1)
    exact (hdone.settled hnil v hv).not_transGen hcycle

end Invariant

end ContinuityOS.Graph
