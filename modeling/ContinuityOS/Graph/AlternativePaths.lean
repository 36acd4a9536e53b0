import ContinuityOS.Graph.Model
import ContinuityOS.Library.Loop

/-! # Alternative paths

Paths are found with a stack of branches, each with its own set of visited nodes. Every
alternative path is either found or the continuation of exactly one branch on the stack; at
the end the stack is empty and the paths found are the alternative paths.
-/
namespace ContinuityOS.Graph
open Library

/-- A path that is still extended. -/
structure Branch where
  current : String
  path : List String
  visited : Finset String

/-- The local variables of the search; the branch to be taken next is the first one. -/
structure PathSearch where
  paths : List (List String)
  stack : List Branch

namespace Branch
variable (failed : Finset String) (b : Branch)

def follow (e : DependencyEdge) : Branch where
  current := e.target
  path := b.path ++ [e.target]
  visited := insert e.target b.visited

def push (stack : List Branch) (e : DependencyEdge) : List Branch :=
  if e.target ∉ b.visited ∧ e.target ∉ failed then b.follow e :: stack else stack

end Branch

namespace PathSearch

def start (source : String) : PathSearch := ⟨[], [⟨source, [source], {source}⟩]⟩

def pending (s : PathSearch) : Bool := !s.stack.isEmpty

def pass (g : DependencyGraph) (target : String) (failed : Finset String) (s : PathSearch) :
    PathSearch :=
  match s.stack with
  | [] => s
  | b :: rest =>
    if b.current = target then ⟨s.paths ++ [b.path], rest⟩
    else ⟨s.paths, (g.outgoing b.current).foldl (b.push failed) rest⟩

theorem pass_cons (g : DependencyGraph) (target : String) (failed : Finset String)
    (paths : List (List String)) (b : Branch) (rest : List Branch) :
    pass g target failed ⟨paths, b :: rest⟩ =
      if b.current = target then ⟨paths ++ [b.path], rest⟩
      else ⟨paths, (g.outgoing b.current).foldl (b.push failed) rest⟩ := rfl

end PathSearch

/-- Passes that are enough for the search. -/
def DependencyGraph.pathFuel (g : DependencyGraph) : ℕ := (g.edges.length + 1) ^ g.nodes.length

def PathSearch.run (g : DependencyGraph) (source target : String) (failed : Finset String) :
    PathSearch :=
  whileLoop pending (pass g target failed) g.pathFuel (start source)

def findAlternativePaths (g : DependencyGraph) (source target : String) (failed : Finset String) :
    List (List String) :=
  sortedBy List.length (PathSearch.run g source target failed).paths

section Paths
variable (g : DependencyGraph)

/-- A simple path between two nodes whose later nodes have not failed. -/
structure Alternative (source target : String) (failed : Finset String) (path : List String) :
    Prop where
  starts : path.head? = some source
  ends : path.getLast? = some target
  joined : path.IsChain (Joins g)
  simple : path.Nodup
  healthy : ∀ v ∈ path.tail, v ∉ failed

variable {g} {source target : String} {failed : Finset String} {path q : List String}

theorem Alternative.singleton (g : DependencyGraph) (source : String) (failed : Finset String) :
    Alternative g source source failed [source] :=
  ⟨rfl, rfl, List.isChain_singleton _, List.nodup_singleton _, List.forall_mem_nil _⟩

theorem Alternative.source_prefix (h : Alternative g source target failed path) :
    [source] <+: path := by
  cases path with
  | nil => cases h.starts
  | cons v rest =>
    rw [Option.some.inj h.starts]
    exact ⟨rest, rfl⟩

/-- A path is at its end when it first meets the target. -/
theorem Alternative.eq_of_prefix (h : Alternative g source target failed path) (hq : q <+: path)
    (hends : q.getLast? = some target) : path = q := by
  obtain ⟨rest, rfl⟩ := hq
  cases rest using List.reverseRecOn with
  | nil => rw [List.append_nil]
  | append_singleton rest v =>
    have hlast := h.ends
    rw [← List.append_assoc, List.getLast?_concat, Option.some.injEq] at hlast
    have hmem : target ∈ q := List.mem_of_getLast? hends
    have hdisjoint := (List.nodup_append.mp h.simple).2.2 target hmem v (by simp)
    exact absurd hlast.symm hdisjoint

/-- Before the target a path goes on along an edge to a new healthy node. -/
theorem Alternative.next (h : Alternative g source target failed path) (hq : q <+: path)
    {u : String} (hends : q.getLast? = some u) (hne : u ≠ target) :
    ∃ v, q ++ [v] <+: path ∧ Joins g u v ∧ v ∉ q ∧ v ∉ failed := by
  obtain ⟨rest, rfl⟩ := hq
  cases rest with
  | nil =>
    have hlast := h.ends
    rw [List.append_nil, hends, Option.some.injEq] at hlast
    exact absurd hlast hne
  | cons v rest =>
    refine ⟨v, ⟨rest, by rw [List.append_assoc, List.singleton_append]⟩, ?_, ?_, ?_⟩
    · exact (List.isChain_append.mp h.joined).2.2 u hends v rfl
    · intro hmem
      exact (List.nodup_append.mp h.simple).2.2 v hmem v List.mem_cons_self rfl
    · apply h.healthy
      cases q with
      | nil => cases hends
      | cons a q => exact List.mem_append_right q List.mem_cons_self

end Paths

section Invariant
variable {g : DependencyGraph} {source target : String} {failed : Finset String}

/-- The branch is a simple path from the source, away from the target until its last node. -/
structure Branch.Valid (g : DependencyGraph) (source : String) (failed : Finset String)
    (b : Branch) : Prop where
  path : Alternative g source b.current failed b.path
  visited : b.visited = b.path.toFinset

theorem Branch.Valid.follow {b : Branch} (h : b.Valid g source failed) {e : DependencyEdge}
    (he : e ∈ g.outgoing b.current) (hnew : e.target ∉ b.visited ∧ e.target ∉ failed) :
    (b.follow e).Valid g source failed := by
  obtain ⟨hedge, hsource⟩ := g.mem_outgoing.mp he
  have hmem : e.target ∉ b.path := by
    rw [h.visited, List.mem_toFinset] at hnew
    exact hnew.1
  refine ⟨⟨?_, ?_, ?_, ?_, ?_⟩, ?_⟩
  · rw [Branch.follow, List.head?_append, h.path.starts]
    rfl
  · exact List.getLast?_concat ..
  · refine List.isChain_append.mpr ⟨h.path.joined, List.isChain_singleton _, ?_⟩
    intro u hu v hv
    rw [h.path.ends, Option.mem_some_iff] at hu
    rw [List.head?_cons, Option.mem_some_iff] at hv
    exact ⟨e, hedge, hsource.trans hu, hv⟩
  · exact List.Nodup.append h.path.simple (List.nodup_singleton _)
      (List.disjoint_singleton.mpr hmem)
  · have hpath : b.path ≠ [] := by
      intro hnil
      have hstarts := h.path.starts
      rw [hnil] at hstarts
      cases hstarts
    rw [Branch.follow, List.tail_append_of_ne_nil hpath, List.forall_mem_append,
      List.forall_mem_singleton]
    exact ⟨h.path.healthy, hnew.2⟩
  · rw [Branch.follow, h.visited, List.toFinset_append]
    ext v
    simp

theorem Branch.foldl_push (b : Branch) (l : List DependencyEdge) (stack : List Branch) :
    l.foldl (b.push failed) stack =
      ((l.filter fun e => e.target ∉ b.visited ∧ e.target ∉ failed).map b.follow).reverse ++ stack := by
  induction l generalizing stack with
  | nil => rfl
  | cons e l ih =>
    rw [List.foldl_cons, ih, Branch.push]
    by_cases hnew : e.target ∉ b.visited ∧ e.target ∉ failed
    · rw [if_pos hnew, List.filter_cons_of_pos (by simpa using hnew), List.map_cons,
        List.reverse_cons, List.append_assoc, List.singleton_append]
    · rw [if_neg hnew, List.filter_cons_of_neg (by simpa using hnew)]

/-- The edges that lead towards a path are those with its next node as their target. -/
theorem Branch.follow_prefix_iff {b : Branch} {v : String} {path : List String}
    (hnext : b.path ++ [v] <+: path) (e : DependencyEdge) :
    (b.follow e).path <+: path ↔ e.target = v := by
  constructor
  · intro hfollow
    have hsame := List.IsPrefix.eq_of_length
      (List.prefix_of_prefix_length_le hfollow hnext (by simp [Branch.follow]))
      (by simp [Branch.follow])
    simpa [Branch.follow] using hsame
  · rintro rfl
    exact hnext

/-- Exactly one edge continues a branch towards a path that it is the beginning of. -/
theorem Branch.Valid.countP_follow {b : Branch} (h : b.Valid g source failed)
    (hparallel : NoParallel g) (hne : b.current ≠ target) {path : List String}
    (hpath : Alternative g source target failed path) :
    ((g.outgoing b.current).filter fun e => e.target ∉ b.visited ∧ e.target ∉ failed).countP
        (fun e => (b.follow e).path <+: path) = if b.path <+: path then 1 else 0 := by
  split_ifs with hprefix
  · obtain ⟨v, hnext, ⟨e, hedge, hsource, htarget⟩, hnew, hhealthy⟩ :=
      hpath.next hprefix h.path.ends hne
    have hvisited : v ∉ b.visited := by
      rwa [h.visited, List.mem_toFinset]
    have hnodup : ((g.outgoing b.current).map DependencyEdge.target).Nodup :=
      List.pairwise_map.mpr (NoParallel.outgoing hparallel _)
    have hmem : v ∈ (g.outgoing b.current).map DependencyEdge.target :=
      List.mem_map.mpr ⟨e, g.mem_outgoing.mpr ⟨hedge, hsource⟩, htarget⟩
    have hone := List.count_eq_one_of_mem hnodup hmem
    rw [List.count, List.countP_map] at hone
    rw [List.countP_filter, ← hone]
    apply List.countP_congr
    intro e' _
    simp only [Branch.follow_prefix_iff hnext, Function.comp_apply, Bool.and_eq_true, decide_eq_true_eq, beq_iff_eq]
    constructor
    · exact fun hboth => hboth.1
    · rintro rfl
      exact ⟨rfl, hvisited, hhealthy⟩
  · rw [List.countP_eq_zero]
    intro e _ hfollow
    have hlonger : (b.follow e).path <+: path := of_decide_eq_true hfollow
    exact hprefix ((List.prefix_append b.path [e.target]).trans hlonger)

/-- The branches on the stack are valid, and every alternative path is either found once or the
continuation of one branch. -/
structure PathSearch.Invariant (g : DependencyGraph) (source target : String)
    (failed : Finset String) (s : PathSearch) : Prop where
  valid : ∀ b ∈ s.stack, b.Valid g source failed
  found : ∀ path ∈ s.paths, Alternative g source target failed path
  once : ∀ path, Alternative g source target failed path →
    s.paths.count path + s.stack.countP (fun b => b.path <+: path) = 1

theorem PathSearch.start_invariant :
    (start source).Invariant g source target failed where
  valid := by
    intro b hb
    rw [List.mem_singleton.mp hb]
    exact ⟨Alternative.singleton g source failed, rfl⟩
  found := List.forall_mem_nil _
  once := by
    intro path hpath
    rw [start, List.count_nil, Nat.zero_add, List.countP_singleton]
    exact if_pos (decide_eq_true hpath.source_prefix)

theorem PathSearch.pass_invariant (hparallel : NoParallel g) {s : PathSearch}
    (h : s.Invariant g source target failed) :
    (s.pass g target failed).Invariant g source target failed := by
  obtain ⟨paths, stack⟩ := s
  cases stack with
  | nil => exact h
  | cons b rest =>
    have hb : b.Valid g source failed := h.valid b List.mem_cons_self
    have hrest : ∀ c ∈ rest, c.Valid g source failed := fun c hc =>
      h.valid c (List.mem_cons_of_mem b hc)
    rw [pass_cons]
    split_ifs with htarget
    · have hfound : Alternative g source target failed b.path := htarget ▸ hb.path
      refine ⟨hrest, ?_, fun path hpath => ?_⟩
      · rw [List.forall_mem_append, List.forall_mem_singleton]
        exact ⟨h.found, hfound⟩
      · have hwhole : b.path <+: path ↔ path = b.path := by
          constructor
          · exact fun hprefix => hpath.eq_of_prefix hprefix hfound.ends
          · rintro rfl
            exact List.prefix_rfl
        have honce := h.once path hpath
        rw [List.countP_cons] at honce
        rw [List.count_append, List.count_singleton]
        simp only [hwhole, decide_eq_true_eq, beq_iff_eq, eq_comm (a := b.path)] at honce ⊢
        omega
    · refine ⟨?_, h.found, fun path hpath => ?_⟩
      · intro c hc
        rw [Branch.foldl_push, List.mem_append, List.mem_reverse, List.mem_map] at hc
        rcases hc with ⟨e, he, rfl⟩ | hc
        · obtain ⟨hout, hnew⟩ := List.mem_filter.mp he
          exact hb.follow hout (of_decide_eq_true hnew)
        · exact hrest c hc
      · have honce := h.once path hpath
        have hfollow := hb.countP_follow hparallel htarget hpath
        rw [List.countP_cons] at honce
        rw [Branch.foldl_push, List.countP_append, List.countP_reverse, List.countP_map]
        simp only [decide_eq_true_eq] at honce
        rw [← hfollow] at honce
        rw [← honce]
        simp only [Function.comp_def]
        omega

end Invariant

section Termination
variable {g : DependencyGraph} {source target : String} {failed : Finset String}

/-- A branch bounds the passes that are spent on it by the nodes it has not visited. -/
def Branch.weight (g : DependencyGraph) (b : Branch) : ℕ :=
  (g.edges.length + 1) ^ (g.nodeIds \ b.visited).card

def PathSearch.variant (g : DependencyGraph) (s : PathSearch) : ℕ :=
  (s.stack.map (Branch.weight g)).sum

theorem Branch.weight_follow {b : Branch} {e : DependencyEdge} (he : e ∈ g.edges)
    (hnew : e.target ∉ b.visited) :
    (g.edges.length + 1) * (b.follow e).weight g = b.weight g := by
  have hmem : e.target ∈ g.nodeIds \ b.visited := Finset.mem_sdiff.mpr ⟨g.target_mem he, hnew⟩
  have hcard : (g.nodeIds \ b.visited).card = (g.nodeIds \ insert e.target b.visited).card + 1 := by
    rw [Finset.sdiff_insert, Finset.card_erase_add_one hmem]
  rw [weight, weight, follow, hcard, pow_succ, mul_comm]

theorem PathSearch.pass_variant {s : PathSearch} (hpending : s.pending = true) :
    (s.pass g target failed).variant g < s.variant g := by
  obtain ⟨paths, stack⟩ := s
  cases stack with
  | nil => cases hpending
  | cons b rest =>
    have hweight : 0 < b.weight g := Nat.pos_of_ne_zero (pow_ne_zero _ (Nat.succ_ne_zero _))
    rw [variant, variant, pass_cons, List.map_cons, List.sum_cons]
    split_ifs with htarget
    · exact Nat.lt_add_of_pos_left hweight
    · rw [Branch.foldl_push, List.map_append, List.sum_append, List.map_reverse, List.sum_reverse,
        List.map_map]
      set next := (g.outgoing b.current).filter fun e => e.target ∉ b.visited ∧ e.target ∉ failed
      have hfollow : ∀ e ∈ next, (g.edges.length + 1) * (b.follow e).weight g = b.weight g := by
        intro e he
        obtain ⟨hout, hnew⟩ := List.mem_filter.mp he
        exact Branch.weight_follow (g.mem_outgoing.mp hout).1 (of_decide_eq_true hnew).1
      have hcount : next.length ≤ g.edges.length :=
        (List.length_filter_le _ _).trans (List.length_filter_le _ _)
      have hsum : (g.edges.length + 1) * (next.map ((Branch.weight g) ∘ b.follow)).sum =
          next.length * b.weight g := by
        have hmap : next.map (fun e => (g.edges.length + 1) * (Branch.weight g ∘ b.follow) e) =
            next.map fun _ => b.weight g := List.map_congr_left hfollow
        rw [← List.sum_map_mul_left, hmap, List.map_const', List.sum_replicate, smul_eq_mul]
      have hbound : (g.edges.length + 1) * (next.map ((Branch.weight g) ∘ b.follow)).sum <
          (g.edges.length + 1) * b.weight g := by
        rw [hsum]
        exact Nat.mul_lt_mul_of_pos_right (Nat.lt_succ_of_le hcount) hweight
      have hless := Nat.lt_of_mul_lt_mul_left hbound
      omega

theorem PathSearch.exists_exitsAfter (g : DependencyGraph) (source target : String)
    (failed : Finset String) :
    ∃ n ≤ g.pathFuel, ExitsAfter pending (pass g target failed) (start source) n := by
  obtain ⟨n, hn, hexits⟩ := Library.exists_exitsAfter (fun _ => True) (variant g)
    (fun _ _ _ => trivial) (fun _ _ hpending => pass_variant hpending) (start source) trivial
  refine ⟨n, hn.trans ?_, hexits⟩
  have hcard : (g.nodeIds \ {source}).card ≤ g.nodes.length :=
    (Finset.card_le_card Finset.sdiff_subset).trans g.card_nodeIds.le
  rw [variant, start, List.map_singleton, List.sum_singleton, DependencyGraph.pathFuel]
  exact Nat.pow_le_pow_right (Nat.succ_pos _) hcard

theorem PathSearch.run_stack (g : DependencyGraph) (source target : String)
    (failed : Finset String) : (run g source target failed).stack = [] := by
  obtain ⟨n, hn, hexits⟩ := exists_exitsAfter g source target failed
  have hend : ((pass g target failed)^[n] (start source)).pending = false := hexits.2
  rw [run, whileLoop_of_exitsAfter hexits hn]
  simpa [pending] using hend

end Termination

section Result
variable {g : DependencyGraph} {source target : String} {failed : Finset String}

/-- With an empty stack everything is found, and nothing twice. -/
theorem PathSearch.Invariant.count_paths {s : PathSearch} (h : s.Invariant g source target failed)
    (hstack : s.stack = []) (path : List String) :
    (path ∈ s.paths ↔ Alternative g source target failed path) ∧ s.paths.count path ≤ 1 := by
  by_cases hpath : Alternative g source target failed path
  · have honce := h.once path hpath
    rw [hstack, List.countP_nil, Nat.add_zero] at honce
    exact ⟨iff_of_true (List.count_pos_iff.mp (by omega)) hpath, honce.le⟩
  · have hnot : path ∉ s.paths := fun hmem => hpath (h.found path hmem)
    exact ⟨iff_of_false hnot hpath, (List.count_eq_zero_of_not_mem hnot).trans_le (Nat.zero_le 1)⟩

theorem mem_findAlternativePaths (hparallel : NoParallel g) :
    (findAlternativePaths g source target failed).Nodup ∧
      ∀ path, path ∈ findAlternativePaths g source target failed ↔
        Alternative g source target failed path := by
  have hinvariant : (PathSearch.run g source target failed).Invariant g source target failed :=
    whileLoop_inv (fun s : PathSearch => s.Invariant g source target failed)
      (fun _ hs _ => PathSearch.pass_invariant hparallel hs) _ _ PathSearch.start_invariant
  have hcount := hinvariant.count_paths (PathSearch.run_stack g source target failed)
  have hperm := sortedBy_perm List.length (PathSearch.run g source target failed).paths
  rw [findAlternativePaths, hperm.nodup_iff, List.nodup_iff_count_le_one]
  refine ⟨fun path => (hcount path).2, fun path => ?_⟩
  rw [hperm.mem_iff]
  exact (hcount path).1

end Result

/-- The search ends, and in a graph without parallel edges it returns every alternative path
once, the shorter ones first. -/
theorem findAlternativePaths_spec (g : DependencyGraph) (hparallel : NoParallel g)
    (source target : String) (failed : Finset String) :
    (∃ n ≤ g.pathFuel, ExitsAfter PathSearch.pending (PathSearch.pass g target failed)
      (PathSearch.start source) n) ∧
    (findAlternativePaths g source target failed).Nodup ∧
    (findAlternativePaths g source target failed).Pairwise (fun p q => p.length ≤ q.length) ∧
    (∀ path, path ∈ findAlternativePaths g source target failed ↔
      Alternative g source target failed path) ∧
    (source = target → findAlternativePaths g source target failed = [[source]]) := by
  obtain ⟨hnodup, hmem⟩ :=
    @mem_findAlternativePaths g source target failed hparallel
  refine ⟨PathSearch.exists_exitsAfter g source target failed, hnodup, pairwise_sortedBy _ _, hmem, ?_⟩
  rintro rfl
  refine List.perm_singleton.mp
    ((List.perm_ext_iff_of_nodup hnodup (List.nodup_singleton _)).mpr fun path => ?_)
  rw [hmem, List.mem_singleton]
  constructor
  · exact fun hpath => hpath.eq_of_prefix hpath.source_prefix rfl
  · rintro rfl
    exact Alternative.singleton g source failed

section Sample

/-- Two routes between a pair of ports. -/
def routesGraph : DependencyGraph where
  graphId := "routes"
  nodes := [{ nodeId := "port_a", name := "Port A", nodeType := .port },
    { nodeId := "route_1", name := "Route 1", nodeType := .corridor },
    { nodeId := "route_2", name := "Route 2", nodeType := .corridor },
    { nodeId := "port_b", name := "Port B", nodeType := .port }]
  edges := [{ source := "port_a", target := "route_1" }, { source := "port_a", target := "route_2" },
    { source := "route_1", target := "port_b" }, { source := "route_2", target := "port_b" },
    { source := "route_2", target := "port_a" }]
  uniqueIds := by decide
  knownEnds := by decide

theorem findAlternativePaths_spec_routes :
    (findAlternativePaths routesGraph "port_a" "port_b" {"route_1"}).Nodup ∧
      ["port_a", "route_2", "port_b"] ∈
        findAlternativePaths routesGraph "port_a" "port_b" {"route_1"} := by
  have hparallel : NoParallel routesGraph := by
    unfold NoParallel
    decide
  obtain ⟨-, hnodup, -, hmem, -⟩ :=
    findAlternativePaths_spec routesGraph hparallel "port_a" "port_b" {"route_1"}
  exact ⟨hnodup, (hmem _).mpr ⟨rfl, rfl, by decide, by decide, by decide⟩⟩

end Sample

end ContinuityOS.Graph
