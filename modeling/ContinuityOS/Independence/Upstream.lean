import ContinuityOS.Graph.Model
import Mathlib.Logic.Relation

/-! # Upstream dependencies

A depth-first search against the edges with one shared set of visited nodes. From an empty set it
returns exactly the nodes with a non-empty dependency path to the start, unless it nests more
calls than the interpreter has frames for.
-/
namespace ContinuityOS.Independence
open ContinuityOS.Graph Relation

/-- The upstream nodes found from a node, and the nodes visited so far. -/
def collectUpstream (g : DependencyGraph) :
    ℕ → Finset String → String → Finset String × Finset String
  | 0, visited, _ => (∅, visited)
  | fuel + 1, visited, nodeId =>
    if nodeId ∈ visited then (∅, visited)
    else
      g.edges.foldl (fun acc e =>
        if e.target = nodeId ∧ e.source ≠ nodeId then
          let r := collectUpstream g fuel acc.2 e.source
          (insert e.source acc.1 ∪ r.1, r.2)
        else acc) (∅, insert nodeId visited)

/-- What the search returns where frames do not run out. Each call visits a new node, so this
many nested calls are enough. -/
def getUpstreamDependencies (g : DependencyGraph) (nodeId : String) : Finset String :=
  (collectUpstream g (g.nodes.length + 1) ∅ nodeId).1

/-- The second node requires the first directly. -/
def DependsOn (g : DependencyGraph) (u v : String) : Prop :=
  ∃ e ∈ g.edges, e.source = u ∧ e.target = v ∧ u ≠ v

/-- A non-empty path of dependencies leads from the first node to the second. -/
def StrictUpstream (g : DependencyGraph) : String → String → Prop := TransGen (DependsOn g)

/-- What a search from a node adds to the visited set and returns. -/
structure Searched (g : DependencyGraph) (visited : Finset String) (nodeId : String)
    (r : Finset String × Finset String) : Prop where
  visited_sub : visited ⊆ r.2
  start : nodeId ∈ r.2
  sound : ∀ u ∈ r.1, StrictUpstream g u nodeId
  complete : ∀ x ∈ r.2, x ∉ visited → ∀ u, DependsOn g u x → u ∈ r.1 ∧ u ∈ r.2

section Search
variable {g : DependencyGraph} {fuel : ℕ}

/-- One edge of the loop over all edges, with the search for its source done. -/
def takeUpstream (g : DependencyGraph) (fuel : ℕ) (nodeId : String)
    (acc : Finset String × Finset String) (e : DependencyEdge) : Finset String × Finset String :=
  if e.target = nodeId ∧ e.source ≠ nodeId then
    (insert e.source acc.1 ∪ (collectUpstream g fuel acc.2 e.source).1,
      (collectUpstream g fuel acc.2 e.source).2)
  else acc

theorem collectUpstream_succ (fuel : ℕ) (visited : Finset String) (nodeId : String) :
    collectUpstream g (fuel + 1) visited nodeId =
      if nodeId ∈ visited then (∅, visited)
      else g.edges.foldl (takeUpstream g fuel nodeId) (∅, insert nodeId visited) := rfl

/-- The loop over the edges of a node, part of the way through. -/
structure Gathering (g : DependencyGraph) (visited : Finset String) (nodeId : String)
    (done : List DependencyEdge) (acc : Finset String × Finset String) : Prop where
  visited_sub : insert nodeId visited ⊆ acc.2
  sound : ∀ u ∈ acc.1, StrictUpstream g u nodeId
  complete : ∀ x ∈ acc.2, x ∉ insert nodeId visited → ∀ u, DependsOn g u x → u ∈ acc.1 ∧ u ∈ acc.2
  taken : ∀ e ∈ done, e.target = nodeId → e.source ≠ nodeId → e.source ∈ acc.1 ∧ e.source ∈ acc.2

theorem Gathering.take {visited : Finset String} {nodeId : String} {done : List DependencyEdge}
    {acc : Finset String × Finset String} (h : Gathering g visited nodeId done acc)
    {e : DependencyEdge} (he : e ∈ g.edges)
    (hsearch : Searched g acc.2 e.source (collectUpstream g fuel acc.2 e.source)) :
    Gathering g visited nodeId (done ++ [e]) (takeUpstream g fuel nodeId acc e) := by
  by_cases hedge : e.target = nodeId ∧ e.source ≠ nodeId
  · have hdirect : DependsOn g e.source nodeId := ⟨e, he, rfl, hedge.1, hedge.2⟩
    rw [takeUpstream, if_pos hedge]
    constructor
    · exact h.visited_sub.trans hsearch.visited_sub
    · intro u hu
      simp only [Finset.mem_union, Finset.mem_insert] at hu
      rcases hu with (rfl | hu) | hu
      · exact TransGen.single hdirect
      · exact h.sound u hu
      · exact (hsearch.sound u hu).tail hdirect
    · intro x hx hnew u hux
      by_cases hold : x ∈ acc.2
      · obtain ⟨hu1, hu2⟩ := h.complete x hold hnew u hux
        exact ⟨by simp [hu1], hsearch.visited_sub hu2⟩
      · obtain ⟨hu1, hu2⟩ := hsearch.complete x hx hold u hux
        exact ⟨by simp [hu1], hu2⟩
    · intro d hd htarget hsource
      rcases List.mem_append.mp hd with hd | hd
      · obtain ⟨hd1, hd2⟩ := h.taken d hd htarget hsource
        exact ⟨by simp [hd1], hsearch.visited_sub hd2⟩
      · rw [List.mem_singleton.mp hd]
        exact ⟨by simp, hsearch.start⟩
  · rw [takeUpstream, if_neg hedge]
    refine ⟨h.visited_sub, h.sound, h.complete, ?_⟩
    intro d hd htarget hsource
    rcases List.mem_append.mp hd with hd | hd
    · exact h.taken d hd htarget hsource
    · rw [List.mem_singleton.mp hd] at htarget hsource
      exact absurd ⟨htarget, hsource⟩ hedge

theorem Gathering.foldl {visited : Finset String} {nodeId : String} {todo done : List DependencyEdge}
    {acc : Finset String × Finset String} (h : Gathering g visited nodeId done acc)
    (htodo : ∀ e ∈ todo, e ∈ g.edges)
    (hsearch : ∀ V u, insert nodeId visited ⊆ V → u ∈ g.nodeIds →
      Searched g V u (collectUpstream g fuel V u)) :
    Gathering g visited nodeId (done ++ todo) (todo.foldl (takeUpstream g fuel nodeId) acc) := by
  induction todo generalizing done acc with
  | nil => simpa using h
  | cons e todo ih =>
    have he : e ∈ g.edges := htodo e List.mem_cons_self
    have hnext := h.take he
      (hsearch acc.2 e.source h.visited_sub (g.mem_nodeIds.mpr (g.knownEnds e he).1))
    have hrest := ih hnext fun d hd => htodo d (List.mem_cons_of_mem e hd)
    simpa [List.append_assoc] using hrest

/-- A visited node is no longer among the unvisited ones. -/
theorem card_unvisited_lt {visited V : Finset String} {nodeId : String} (hnode : nodeId ∈ g.nodeIds)
    (hvisited : nodeId ∉ visited) (hV : insert nodeId visited ⊆ V) :
    (g.nodeIds \ V).card < (g.nodeIds \ visited).card := by
  apply Finset.card_lt_card
  rw [Finset.ssubset_iff_of_subset]
  · refine ⟨nodeId, Finset.mem_sdiff.mpr ⟨hnode, hvisited⟩, ?_⟩
    simp [hV (Finset.mem_insert_self nodeId visited)]
  · exact Finset.sdiff_subset_sdiff subset_rfl ((Finset.subset_insert _ _).trans hV)

/-- With fuel for every unvisited node the search is sound and complete. -/
theorem collectUpstream_searched (visited : Finset String) (nodeId : String)
    (hnode : nodeId ∈ g.nodeIds) (hfuel : (g.nodeIds \ visited).card ≤ fuel) :
    Searched g visited nodeId (collectUpstream g fuel visited nodeId) := by
  induction fuel generalizing visited nodeId with
  | zero =>
    have hsub : g.nodeIds ⊆ visited :=
      Finset.sdiff_eq_empty_iff_subset.mp (Finset.card_eq_zero.mp (Nat.le_zero.mp hfuel))
    exact ⟨subset_rfl, hsub hnode, by simp [collectUpstream], fun x hx hnew => absurd hx hnew⟩
  | succ fuel ih =>
    rw [collectUpstream_succ]
    by_cases hvisited : nodeId ∈ visited
    · rw [if_pos hvisited]
      exact ⟨subset_rfl, hvisited, by simp, fun x hx hnew => absurd hx hnew⟩
    · rw [if_neg hvisited]
      have hstart : Gathering g visited nodeId [] (∅, insert nodeId visited) :=
        ⟨subset_rfl, by simp, fun x hx hnew => absurd hx hnew, by simp⟩
      have hsearch : ∀ V u, insert nodeId visited ⊆ V → u ∈ g.nodeIds →
          Searched g V u (collectUpstream g fuel V u) := by
        intro V u hV hu
        apply ih V u hu
        have hlt := card_unvisited_lt hnode hvisited hV
        omega
      have hend := hstart.foldl (fun e he => he) hsearch
      refine ⟨(Finset.subset_insert _ _).trans hend.visited_sub,
        hend.visited_sub (Finset.mem_insert_self _ _), hend.sound, ?_⟩
      intro x hx hnew u hux
      by_cases hxn : x = nodeId
      · obtain ⟨e, he, hsource, htarget, hne⟩ := hux
        subst hxn
        have htaken := hend.taken e (by simpa using he) htarget (hsource ▸ hne)
        rwa [hsource] at htaken
      · exact hend.complete x hx (by simp [hxn, hnew]) u hux

end Search

theorem foldl_takeUpstream_of_none (g : DependencyGraph) (fuel : ℕ) {nodeId : String}
    {l : List DependencyEdge} (h : ∀ e ∈ l, e.target ≠ nodeId)
    (acc : Finset String × Finset String) : l.foldl (takeUpstream g fuel nodeId) acc = acc := by
  induction l with
  | nil => rfl
  | cons e l ih =>
    have he : ¬ (e.target = nodeId ∧ e.source ≠ nodeId) := fun hc => h e List.mem_cons_self hc.1
    rw [List.foldl_cons, takeUpstream, if_neg he]
    exact ih fun d hd => h d (List.mem_cons_of_mem e hd)

theorem not_dependsOn_of_not_mem (g : DependencyGraph) {nodeId : String} (h : nodeId ∉ g.nodeIds)
    (u : String) : ¬ DependsOn g u nodeId := by
  rintro ⟨e, he, -, rfl, -⟩
  exact h (g.target_mem he)

/-- The search returns exactly the strict upstream nodes. -/
theorem mem_getUpstreamDependencies (g : DependencyGraph) (nodeId u : String) :
    u ∈ getUpstreamDependencies g nodeId ↔ StrictUpstream g u nodeId := by
  by_cases hnode : nodeId ∈ g.nodeIds
  · have hcard : (g.nodeIds \ ∅).card ≤ g.nodes.length + 1 := by
      rw [Finset.sdiff_empty, g.card_nodeIds]
      omega
    have hsearched := collectUpstream_searched ∅ nodeId hnode hcard
    constructor
    · exact hsearched.sound u
    · intro hup
      have hboth : u ∈ getUpstreamDependencies g nodeId ∧
          u ∈ (collectUpstream g (g.nodes.length + 1) ∅ nodeId).2 := by
        induction hup using TransGen.head_induction_on with
        | single hedge => exact hsearched.complete nodeId hsearched.start (by simp) _ hedge
        | head hedge _ ih => exact hsearched.complete _ ih.2 (by simp) _ hedge
      exact hboth.1
  · constructor
    · intro hu
      have hnone : ∀ e ∈ g.edges, e.target ≠ nodeId := by
        rintro e he rfl
        exact hnode (g.target_mem he)
      rw [getUpstreamDependencies, collectUpstream_succ, if_neg (Finset.notMem_empty _),
        foldl_takeUpstream_of_none g _ hnone] at hu
      exact absurd hu (Finset.notMem_empty u)
    · intro hup
      cases hup with
      | single hedge => exact absurd hedge (not_dependsOn_of_not_mem g hnode _)
      | tail _ hedge => exact absurd hedge (not_dependsOn_of_not_mem g hnode _)

section Termination
variable {g : DependencyGraph} {fuel : ℕ}

/-- The search of a node that fails where it nests more calls than allowed. -/
def collectUpstreamNested (g : DependencyGraph) :
    ℕ → Finset String → String → Option (Finset String × Finset String)
  | 0, _, _ => none
  | depth + 1, visited, nodeId =>
    if nodeId ∈ visited then some (∅, visited)
    else
      g.edges.foldlM (fun acc e =>
        if e.target = nodeId ∧ e.source ≠ nodeId then
          (collectUpstreamNested g depth acc.2 e.source).map fun r =>
            (insert e.source acc.1 ∪ r.1, r.2)
        else some acc) (∅, insert nodeId visited)

/-- One edge of the loop over all edges, with a bound on the calls that it nests. -/
def takeUpstreamNested (g : DependencyGraph) (depth : ℕ) (nodeId : String)
    (acc : Finset String × Finset String) (e : DependencyEdge) :
    Option (Finset String × Finset String) :=
  if e.target = nodeId ∧ e.source ≠ nodeId then
    (collectUpstreamNested g depth acc.2 e.source).map fun r =>
      (insert e.source acc.1 ∪ r.1, r.2)
  else some acc

theorem collectUpstreamNested_succ (depth : ℕ) (visited : Finset String) (nodeId : String) :
    collectUpstreamNested g (depth + 1) visited nodeId =
      if nodeId ∈ visited then some (∅, visited)
      else g.edges.foldlM (takeUpstreamNested g depth nodeId) (∅, insert nodeId visited) := rfl

/-- The search with the frames that are left; nothing where they run out. -/
def getUpstreamWithin (g : DependencyGraph) (frames : ℕ) (nodeId : String) :
    Option (Finset String) :=
  (collectUpstreamNested g frames ∅ nodeId).map Prod.fst

/-- The most calls that one of the edges nests, where each call nests as many as given. -/
def deepestCall (g : DependencyGraph) (fuel : ℕ) (depthOf : Finset String → String → ℕ)
    (nodeId : String) : Finset String → List DependencyEdge → ℕ
  | _, [] => 0
  | visited, e :: edges =>
    if e.target = nodeId ∧ e.source ≠ nodeId then
      max (depthOf visited e.source)
        (deepestCall g fuel depthOf nodeId (collectUpstream g fuel visited e.source).2 edges)
    else deepestCall g fuel depthOf nodeId visited edges

/-- How many calls the search from a node nests, itself counted. -/
def callDepth (g : DependencyGraph) : ℕ → Finset String → String → ℕ
  | 0, _, _ => 1
  | fuel + 1, visited, nodeId =>
    if nodeId ∈ visited then 1
    else 1 + deepestCall g fuel (callDepth g fuel) nodeId (insert nodeId visited) g.edges

theorem callDepth_pos (visited : Finset String) (nodeId : String) :
    0 < callDepth g fuel visited nodeId := by
  cases fuel with
  | zero => exact one_pos
  | succ fuel =>
    rw [callDepth]
    split_ifs <;> omega

/-- A loop with some frames left ends as the loop without a bound exactly when they are enough
for each of its calls. -/
theorem foldlM_takeUpstreamNested_iff {base : Finset String} {nodeId : String} {depth : ℕ}
    {todo : List DependencyEdge}
    (hcall : ∀ V, base ⊆ V → ∀ e ∈ todo, e.target = nodeId →
      V ⊆ (collectUpstream g fuel V e.source).2 ∧
        collectUpstreamNested g depth V e.source =
          if callDepth g fuel V e.source ≤ depth then some (collectUpstream g fuel V e.source)
          else none)
    (acc : Finset String × Finset String) (hacc : base ⊆ acc.2) :
    todo.foldlM (takeUpstreamNested g depth nodeId) acc =
      if deepestCall g fuel (callDepth g fuel) nodeId acc.2 todo ≤ depth then
        some (todo.foldl (takeUpstream g fuel nodeId) acc)
      else none := by
  induction todo generalizing acc with
  | nil => simp [deepestCall]
  | cons e todo ih =>
    have hrest := ih fun V hV d hd => hcall V hV d (List.mem_cons_of_mem e hd)
    rw [List.foldlM_cons, List.foldl_cons, takeUpstreamNested, takeUpstream, deepestCall]
    by_cases hedge : e.target = nodeId ∧ e.source ≠ nodeId
    · obtain ⟨hgrows, hnested⟩ := hcall acc.2 hacc e List.mem_cons_self hedge.1
      simp only [if_pos hedge, hnested, max_le_iff]
      by_cases hdepth : callDepth g fuel acc.2 e.source ≤ depth
      · simp only [hdepth, if_true, true_and]
        exact hrest _ (hacc.trans hgrows)
      · simp [hdepth]
    · simp only [if_neg hedge, Option.bind_eq_bind, Option.bind_some]
      exact hrest acc hacc

/-- With some frames left the search returns what it returns without a bound, exactly when it
nests no more calls than there are frames. -/
theorem collectUpstreamNested_eq (depth : ℕ) (visited : Finset String) (nodeId : String)
    (hfuel : (g.nodeIds \ visited).card < fuel) :
    collectUpstreamNested g depth visited nodeId =
      if callDepth g fuel visited nodeId ≤ depth then some (collectUpstream g fuel visited nodeId)
      else none := by
  induction fuel generalizing depth visited nodeId with
  | zero => exact absurd hfuel (Nat.not_lt_zero _)
  | succ fuel ih =>
    cases depth with
    | zero =>
      have hpos : 0 < callDepth g (fuel + 1) visited nodeId := callDepth_pos visited nodeId
      rw [collectUpstreamNested, if_neg (by omega)]
    | succ depth =>
      rw [collectUpstreamNested_succ, collectUpstream_succ, callDepth]
      by_cases hvisited : nodeId ∈ visited
      · simp [hvisited]
      · have hcall : ∀ V, insert nodeId visited ⊆ V → ∀ e ∈ g.edges, e.target = nodeId →
            V ⊆ (collectUpstream g fuel V e.source).2 ∧
              collectUpstreamNested g depth V e.source =
                if callDepth g fuel V e.source ≤ depth then
                  some (collectUpstream g fuel V e.source)
                else none := by
          intro V hV e he htarget
          have hlt := card_unvisited_lt (htarget ▸ g.target_mem he) hvisited hV
          have hcard : (g.nodeIds \ V).card < fuel := by omega
          have hsource := g.mem_nodeIds.mpr (g.knownEnds e he).1
          exact ⟨(collectUpstream_searched V e.source hsource hcard.le).visited_sub,
            ih depth V e.source hcard⟩
        rw [if_neg hvisited, if_neg hvisited, if_neg hvisited,
          foldlM_takeUpstreamNested_iff hcall _ subset_rfl, Nat.add_comm 1]
        simp only [Nat.add_le_add_iff_right]

theorem card_nodeIds_lt (g : DependencyGraph) : (g.nodeIds \ ∅).card < g.nodes.length + 1 := by
  rw [Finset.sdiff_empty, g.card_nodeIds]
  omega

theorem getUpstreamWithin_eq (g : DependencyGraph) (frames : ℕ) (nodeId : String) :
    getUpstreamWithin g frames nodeId =
      if callDepth g (g.nodes.length + 1) ∅ nodeId ≤ frames then
        some (getUpstreamDependencies g nodeId)
      else none := by
  rw [getUpstreamWithin, collectUpstreamNested_eq frames ∅ nodeId (card_nodeIds_lt g)]
  split_ifs <;> rfl

end Termination

/-- A node is strictly upstream of itself on a cycle through another node. -/
theorem strictUpstream_self_iff (g : DependencyGraph) (nodeId : String) :
    StrictUpstream g nodeId nodeId ↔
      ∃ m, m ≠ nodeId ∧ StrictUpstream g nodeId m ∧ StrictUpstream g m nodeId := by
  constructor
  · intro h
    obtain ⟨m, hfirst, hrest⟩ := TransGen.head'_iff.mp h
    obtain ⟨e, he, hsource, htarget, hne⟩ := hfirst
    rcases Relation.reflTransGen_iff_eq_or_transGen.mp hrest with heq | hpath
    · exact absurd heq hne
    · exact ⟨m, hne.symm, TransGen.single ⟨e, he, hsource, htarget, hne⟩, hpath⟩
  · rintro ⟨m, -, hforth, hback⟩
    exact hforth.trans hback

/-- The search returns exactly the strict upstream nodes, the start among them where it lies on a
cycle through another node. -/
def ReturnsClosure (g : DependencyGraph) (frames : ℕ) (nodeId : String) : Prop :=
  ∃ upstream, getUpstreamWithin g frames nodeId = some upstream ∧
    (∀ m, m ∈ upstream ↔ StrictUpstream g m nodeId) ∧
    (nodeId ∈ upstream ↔ ∃ m, m ≠ nodeId ∧ StrictUpstream g nodeId m ∧ StrictUpstream g m nodeId)

/-- The search returns the closure exactly when it nests no more calls than there are frames. -/
theorem getUpstreamDependencies_closure_iff (g : DependencyGraph) (frames : ℕ) (nodeId : String) :
    ReturnsClosure g frames nodeId ↔ callDepth g (g.nodes.length + 1) ∅ nodeId ≤ frames := by
  rw [ReturnsClosure, getUpstreamWithin_eq]
  by_cases hdepth : callDepth g (g.nodes.length + 1) ∅ nodeId ≤ frames
  · refine iff_of_true ⟨getUpstreamDependencies g nodeId, if_pos hdepth,
      mem_getUpstreamDependencies g nodeId, ?_⟩ hdepth
    rw [mem_getUpstreamDependencies, strictUpstream_self_iff]
  · refine iff_of_false ?_ hdepth
    rintro ⟨upstream, hreturns, -⟩
    rw [if_neg hdepth] at hreturns
    cases hreturns

section Chain

def chainId (i : ℕ) : String := String.ofList (List.replicate i 'x')

theorem chainId_injective : Function.Injective chainId := by
  intro i j h
  have hlength := congrArg (fun s : String => s.toList.length) h
  simpa [chainId] using hlength

def chainNode (i : ℕ) : DependencyNode where
  nodeId := chainId i
  name := "relay"
  nodeType := .microwaveRelay

def chainEdge (i : ℕ) : DependencyEdge where
  source := chainId (i + 1)
  target := chainId i

/-- Each node requires the next. -/
def chainGraph (n : ℕ) : DependencyGraph where
  graphId := "chain"
  nodes := (List.range (n + 1)).map chainNode
  edges := (List.range n).map chainEdge
  uniqueIds := by
    rw [List.map_map]
    exact List.nodup_range.map chainId_injective
  knownEnds := by
    have hids : ∀ i < n + 1,
        chainId i ∈ ((List.range (n + 1)).map chainNode).map DependencyNode.nodeId := by
      intro i hi
      rw [List.map_map]
      exact List.mem_map.mpr ⟨i, List.mem_range.mpr hi, rfl⟩
    refine List.forall_mem_map.mpr fun i hi => ?_
    rw [List.mem_range] at hi
    exact ⟨hids (i + 1) (by omega), hids i (by omega)⟩

/-- A loop over edges of which one makes the search fail and the others do nothing fails. -/
theorem foldlM_takeUpstreamNested_none {g : DependencyGraph} {depth : ℕ} {nodeId : String}
    {acc : Finset String × Finset String} {e : DependencyEdge} {edges : List DependencyEdge}
    (he : e ∈ edges) (hfails : takeUpstreamNested g depth nodeId acc e = none)
    (hothers : ∀ d ∈ edges, d ≠ e → takeUpstreamNested g depth nodeId acc d = some acc) :
    edges.foldlM (takeUpstreamNested g depth nodeId) acc = none := by
  induction edges with
  | nil => cases he
  | cons d edges ih =>
    rw [List.foldlM_cons]
    by_cases hd : d = e
    · rw [hd, hfails]
      rfl
    · rw [hothers d List.mem_cons_self hd]
      refine ih ?_ fun d' hd' => hothers d' (List.mem_cons_of_mem d hd')
      exact (List.mem_cons.mp he).resolve_left (Ne.symm hd)

/-- Along a chain the search takes one frame for every node. -/
theorem collectUpstreamNested_chain (n depth i : ℕ) (visited : Finset String)
    (hlong : i + depth ≤ n) (hnew : ∀ j, i ≤ j → chainId j ∉ visited) :
    collectUpstreamNested (chainGraph n) depth visited (chainId i) = none := by
  induction depth generalizing i visited with
  | zero => rfl
  | succ depth ih =>
    rw [collectUpstreamNested_succ, if_neg (hnew i le_rfl)]
    have hedge : chainEdge i ∈ (chainGraph n).edges :=
      List.mem_map_of_mem (List.mem_range.mpr (by omega))
    refine foldlM_takeUpstreamNested_none hedge ?_ ?_
    · have hne : chainId (i + 1) ≠ chainId i := fun h => by
        have := chainId_injective h
        omega
      rw [takeUpstreamNested, if_pos ⟨rfl, hne⟩]
      rw [show (chainEdge i).source = chainId (i + 1) from rfl, ih (i + 1) _ (by omega) ?_]
      · rfl
      · intro j hj
        rw [Finset.mem_insert, not_or]
        refine ⟨fun h => ?_, hnew j (by omega)⟩
        have := chainId_injective h
        omega
    · intro d hd hother
      obtain ⟨j, -, rfl⟩ := List.mem_map.mp hd
      refine if_neg fun hmatch => hother ?_
      rw [chainId_injective hmatch.1]

/-- A chain of as many nodes as Python allows nested calls. -/
theorem chainGraph_not_closed :
    ¬ ∀ (g : DependencyGraph) (nodeId : String), ReturnsClosure g 1000 nodeId := by
  intro h
  obtain ⟨upstream, hreturns, -⟩ := h (chainGraph 1000) (chainId 0)
  rw [getUpstreamWithin, collectUpstreamNested_chain 1000 1000 0 ∅ (by omega)
    fun _ _ => Finset.notMem_empty _] at hreturns
  cases hreturns

end Chain

end ContinuityOS.Independence
