import ContinuityOS.Graph.Effective

/-! # The noisy-OR meaning of an acyclic graph

Failed nodes are certain; every other node is the noisy-OR of what its in-edges pass
on. On an acyclic graph these equations have one solution.
-/
namespace ContinuityOS.Graph
open Library Relation

/-- An edge leads from one node to the other. -/
def EdgeTo (g : DependencyGraph) (a b : String) : Prop :=
  ∃ e ∈ g.edges, e.source = a ∧ e.target = b

def Acyclic (g : DependencyGraph) : Prop := ∀ v, ¬ TransGen (EdgeTo g) v v

structure NoisyOrSolution (g : DependencyGraph) (failed : Finset String) (p : String → ℚ) :
    Prop where
  failed_eq : ∀ v ∈ failed, p v = 1
  combined : ∀ v, v ∉ failed → p v = noisyOr ((incoming g v).map (delivery g failed p))

section Rank
variable {g : DependencyGraph}

open Classical in
/-- The nodes with a path to the node. -/
noncomputable def ancestors (g : DependencyGraph) (v : String) : Finset String :=
  g.nodeIds.filter fun u => TransGen (EdgeTo g) u v

theorem mem_ancestors {u v : String} :
    u ∈ ancestors g v ↔ u ∈ g.nodeIds ∧ TransGen (EdgeTo g) u v := by
  classical
  exact Finset.mem_filter

noncomputable def rank (g : DependencyGraph) (v : String) : ℕ := (ancestors g v).card

theorem rank_le (v : String) : rank g v ≤ g.nodes.length := by
  rw [← g.card_nodeIds]
  exact Finset.card_le_card fun u hu => (mem_ancestors.mp hu).1

theorem rank_lt (h : Acyclic g) {e : DependencyEdge} (he : e ∈ g.edges) :
    rank g e.source < rank g e.target := by
  have hedge : EdgeTo g e.source e.target := ⟨e, he, rfl, rfl⟩
  apply Finset.card_lt_card
  rw [Finset.ssubset_iff_of_subset]
  · refine ⟨e.source, ?_, ?_⟩
    · exact mem_ancestors.mpr ⟨g.mem_nodeIds.mpr (g.knownEnds e he).1, .single hedge⟩
    · exact fun hsource => h e.source (mem_ancestors.mp hsource).2
  · intro u hu
    rw [mem_ancestors] at hu ⊢
    exact ⟨hu.1, hu.2.tail hedge⟩

/-- Facts about a node that follow from its sources hold of every node. -/
theorem Acyclic.induction (h : Acyclic g) {P : String → Prop}
    (hstep : ∀ v, (∀ e ∈ incoming g v, P e.source) → P v) (v : String) : P v := by
  induction hn : rank g v using Nat.strong_induction_on generalizing v with
  | h n ih =>
    apply hstep v
    intro e he
    obtain ⟨hedge, rfl⟩ := mem_incoming.mp he
    exact ih _ (hn ▸ rank_lt h hedge) e.source rfl

end Rank

section Solution
variable {g : DependencyGraph} {failed : Finset String}

theorem NoisyOrSolution.unique (h : Acyclic g) {p q : String → ℚ}
    (hp : NoisyOrSolution g failed p) (hq : NoisyOrSolution g failed q) : p = q := by
  funext v
  refine h.induction (P := fun v => p v = q v) ?_ v
  intro v ih
  by_cases hv : v ∈ failed
  · rw [hp.failed_eq v hv, hq.failed_eq v hv]
  · rw [hp.combined v hv, hq.combined v hv]
    congr 1
    apply List.map_congr_left
    intro e he
    rw [delivery, delivery, ih e he]

/-- The equations unfolded a number of times. -/
def noisyOrUpTo (g : DependencyGraph) (failed : Finset String) : ℕ → String → ℚ
  | 0, v => if v ∈ failed then 1 else 0
  | n + 1, v =>
    if v ∈ failed then 1
    else noisyOr ((incoming g v).map (delivery g failed (noisyOrUpTo g failed n)))

theorem noisyOrUpTo_stable (h : Acyclic g) (v : String) (n m : ℕ) (hn : rank g v < n)
    (hm : rank g v < m) : noisyOrUpTo g failed n v = noisyOrUpTo g failed m v := by
  refine h.induction (P := fun v => ∀ n m, rank g v < n → rank g v < m →
    noisyOrUpTo g failed n v = noisyOrUpTo g failed m v) ?_ v n m hn hm
  intro v ih n m hn hm
  obtain ⟨n, rfl⟩ : ∃ k, n = k + 1 := ⟨n - 1, by omega⟩
  obtain ⟨m, rfl⟩ : ∃ k, m = k + 1 := ⟨m - 1, by omega⟩
  rw [noisyOrUpTo, noisyOrUpTo]
  split_ifs
  · rfl
  · congr 1
    apply List.map_congr_left
    intro e he
    obtain ⟨hedge, rfl⟩ := mem_incoming.mp he
    have hlt := rank_lt h hedge
    rw [delivery, delivery, ih e he n m (by omega) (by omega)]

theorem noisyOrSolution_exists (h : Acyclic g) :
    NoisyOrSolution g failed (noisyOrUpTo g failed (g.nodes.length + 1)) where
  failed_eq v hv := by rw [noisyOrUpTo, if_pos hv]
  combined v hv := by
    conv_lhs => rw [noisyOrUpTo, if_neg hv]
    congr 1
    apply List.map_congr_left
    intro e he
    obtain ⟨hedge, rfl⟩ := mem_incoming.mp he
    have hlt := rank_lt h hedge
    have hle := rank_le (g := g) e.target
    rw [delivery, delivery, noisyOrUpTo_stable h e.source g.nodes.length (g.nodes.length + 1)
      (by omega) (by omega)]

theorem NoisyOrSolution.unit (h : Acyclic g) {p : String → ℚ} (hp : NoisyOrSolution g failed p)
    (v : String) : 0 ≤ p v ∧ p v ≤ 1 := by
  refine h.induction (P := fun v => 0 ≤ p v ∧ p v ≤ 1) ?_ v
  intro v ih
  by_cases hv : v ∈ failed
  · rw [hp.failed_eq v hv]
    norm_num
  · rw [hp.combined v hv]
    apply noisyOr_mem_unit
    intro c hc
    obtain ⟨e, he, rfl⟩ := List.mem_map.mp hc
    have hsource := ih e he
    exact ⟨mul_nonneg hsource.1 (weight_nonneg g failed e),
      mul_le_one₀ hsource.2 (weight_nonneg g failed e) (weight_le_one g failed e)⟩

end Solution

end ContinuityOS.Graph
