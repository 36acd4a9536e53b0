import ContinuityOS.Graph.BlastRadius
import ContinuityOS.Graph.SinglePoints

/-! # Presentation independence

The assessment of a graph does not depend on the order of its node and edge lists,
apart from the single-point search: that takes edges in list order. The search for a
candidate is independent where its two runs deliver alike, where the permutation
keeps the order of the edges it meets, and where it meets no critical node.
-/
namespace ContinuityOS.Graph
open Library

/-- The same graph with its nodes and edges listed in another order. -/
structure SameTopology (g g' : DependencyGraph) : Prop where
  graphId_eq : g.graphId = g'.graphId
  nodes_perm : g.nodes.Perm g'.nodes
  edges_perm : g.edges.Perm g'.edges

namespace SameTopology
variable {g g' : DependencyGraph} (h : SameTopology g g')
include h

theorem symm : SameTopology g' g := ⟨h.graphId_eq.symm, h.nodes_perm.symm, h.edges_perm.symm⟩

theorem nodeIds_eq : g.nodeIds = g'.nodeIds := by
  ext v
  rw [g.mem_nodeIds, g'.mem_nodeIds, (h.nodes_perm.map _).mem_iff]

theorem fuel_eq (n : ℕ) : g.fuel n = g'.fuel n := by
  rw [DependencyGraph.fuel, DependencyGraph.fuel, h.nodes_perm.length_eq]

theorem criticalityOf_eq (v : String) : g.criticalityOf v = g'.criticalityOf v := by
  have hget : g.nodeDict.get? v = g'.nodeDict.get? v := Dict.get?_eq_of_perm (h.nodes_perm.map _) v
  rw [DependencyGraph.criticalityOf, DependencyGraph.criticalityOf, hget]

theorem outgoing_perm (u : String) : (g.outgoing u).Perm (g'.outgoing u) := h.edges_perm.filter _

theorem substituteMembers_eq (group : String) :
    g.substituteMembers group = g'.substituteMembers group := by
  ext v
  simp only [DependencyGraph.substituteMembers, List.mem_toFinset]
  exact ((h.edges_perm.filter _).map _).mem_iff

theorem attenuation_eq (failed : Finset String) : attenuation g failed = attenuation g' failed := by
  funext current
  simp only [attenuation, h.substituteMembers_eq]

theorem fits {d : Discipline} {failed : Finset String} (hd : d.Fits g' failed) :
    d.Fits g failed where
  edges_perm u := (hd.edges_perm u).trans (h.outgoing_perm u).symm
  attenuation_eq := by rw [hd.attenuation_eq, h.attenuation_eq]

theorem isEmpty_outgoing_eq (u : String) : (g.outgoing u).isEmpty = (g'.outgoing u).isEmpty := by
  have hlen := (h.outgoing_perm u).length_eq
  cases hg : g.outgoing u <;> cases hg' : g'.outgoing u <;> simp_all

theorem criticalImpact_iff (candidate : String) (p : String → ℚ) :
    CriticalImpact g candidate p ↔ CriticalImpact g' candidate p := by
  simp only [CriticalImpact, h.criticalityOf_eq]

end SameTopology

section Analyze
variable {g g' : DependencyGraph}

/-- How many nodes name the provider. -/
def providerCount (nodes : List DependencyNode) (p : String) : ℕ :=
  (nodes.filter fun n => n.providerId = some p).length

theorem providerCounts_get? (nodes : List DependencyNode) (p : String) :
    (providerCounts nodes).get? p =
      if truthy (some p) = true ∧ 0 < providerCount nodes p then some (providerCount nodes p)
      else none := by
  induction nodes using List.reverseRecOn with
  | nil => simp [providerCounts, providerCount]
  | append_singleton nodes n ih =>
    have hnone (h : n.providerId = none) :
        providerCounts (nodes ++ [n]) = providerCounts nodes := by
      rw [providerCounts, List.foldl_append, List.foldl_cons, List.foldl_nil, h, ← providerCounts]
    have hsome (provider : String) (h : n.providerId = some provider) :
        providerCounts (nodes ++ [n]) = if truthy (some provider) then
            (providerCounts nodes).set provider ((providerCounts nodes).getD provider 0 + 1)
          else providerCounts nodes := by
      rw [providerCounts, List.foldl_append, List.foldl_cons, List.foldl_nil, h, ← providerCounts]
    have hcount : providerCount (nodes ++ [n]) p =
        providerCount nodes p + if n.providerId = some p then 1 else 0 := by
      rw [providerCount, List.filter_append, List.length_append]
      by_cases hn : n.providerId = some p <;> simp [hn, providerCount]
    rw [hcount]
    cases hpid : n.providerId with
    | none =>
      rw [hnone hpid]
      simpa using ih
    | some provider =>
      rw [hsome provider hpid]
      by_cases ht : truthy (some provider) = true
      · by_cases hpp : provider = p
        · subst hpp
          have hold : (providerCounts nodes).getD provider 0 = providerCount nodes provider := by
            rw [Dict.getD, ih]
            by_cases hpos : 0 < providerCount nodes provider
            · simp [ht, hpos]
            · simp [ht, Nat.eq_zero_of_not_pos hpos]
          simp [ht, hold]
        · simp only [ht, if_true, Dict.get?_set_ne _ hpp, ih, Option.some.injEq, hpp, if_false,
            Nat.add_zero]
      · have hne : ¬ (provider = p ∧ truthy (some p) = true) := fun hc => ht (hc.1 ▸ hc.2)
        by_cases hpp : provider = p
        · subst hpp
          simp [ht, ih]
        · simp [ht, ih, hpp]

end Analyze

/-- The search for the candidate is the same for both lists of edges: its two runs deliver alike,
or the effective edges of every node it reaches are listed in the same order, or it reaches no
critical node. -/
def SearchIndependent (g g' : DependencyGraph) (candidate : String) : Prop :=
  (searchLog g candidate).Interchangeable g (searchLog g' candidate) ∨
    (∀ u, Reached g {candidate} u →
      ((g.outgoing u).filter fun e => Effective {candidate} e) =
        (g'.outgoing u).filter fun e => Effective {candidate} e) ∨
    ∀ v, Reached g {candidate} v → v = candidate ∨ g.criticalityOf v < 8 / 10

section Search
variable {g g' : DependencyGraph}

theorem not_criticalImpact_of_reached {d : Discipline} {candidate : String}
    (hd : d.Fits g {candidate})
    (h : ∀ v, Reached g {candidate} v → v = candidate ∨ g.criticalityOf v < 8 / 10) (fuel : ℕ) :
    ¬ CriticalImpact g candidate (d.run fuel {candidate}).prob := by
  rintro ⟨v, hne, hc, hp⟩
  have himp := Propagation.impacted_of_prob_pos (d.run fuel {candidate}) (v := v) (by linarith)
  rcases h v (hd.run_reached fuel v himp) with hv | hlow
  · exact hne hv
  · linarith

theorem samePass_of_order (h : SameTopology g g') {failed : Finset String} {u : String}
    (horder : ((g.outgoing u).filter fun e => Effective failed e) =
      (g'.outgoing u).filter fun e => Effective failed e) :
    SamePass (withoutSpofLoop g failed) (withoutSpofLoop g' failed) failed u := by
  intro s rest _
  have hstep : (withoutSpofLoop g failed).takeEdge s u = (withoutSpofLoop g' failed).takeEdge s u := by
    funext s' e
    change s'.relax u (s'.prob u * e.dependencyStrength.val * attenuation g failed u e) e =
      s'.relax u (s'.prob u * e.dependencyStrength.val * attenuation g' failed u e) e
    rw [h.attenuation_eq]
  change ((g.outgoing u).filter fun e => Effective failed e).foldl _ _ =
    ((g'.outgoing u).filter fun e => Effective failed e).foldl _ _
  rw [horder, hstep]

theorem criticalImpact_withoutSpof_iff (h : SameTopology g g') {candidate : String}
    (hind : (∀ u, Reached g {candidate} u →
      ((g.outgoing u).filter fun e => Effective {candidate} e) =
        (g'.outgoing u).filter fun e => Effective {candidate} e) ∨
      ∀ v, Reached g {candidate} v → v = candidate ∨ g.criticalityOf v < 8 / 10) :
    CriticalImpact g candidate (withoutSpofState g {candidate}).prob ↔
      CriticalImpact g candidate (withoutSpofState g' {candidate}).prob := by
  have hfits := withoutSpofLoop_fits g {candidate}
  have hfits' := h.fits (withoutSpofLoop_fits g' {candidate})
  have hstate' : withoutSpofState g' {candidate} =
      (withoutSpofLoop g' {candidate}).run (g.fuel ({candidate} : Finset String).card) {candidate} := by
    rw [withoutSpofState, h.fuel_eq]
  rw [hstate']
  rcases hind with horder | hlow
  · have hrun := run_congr hfits hfits' (fun u hu => samePass_of_order h (horder u hu))
      (g.fuel ({candidate} : Finset String).card)
    rw [withoutSpofState, hrun]
  · exact iff_of_false (not_criticalImpact_of_reached hfits hlow _)
      (not_criticalImpact_of_reached hfits' hlow _)

/-- A search that finds nothing ends with probabilities that no search exceeds whose raises it
keeps, so that one finds nothing either. -/
theorem stopped_of_kept (h : SameTopology g g') {candidate : String}
    (honce : (searchLog g candidate).RaisesOnce g)
    (hkept : (searchLog g candidate).KeptBy (searchLog g' candidate))
    (hfound : (searchLog g candidate).stopped = true) :
    (searchLog g' candidate).stopped = true := by
  by_contra hnot
  have hgoing : (searchLog g' candidate).stopped = false := Bool.eq_false_iff.mpr hnot
  have hfits := withoutSpofLoop_fits g {candidate}
  have hfits' := h.fits (withoutSpofLoop_fits g' {candidate})
  obtain ⟨v, hne, hcritical, hprob⟩ := (searchLog_criticalImpact_iff g candidate).mp hfound
  have hle := runLogged_prob_le hfits hfits' subset_rfl hgoing (searchLog_queue g' candidate hgoing)
    honce hkept v
  refine hnot ((searchLog_criticalImpact_iff g' candidate).mpr
    ⟨v, hne, ?_, hprob.trans hle⟩)
  rw [← h.criticalityOf_eq]
  exact hcritical

theorem foundSpof_eq (h : SameTopology g g') {candidate : String}
    (hind : SearchIndependent g g' candidate) :
    (SpofSearch.run g (g.fuel 1) candidate).foundSpof =
      (SpofSearch.run g' (g'.fuel 1) candidate).foundSpof := by
  rcases hind with hsame | hind
  · rw [← searchLog_stopped, ← searchLog_stopped, Bool.eq_iff_iff]
    have honce' : (searchLog g' candidate).RaisesOnce g' :=
      hsame.once'.trans h.edges_perm.subperm
    exact ⟨stopped_of_kept h hsame.once hsame.kept, stopped_of_kept h.symm honce' hsame.kept'⟩
  · rw [Bool.eq_iff_iff, foundSpof_iff, foundSpof_iff, criticalImpact_withoutSpof_iff h hind,
      h.criticalImpact_iff]

theorem singlePointsFast_eq (h : SameTopology g g')
    (hind : ∀ candidate ∈ g.nodeIds, SearchIndependent g g' candidate) :
    singlePointsFast g = singlePointsFast g' := by
  rw [singlePointsFast, singlePointsFast, ← h.nodeIds_eq]
  have hcandidates : ((sortedSet g.nodeIds).filter fun id => !(g.outgoing id).isEmpty) =
      (sortedSet g.nodeIds).filter fun id => !(g'.outgoing id).isEmpty := by
    apply List.filter_congr
    intro id _
    rw [h.isEmpty_outgoing_eq]
  rw [hcandidates]
  apply List.filter_congr
  intro candidate hmem
  have hnode := (mem_sortedSet g.nodeIds candidate).mp (List.mem_of_mem_filter hmem)
  exact foundSpof_eq h (hind candidate hnode)

end Search

end ContinuityOS.Graph
