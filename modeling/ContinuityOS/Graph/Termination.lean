import ContinuityOS.Graph.SpofSearch
import ContinuityOS.Graph.Assessment

/-! # The propagation loops end

Every raise lifts one probability by more than the tolerance and below one, so
it spends a unit of headroom; it adds one entry to the queue, and every pass
takes one away. Queue length plus headroom is therefore a variant, on cyclic
graphs as well.
-/
namespace ContinuityOS.Graph
open Library

/-- Queue length plus the raises that are still possible. -/
def Propagation.variant (g : DependencyGraph) (s : Propagation) : ℕ :=
  s.queue.length + headroom tolerance g.nodeIds s.prob

namespace Discipline
variable {d : Discipline} {g : DependencyGraph} {failed : Finset String}

theorem Fits.pop_variant (h : d.Fits g failed) {s : Propagation} {current : String}
    {rest : List String} (hq : s.queue = current :: rest) (hs : s.Bounded) :
    (d.pop s).variant g < s.variant g := by
  have hle : (d.pop s).Bounded ∧
      (d.pop s).variant g ≤ rest.length + headroom tolerance g.nodeIds s.prob := by
    refine pop_induction hq (fun _ s' => s'.Bounded ∧
      s'.variant g ≤ rest.length + headroom tolerance g.nodeIds s.prob)
      ⟨hs, le_rfl⟩ (fun _ _ _ _ _ hb _ => hb) ?_
    intro done e todo s' hsplit hb hrise
    refine ⟨h.raise_bounded hs hb.1 current e, ?_⟩
    have he : e ∈ g.edges := (h.mem_of_split hsplit).1
    have hspend := headroom_update tolerance tolerance_pos (g.target_mem he)
      (min_le_left 1 (combine (s'.prob e.target) (d.contribution s current s' e)))
      (by rw [h.min_combine hs hb.1]; exact hrise)
    have hprev := hb.2
    unfold Propagation.variant at hprev ⊢
    rw [Propagation.raise_queue, Propagation.raise_prob, List.length_append, List.length_singleton]
    omega
  unfold Propagation.variant at hle ⊢
  rw [hq, List.length_cons]
  omega

theorem start_variant_le (g : DependencyGraph) (failed : Finset String) :
    (Propagation.start failed).variant g ≤ g.fuel failed.card := by
  have hroom := headroom_le tolerance (s := g.nodeIds) (p := (Propagation.start failed).prob)
    (n := 1000000000) tolerance_pos (by norm_num [tolerance])
    (fun v => (Propagation.start_bounded failed v).1)
  have hlen : (Propagation.start failed).queue.length = failed.card := length_sortedSet failed
  rw [g.card_nodeIds] at hroom
  unfold Propagation.variant DependencyGraph.fuel
  omega

/-- Each loop of this shape exits within the engine's fuel. -/
theorem Fits.exists_exitsAfter (h : d.Fits g failed) :
    ∃ n ≤ g.fuel failed.card,
      ExitsAfter Propagation.pending d.pop (Propagation.start failed) n := by
  obtain ⟨n, hn, he⟩ := Library.exists_exitsAfter Propagation.Bounded (Propagation.variant g)
    (fun s hs _ => (h.pop_mono hs).1)
    (fun s hs hp => by
      obtain ⟨current, rest, hq⟩ := s.pending_iff.mp hp
      exact h.pop_variant hq hs)
    (Propagation.start failed) (Propagation.start_bounded failed)
  exact ⟨n, hn.trans (start_variant_le g failed), he⟩

/-- With the engine's fuel the queue really is empty at the end. -/
theorem Fits.run_queue (h : d.Fits g failed) :
    (d.run (g.fuel failed.card) failed).queue = [] := by
  obtain ⟨n, hn, he⟩ := h.exists_exitsAfter
  rw [← Propagation.not_pending_iff, run, whileLoop_of_exitsAfter he hn]
  exact he.2

end Discipline

/-- Every work-queue loop of the engine executes finitely many iterations, for every graph and
every failed set; the bound is the fuel of the model. -/
theorem propagation_terminates (g : DependencyGraph) (failed : Finset String) :
    (∃ n ≤ g.fuel failed.card, ExitsAfter Propagation.pending (analyzeLoop g failed).pop
      (Propagation.start failed) n) ∧
    (∃ n ≤ g.fuel failed.card, ExitsAfter Propagation.pending (withoutSpofLoop g failed).pop
      (Propagation.start failed) n) ∧
    ∀ candidate, ∃ n ≤ g.fuel 1, ExitsAfter SpofSearch.pending (SpofSearch.pop g candidate)
      (SpofSearch.start candidate) n := by
  refine ⟨(analyzeLoop_fits g failed).exists_exitsAfter,
    (withoutSpofLoop_fits g failed).exists_exitsAfter, fun candidate => ?_⟩
  obtain ⟨n, hn, he⟩ := (withoutSpofLoop_fits g {candidate}).exists_exitsAfter
  obtain ⟨m, hm, he'⟩ := SpofSearch.exists_exitsAfter_ofPropagation g candidate
    (Propagation.start_bounded {candidate}) he
  exact ⟨m, hm.trans hn, he'⟩

end ContinuityOS.Graph
