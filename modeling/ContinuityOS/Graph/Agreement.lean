import ContinuityOS.Graph.Effective

/-! # Runs that agree

Two loops over one graph agree where they take the effective edges of every reached
node in the same order.
-/
namespace ContinuityOS.Graph
open Library Relation

theorem Propagation.WellFormed.get?_eq {g : DependencyGraph} {failed : Finset String}
    {s : Propagation} (h : s.WellFormed g failed) (v : String) :
    s.probability.get? v = if 0 < s.prob v then some (s.prob v) else none := by
  by_cases himp : s.Impacted v
  · rw [if_pos (h.positive v himp), s.get?_of_impacted himp]
  · have hnone : s.probability.get? v = none := not_not.mp himp
    rw [s.prob_of_not_impacted himp, if_neg (lt_irrefl 0), hnone]

/-- An effective edge leads from one node to the other. -/
def Leads (g : DependencyGraph) (failed : Finset String) (a b : String) : Prop :=
  ∃ e ∈ effectiveEdges g failed, e.source = a ∧ e.target = b

/-- A chain of effective edges leads from a failed node to the node. -/
def Reached (g : DependencyGraph) (failed : Finset String) (v : String) : Prop :=
  ∃ f ∈ failed, ReflTransGen (Leads g failed) f v

section Order
variable {d d' : Discipline} {g : DependencyGraph} {failed : Finset String}

theorem Reached.step {a b : String} (ha : Reached g failed a) (hab : Leads g failed a b) :
    Reached g failed b := by
  obtain ⟨f, hf, hchain⟩ := ha
  exact ⟨f, hf, hchain.tail hab⟩

/-- Only reached nodes are impacted. -/
theorem Discipline.Fits.pop_reached (hd : d.Fits g failed) {s : Propagation} {current : String}
    {rest : List String} (hq : s.queue = current :: rest) (hw : s.WellFormed g failed)
    (hs : ∀ v, s.Impacted v → Reached g failed v) :
    ∀ v, (d.pop s).Impacted v → Reached g failed v := by
  have hcur : s.Impacted current := hw.queued current (by simp [hq])
  have hinv : (d.pop s).WellFormed g failed ∧ (d.pop s).Impacted current ∧
      ∀ v, (d.pop s).Impacted v → Reached g failed v := by
    refine pop_induction hq (fun _ s' => s'.WellFormed g failed ∧ s'.Impacted current ∧
      ∀ v, s'.Impacted v → Reached g failed v) ⟨?_, hcur, hs⟩ (fun _ _ _ _ _ h _ => h) ?_
    · refine ⟨hw.bounded, hw.positive, hw.failedProb, hw.failedPath, hw.path, fun v hv => ?_⟩
      exact hw.queued v (by simp [hq, show v ∈ rest from hv])
    · rintro done e todo s' hsplit ⟨hw', hcur', hs'⟩ hrise
      obtain ⟨hedge, hsrc⟩ := hd.mem_of_split hsplit
      refine ⟨hd.raise_wellFormed hw.bounded hw' hcur' hedge hsrc hrise,
        (Propagation.raise_impacted _ _ _ _ _).mpr (Or.inr hcur'), fun v hv => ?_⟩
      rcases (Propagation.raise_impacted _ _ _ _ _).mp hv with rfl | hv
      · exact (hs' current hcur').step
          ⟨e, mem_effectiveEdges.mpr ⟨hedge, hw'.failedAtOne.effective_of_lift
            (by linarith [tolerance_pos])⟩, hsrc, rfl⟩
      · exact hs' v hv
  exact hinv.2.2

theorem Discipline.Fits.run_reached (hd : d.Fits g failed) (fuel : ℕ) (v : String)
    (hv : (d.run fuel failed).Impacted v) : Reached g failed v := by
  have hinv : (d.run fuel failed).Consistent g failed ∧
      ∀ v, (d.run fuel failed).Impacted v → Reached g failed v := by
    apply run_induction fun s => s.Consistent g failed ∧ ∀ v, s.Impacted v → Reached g failed v
    · refine ⟨hd.run_consistent 0, fun v hv => ?_⟩
      exact ⟨v, (Propagation.start_impacted failed v).mp hv, .refl⟩
    · rintro s current rest hq ⟨hc, hs⟩
      exact ⟨hd.pop_consistent hq hc, hd.pop_reached hq hc.wellFormed hs⟩
  exact hinv.2 v hv

/-- A pass depends only on the effective edges and their order. -/
theorem foldl_effective (hd : d.Fits g failed) {s s' : Propagation} (hs : s.Bounded)
    (h : FailedAtOne failed s') (current : String) (l : List DependencyEdge) :
    l.foldl (d.takeEdge s current) s' =
      (l.filter fun e => Effective failed e).foldl (d.takeEdge s current) s' := by
  induction l generalizing s' with
  | nil => rfl
  | cons e l ih =>
    by_cases he : Effective failed e
    · rw [List.filter_cons_of_pos (by simpa using he), List.foldl_cons, List.foldl_cons]
      exact ih (h.takeEdge hd hs current e)
    · rw [List.filter_cons_of_neg (by simpa using he), List.foldl_cons,
        takeEdge_of_not_effective h current he]
      exact ih h

/-- Both loops do the same to a popped node. -/
def SamePass (d d' : Discipline) (failed : Finset String) (u : String) : Prop :=
  ∀ s rest, FailedAtOne failed s →
    ((d.edgesOf u).filter fun e => Effective failed e).foldl (d.takeEdge s u)
      { s with queue := rest } =
    ((d'.edgesOf u).filter fun e => Effective failed e).foldl (d'.takeEdge s u)
      { s with queue := rest }

/-- Loops that do the same to every reached node run alike. -/
theorem run_congr (hd : d.Fits g failed) (hd' : d'.Fits g failed)
    (h : ∀ u, Reached g failed u → SamePass d d' failed u) (fuel : ℕ) :
    d.run fuel failed = d'.run fuel failed := by
  apply whileLoop_congr fun s => s.Consistent g failed ∧ ∀ v, s.Impacted v → Reached g failed v
  · rintro s ⟨hc, hs⟩ hp
    obtain ⟨current, rest, hq⟩ := s.pending_iff.mp hp
    exact ⟨hd.pop_consistent hq hc, hd.pop_reached hq hc.wellFormed hs⟩
  · rintro s ⟨hc, hs⟩ hp
    obtain ⟨current, rest, hq⟩ := s.pending_iff.mp hp
    have hone : FailedAtOne failed s := hc.wellFormed.failedAtOne
    have hrest : FailedAtOne failed { s with queue := rest } := hone
    have hreach := hs current (hc.wellFormed.queued current (by simp [hq]))
    have hpop : ∀ {d : Discipline}, d.Fits g failed → d.pop s =
        ((d.edgesOf current).filter fun e => Effective failed e).foldl (d.takeEdge s current)
          { s with queue := rest } := by
      intro d hd
      rw [Discipline.pop, hq]
      exact foldl_effective hd hone.1 hrest current _
    rw [hpop hd, hpop hd']
    exact h current hreach s rest hone
  · refine ⟨hd.run_consistent 0, fun v hv => ?_⟩
    exact ⟨v, (Propagation.start_impacted failed v).mp hv, .refl⟩

end Order

end ContinuityOS.Graph
