import ContinuityOS.Graph.Invariants

/-! # What edges deliver

An edge can raise something where it has positive strength and its target has not failed. It
delivers its source's share, weighted.
-/
namespace ContinuityOS.Graph
open Library

/-- The edge can raise something: it has positive strength and its target has not failed. -/
def Effective (failed : Finset String) (e : DependencyEdge) : Prop :=
  0 < e.dependencyStrength.val ∧ e.target ∉ failed

instance (failed : Finset String) : DecidablePred (Effective failed) := fun e =>
  inferInstanceAs (Decidable (0 < e.dependencyStrength.val ∧ e.target ∉ failed))

def incoming (g : DependencyGraph) (v : String) : List DependencyEdge :=
  g.edges.filter fun e => e.target = v

section Edges
variable (g : DependencyGraph) (failed : Finset String)

def effectiveEdges : List DependencyEdge := g.edges.filter fun e => Effective failed e

/-- The node can pass an impact on. -/
def Relays (u : String) : Prop := ∃ e ∈ effectiveEdges g failed, e.source = u

/-- What an edge delivers when its source has a given probability. -/
def delivery (x : String → ℚ) (e : DependencyEdge) : ℚ := x e.source * weight g failed e

variable {g failed}

theorem mem_incoming {v : String} {e : DependencyEdge} :
    e ∈ incoming g v ↔ e ∈ g.edges ∧ e.target = v := by simp [incoming]

theorem mem_effectiveEdges {e : DependencyEdge} : e ∈ effectiveEdges g failed ↔
    e ∈ g.edges ∧ Effective failed e := by simp [effectiveEdges]

theorem delivery_mem_unit {x : String → ℚ} (hx : ∀ v, 0 ≤ x v ∧ x v ≤ 1) (e : DependencyEdge) :
    0 ≤ delivery g failed x e ∧ delivery g failed x e ≤ 1 :=
  ⟨mul_nonneg (hx _).1 (weight_nonneg g failed e),
    mul_le_one₀ (hx _).2 (weight_nonneg g failed e) (weight_le_one g failed e)⟩

theorem unitValues_map (g : DependencyGraph) (failed : Finset String) {x : String → ℚ}
    (hx : ∀ v, 0 ≤ x v ∧ x v ≤ 1) (l : List DependencyEdge) :
    UnitValues (l.map (delivery g failed x)) := by
  intro c hc
  obtain ⟨e, -, rfl⟩ := List.mem_map.mp hc
  exact delivery_mem_unit hx e

/-- Fewer healthy alternatives and higher sources deliver more. -/
theorem weight_mono {F F' : Finset String} (hsub : F ⊆ F') (e : DependencyEdge) :
    weight g F e ≤ weight g F' e := by
  apply mul_le_mul_of_nonneg_left _ e.dependencyStrength.nonneg
  apply attenuationWith_anti
  intro group
  exact Finset.sdiff_subset_sdiff (Finset.sdiff_subset_sdiff subset_rfl hsub) subset_rfl

end Edges

/-- Failed nodes stand at one; this is all that keeps ineffective edges quiet. -/
def FailedAtOne (failed : Finset String) (s : Propagation) : Prop :=
  s.Bounded ∧ ∀ f ∈ failed, s.prob f = 1

theorem failedAtOne_start (failed : Finset String) :
    FailedAtOne failed (Propagation.start failed) :=
  ⟨Propagation.start_bounded failed, fun f hf => by rw [Propagation.start_prob, if_pos hf]⟩

theorem Propagation.WellFormed.failedAtOne {g : DependencyGraph} {failed : Finset String}
    {s : Propagation} (h : s.WellFormed g failed) : FailedAtOne failed s :=
  ⟨h.bounded, fun f hf => s.prob_of_get? (h.failedProb f hf)⟩

section Rise
variable {d : Discipline} {g : DependencyGraph} {failed : Finset String}

theorem FailedAtOne.takeEdge (hd : d.Fits g failed) {s s' : Propagation} (hs : s.Bounded)
    (h : FailedAtOne failed s') (current : String) (e : DependencyEdge) :
    FailedAtOne failed (d.takeEdge s current s' e) := by
  obtain ⟨hb, hmono⟩ := hd.takeEdge_mono hs h.1 current e
  exact ⟨hb, fun f hf => le_antisymm (hb f).2 (h.2 f hf ▸ hmono f)⟩

/-- An edge that lifts its target at all is effective. -/
theorem FailedAtOne.effective_of_lift {s s' : Propagation} (h : FailedAtOne failed s')
    {current : String} {e : DependencyEdge}
    (hlift : s'.prob e.target < combine (s'.prob e.target) (d.contribution s current s' e)) :
    Effective failed e := by
  constructor
  · refine lt_of_le_of_ne e.dependencyStrength.nonneg fun hzero => ?_
    rw [Discipline.contribution, ← hzero, mul_zero, zero_mul, combine_zero] at hlift
    exact lt_irrefl _ hlift
  · intro hfailed
    rw [h.2 _ hfailed, combine_one_left] at hlift
    exact lt_irrefl _ hlift

theorem takeEdge_of_not_effective {s s' : Propagation} (h : FailedAtOne failed s')
    (current : String) {e : DependencyEdge} (he : ¬ Effective failed e) :
    d.takeEdge s current s' e = s' := by
  change s'.relax current (d.contribution s current s' e) e = s'
  rw [Propagation.relax_eq, if_neg]
  exact fun hrise => he (h.effective_of_lift (by linarith [tolerance_pos]))

end Rise

end ContinuityOS.Graph
