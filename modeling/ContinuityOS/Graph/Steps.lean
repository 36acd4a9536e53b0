import ContinuityOS.Graph.Propagation

/-! # What one pass can do

A pass pops a node and takes its edges one by one. Each edge either leaves the
state alone or raises its target; every invariant of the loops is proved by
these two cases.
-/
namespace ContinuityOS.Graph
open Library

theorem tolerance_pos : 0 < tolerance := by norm_num [tolerance]

namespace Propagation
variable (s : Propagation)

/-- Every probability lies in the unit interval. -/
def Bounded : Prop := ∀ v, 0 ≤ s.prob v ∧ s.prob v ≤ 1

theorem relax_eq (current : String) (q : ℚ) (e : DependencyEdge) :
    s.relax current q e =
      if s.prob e.target + tolerance < combine (s.prob e.target) q then
        s.raise current e.target (min 1 (combine (s.prob e.target) q)) else s := rfl

theorem raise_prob (current target : String) (x : ℚ) :
    (s.raise current target x).prob = Function.update s.prob target x := by
  funext v
  by_cases h : v = target
  · subst v
    simp [prob, raise, Dict.getD_set]
  · simp [prob, raise, Dict.getD_set, h, Ne.symm h]

theorem raise_prob_self (current target : String) (x : ℚ) :
    (s.raise current target x).prob target = x := by rw [raise_prob, Function.update_self]

theorem raise_prob_ne {current target v : String} (h : v ≠ target) (x : ℚ) :
    (s.raise current target x).prob v = s.prob v := by rw [raise_prob, Function.update_of_ne h]

theorem raise_get?_self (current target : String) (x : ℚ) :
    (s.raise current target x).probability.get? target = some x := Dict.get?_set_self _ _ _

theorem raise_get?_ne {current target v : String} (h : v ≠ target) (x : ℚ) :
    (s.raise current target x).probability.get? v = s.probability.get? v :=
  Dict.get?_set_ne _ (Ne.symm h) _

theorem raise_impacted (current target v : String) (x : ℚ) :
    (s.raise current target x).Impacted v ↔ v = target ∨ s.Impacted v := by
  by_cases h : v = target
  · subst v
    simp [Impacted, raise_get?_self]
  · simp [Impacted, raise_get?_ne _ h, h]

@[simp] theorem raise_queue (current target : String) (x : ℚ) :
    (s.raise current target x).queue = s.queue ++ [target] := rfl

theorem prob_of_get? {v : String} {x : ℚ} (h : s.probability.get? v = some x) : s.prob v = x :=
  Dict.getD_of_get? _ h 0

theorem get?_of_impacted {v : String} (h : s.Impacted v) :
    s.probability.get? v = some (s.prob v) := by
  obtain ⟨x, hx⟩ := Option.ne_none_iff_exists'.mp h
  rw [hx, s.prob_of_get? hx]

theorem prob_of_not_impacted {v : String} (h : ¬ s.Impacted v) : s.prob v = 0 := by
  have hn : s.probability.get? v = none := not_not.mp h
  simp [prob, Dict.getD, hn]

theorem impacted_of_prob_pos {v : String} (h : 0 < s.prob v) : s.Impacted v := by
  by_contra hn
  exact h.ne' (s.prob_of_not_impacted hn)

theorem start_get? (failed : Finset String) (v : String) :
    (start failed).probability.get? v = if v ∈ failed then some 1 else none := by
  simp [start, Dict.get?_ofKeys, mem_sortedSet]

theorem start_impacted (failed : Finset String) (v : String) :
    (start failed).Impacted v ↔ v ∈ failed := by
  rw [Impacted, start_get?]
  split_ifs with h <;> simp [h]

theorem start_prob (failed : Finset String) (v : String) :
    (start failed).prob v = if v ∈ failed then 1 else 0 := by
  unfold prob Dict.getD
  rw [start_get?]
  split_ifs <;> rfl

theorem start_bounded (failed : Finset String) : (start failed).Bounded := by
  intro v
  rw [start_prob]
  split_ifs <;> norm_num

theorem pending_iff : s.pending = true ↔ ∃ current rest, s.queue = current :: rest := by
  unfold pending
  cases s.queue <;> simp

theorem not_pending_iff : s.pending = false ↔ s.queue = [] := by
  unfold pending
  cases s.queue <;> simp

end Propagation

namespace Discipline
variable (d : Discipline)

/-- What an edge passes on to its target. -/
def contribution (s : Propagation) (current : String) (s' : Propagation) (e : DependencyEdge) : ℚ :=
  d.reading s s' current * e.dependencyStrength.val * d.attenuationOf current e

/-- The loop takes each outgoing edge once, in some order, with the engine's attenuation. -/
structure Fits (g : DependencyGraph) (failed : Finset String) : Prop where
  edges_perm : ∀ u, (d.edgesOf u).Perm (g.outgoing u)
  attenuation_eq : d.attenuationOf = attenuation g failed

variable {d}

theorem Fits.mem_edgesOf {g : DependencyGraph} {failed : Finset String} (h : d.Fits g failed)
    {u : String} {e : DependencyEdge} : e ∈ d.edgesOf u ↔ e ∈ g.edges ∧ e.source = u := by
  rw [(h.edges_perm u).mem_iff, g.mem_outgoing]

theorem Fits.mem_of_split {g : DependencyGraph} {failed : Finset String} (h : d.Fits g failed)
    {u : String} {done todo : List DependencyEdge} {e : DependencyEdge}
    (hsplit : d.edgesOf u = done ++ e :: todo) : e ∈ g.edges ∧ e.source = u := by
  rw [← h.mem_edgesOf, hsplit]
  simp

theorem Fits.attenuation_pos {g : DependencyGraph} {failed : Finset String} (h : d.Fits g failed)
    (u : String) (e : DependencyEdge) : 0 < d.attenuationOf u e := by
  rw [h.attenuation_eq]
  exact attenuationWith_pos _ e

theorem Fits.attenuation_le_one {g : DependencyGraph} {failed : Finset String}
    (h : d.Fits g failed) (u : String) (e : DependencyEdge) : d.attenuationOf u e ≤ 1 := by
  rw [h.attenuation_eq]
  exact attenuationWith_le_one _ e

/-- What an edge passes on is the popped node's reading, scaled into the unit interval. -/
theorem Fits.contribution_bounds {g : DependencyGraph} {failed : Finset String}
    (h : d.Fits g failed) {s s' : Propagation} (hs : s.Bounded) (hs' : s'.Bounded)
    (current : String) (e : DependencyEdge) :
    0 ≤ d.contribution s current s' e ∧
      d.contribution s current s' e ≤ d.reading s s' current ∧
        d.contribution s current s' e ≤ 1 := by
  have hr : 0 ≤ d.reading s s' current ∧ d.reading s s' current ≤ 1 := by
    unfold reading
    split_ifs
    · exact hs' current
    · exact hs current
  have hw : 0 ≤ e.dependencyStrength.val * d.attenuationOf current e :=
    mul_nonneg e.dependencyStrength.nonneg (h.attenuation_pos _ e).le
  have hw' : e.dependencyStrength.val * d.attenuationOf current e ≤ 1 :=
    mul_le_one₀ e.dependencyStrength.le_one (h.attenuation_pos _ e).le (h.attenuation_le_one _ e)
  have hc : d.contribution s current s' e =
      d.reading s s' current * (e.dependencyStrength.val * d.attenuationOf current e) := by
    unfold contribution
    ring
  rw [hc]
  exact ⟨mul_nonneg hr.1 hw, mul_le_of_le_one_right hr.1 hw', mul_le_one₀ hr.2 hw hw'⟩

/-- One pass, edge by edge: the rule that every loop invariant goes through. The first argument
of `inv` lists the edges already taken. -/
theorem pop_induction {s : Propagation} {current : String} {rest : List String}
    (hq : s.queue = current :: rest) (inv : List DependencyEdge → Propagation → Prop)
    (hstart : inv [] { s with queue := rest })
    (hkeep : ∀ done e todo s', d.edgesOf current = done ++ e :: todo → inv done s' →
      combine (s'.prob e.target) (d.contribution s current s' e) ≤ s'.prob e.target + tolerance →
      inv (done ++ [e]) s')
    (hraise : ∀ done e todo s', d.edgesOf current = done ++ e :: todo → inv done s' →
      s'.prob e.target + tolerance < combine (s'.prob e.target) (d.contribution s current s' e) →
      inv (done ++ [e]) (s'.raise current e.target
        (min 1 (combine (s'.prob e.target) (d.contribution s current s' e))))) :
    inv (d.edgesOf current) (d.pop s) := by
  have hfold (todo done : List DependencyEdge) (s' : Propagation)
      (hsplit : d.edgesOf current = done ++ todo) (hinv : inv done s') :
      inv (d.edgesOf current) (todo.foldl (d.takeEdge s current) s') := by
    induction todo generalizing done s' with
    | nil =>
      rw [hsplit, List.append_nil]
      exact hinv
    | cons e todo ih =>
      refine ih (done ++ [e]) (d.takeEdge s current s' e) (by simpa using hsplit) ?_
      change inv (done ++ [e]) (s'.relax current (d.contribution s current s' e) e)
      rw [Propagation.relax_eq]
      split_ifs with h
      · exact hraise done e todo s' hsplit hinv h
      · exact hkeep done e todo s' hsplit hinv (not_lt.mp h)
  have hpop : d.pop s =
      (d.edgesOf current).foldl (d.takeEdge s current) { s with queue := rest } := by
    unfold pop
    rw [hq]
  rw [hpop]
  exact hfold _ [] _ rfl hstart

/-- What the start state has and every pass keeps holds when the loop ends. -/
theorem run_induction (inv : Propagation → Prop) (failed : Finset String)
    (hstart : inv (Propagation.start failed))
    (hpop : ∀ s current rest, s.queue = current :: rest → inv s → inv (d.pop s)) (fuel : ℕ) :
    inv (d.run fuel failed) := by
  apply whileLoop_inv inv _ _ _ hstart
  intro s hs hp
  obtain ⟨current, rest, hq⟩ := s.pending_iff.mp hp
  exact hpop s current rest hq hs

theorem Fits.min_combine {g : DependencyGraph} {failed : Finset String} (h : d.Fits g failed)
    {s s' : Propagation} (hs : s.Bounded) (hs' : s'.Bounded) (current : String)
    (e : DependencyEdge) :
    min 1 (combine (s'.prob e.target) (d.contribution s current s' e)) =
      combine (s'.prob e.target) (d.contribution s current s' e) :=
  min_eq_right (combine_le_one (hs' _).2 (h.contribution_bounds hs hs' current e).2.2)

theorem Fits.raise_bounded {g : DependencyGraph} {failed : Finset String} (h : d.Fits g failed)
    {s s' : Propagation} (hs : s.Bounded) (hs' : s'.Bounded) (current : String)
    (e : DependencyEdge) :
    (s'.raise current e.target
      (min 1 (combine (s'.prob e.target) (d.contribution s current s' e)))).Bounded := by
  intro v
  by_cases hv : v = e.target
  · subst v
    have hc := h.contribution_bounds hs hs' current e
    rw [Propagation.raise_prob_self, h.min_combine hs hs']
    exact ⟨(hs' _).1.trans (left_le_combine (hs' _).2 hc.1), combine_le_one (hs' _).2 hc.2.2⟩
  · rw [Propagation.raise_prob_ne _ hv]
    exact hs' v

/-- No edge lowers a probability or leaves the unit interval. -/
theorem Fits.takeEdge_mono {g : DependencyGraph} {failed : Finset String} (h : d.Fits g failed)
    {s s' : Propagation} (hs : s.Bounded) (hs' : s'.Bounded) (current : String)
    (e : DependencyEdge) :
    (d.takeEdge s current s' e).Bounded ∧
      ∀ v, s'.prob v ≤ (d.takeEdge s current s' e).prob v := by
  change (s'.relax current (d.contribution s current s' e) e).Bounded ∧
    ∀ v, s'.prob v ≤ (s'.relax current (d.contribution s current s' e) e).prob v
  rw [Propagation.relax_eq]
  split_ifs with hrise
  · refine ⟨h.raise_bounded hs hs' current e, fun v => ?_⟩
    by_cases hv : v = e.target
    · subst v
      rw [Propagation.raise_prob_self, h.min_combine hs hs']
      linarith [tolerance_pos]
    · rw [Propagation.raise_prob_ne _ hv]
  · exact ⟨hs', fun _ => le_rfl⟩

theorem Fits.foldl_mono {g : DependencyGraph} {failed : Finset String} (h : d.Fits g failed)
    {s s' : Propagation} (hs : s.Bounded) (hs' : s'.Bounded) (current : String)
    (l : List DependencyEdge) :
    (l.foldl (d.takeEdge s current) s').Bounded ∧
      ∀ v, s'.prob v ≤ (l.foldl (d.takeEdge s current) s').prob v := by
  induction l generalizing s' with
  | nil => exact ⟨hs', fun _ => le_rfl⟩
  | cons e l ih =>
    obtain ⟨hb, hm⟩ := h.takeEdge_mono hs hs' current e
    obtain ⟨hb', hm'⟩ := ih hb
    exact ⟨hb', fun v => (hm v).trans (hm' v)⟩

theorem Fits.pop_mono {g : DependencyGraph} {failed : Finset String} (h : d.Fits g failed)
    {s : Propagation} (hs : s.Bounded) :
    (d.pop s).Bounded ∧ ∀ v, s.prob v ≤ (d.pop s).prob v := by
  unfold pop
  cases s.queue with
  | nil => exact ⟨hs, fun _ => le_rfl⟩
  | cons current rest =>
    have hrest : Propagation.Bounded { s with queue := rest } := hs
    exact h.foldl_mono hs hrest current _

end Discipline

theorem analyzeLoop_fits (g : DependencyGraph) (failed : Finset String) :
    (analyzeLoop g failed).Fits g failed where
  edges_perm _ := sortedBy_perm _ _
  attenuation_eq := rfl

theorem withoutSpofLoop_fits (g : DependencyGraph) (failed : Finset String) :
    (withoutSpofLoop g failed).Fits g failed where
  edges_perm _ := List.Perm.refl _
  attenuation_eq := rfl

end ContinuityOS.Graph
