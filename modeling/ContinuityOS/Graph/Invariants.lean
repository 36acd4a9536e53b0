import ContinuityOS.Graph.Termination

/-! # Invariants of the propagation

A node that is impacted and not queued has passed its present probability on
along every outgoing edge, up to the tolerance. Stored paths are walks from a
failed node. Both are kept edge by edge, for every order of the edges.
-/
namespace ContinuityOS.Graph
open Library

/-- A walk along graph edges from a failed node to `v`. -/
structure WalkFrom (g : DependencyGraph) (failed : Finset String) (path : List String)
    (v : String) : Prop where
  chain : path.IsChain (fun a b => ∃ e ∈ g.edges, e.source = a ∧ e.target = b)
  starts : ∃ f ∈ failed, path.head? = some f
  ends : path.getLast? = some v

theorem WalkFrom.singleton {g : DependencyGraph} {failed : Finset String} {f : String}
    (hf : f ∈ failed) : WalkFrom g failed [f] f :=
  ⟨List.isChain_singleton f, ⟨f, hf, rfl⟩, rfl⟩

theorem WalkFrom.append {g : DependencyGraph} {failed : Finset String} {path : List String}
    {e : DependencyEdge} (h : WalkFrom g failed path e.source) (he : e ∈ g.edges) :
    WalkFrom g failed (path ++ [e.target]) e.target := by
  obtain ⟨f, hf, hhead⟩ := h.starts
  refine ⟨List.isChain_append.mpr ⟨h.chain, List.isChain_singleton _, ?_⟩, ⟨f, hf, ?_⟩, by simp⟩
  · intro a ha b hb
    rw [h.ends] at ha
    simp only [List.head?_cons, Option.mem_some_iff] at ha hb
    exact ⟨e, he, ha, hb⟩
  · rw [List.head?_append, hhead]
    rfl

/-- What a node passes on along an edge, at a given probability of the node. -/
def weight (g : DependencyGraph) (failed : Finset String) (e : DependencyEdge) : ℚ :=
  e.dependencyStrength.val * attenuation g failed e.source e

theorem weight_nonneg (g : DependencyGraph) (failed : Finset String) (e : DependencyEdge) :
    0 ≤ weight g failed e := mul_nonneg e.dependencyStrength.nonneg (attenuationWith_pos _ e).le

theorem weight_le_one (g : DependencyGraph) (failed : Finset String) (e : DependencyEdge) :
    weight g failed e ≤ 1 :=
  mul_le_one₀ e.dependencyStrength.le_one (attenuationWith_pos _ e).le (attenuationWith_le_one _ e)

namespace Propagation

/-- The part of the invariant that concerns each node alone. -/
structure WellFormed (g : DependencyGraph) (failed : Finset String) (s : Propagation) : Prop where
  bounded : s.Bounded
  positive : ∀ v, s.Impacted v → 0 < s.prob v
  failedProb : ∀ f ∈ failed, s.probability.get? f = some 1
  failedPath : ∀ f ∈ failed, s.bestPath.get? f = some [f]
  path : ∀ v, s.Impacted v → ∃ path, s.bestPath.get? v = some path ∧ WalkFrom g failed path v
  queued : ∀ v ∈ s.queue, s.Impacted v

/-- The edge has received its source's probability up to the tolerance. -/
def Settled (g : DependencyGraph) (failed : Finset String) (s : Propagation) (e : DependencyEdge) :
    Prop := s.prob e.source * weight g failed e ≤ s.prob e.target + tolerance

theorem start_wellFormed (g : DependencyGraph) (failed : Finset String) :
    (start failed).WellFormed g failed where
  bounded := start_bounded failed
  positive v hv := by
    rw [start_prob, if_pos ((start_impacted failed v).mp hv)]
    norm_num
  failedProb f hf := by rw [start_get?, if_pos hf]
  failedPath f hf := by simp [start, Dict.get?_ofKeys, mem_sortedSet, hf]
  path v hv := by
    have hf := (start_impacted failed v).mp hv
    exact ⟨[v], by simp [start, Dict.get?_ofKeys, mem_sortedSet, hf], WalkFrom.singleton hf⟩
  queued v hv := (start_impacted failed v).mpr ((mem_sortedSet failed v).mp hv)

/-- A raise never touches a failed node: those already stand at one. -/
theorem WellFormed.target_not_failed {g : DependencyGraph} {failed : Finset String}
    {s : Propagation} (h : s.WellFormed g failed) {v : String} {q : ℚ}
    (hrise : s.prob v + tolerance < combine (s.prob v) q) : v ∉ failed := by
  intro hf
  rw [s.prob_of_get? (h.failedProb _ hf), combine_one_left] at hrise
  linarith [tolerance_pos]

end Propagation

namespace Discipline
variable {d : Discipline} {g : DependencyGraph} {failed : Finset String}

theorem Fits.raise_wellFormed (h : d.Fits g failed) {s s' : Propagation} (hs : s.Bounded)
    (hw : s'.WellFormed g failed) {current : String} (hcur : s'.Impacted current)
    {e : DependencyEdge} (he : e ∈ g.edges) (hsrc : e.source = current)
    (hrise : s'.prob e.target + tolerance <
      combine (s'.prob e.target) (d.contribution s current s' e)) :
    (s'.raise current e.target
      (min 1 (combine (s'.prob e.target) (d.contribution s current s' e)))).WellFormed g failed := by
  have hnf := hw.target_not_failed hrise
  have hne {f : String} (hf : f ∈ failed) : f ≠ e.target := fun he => hnf (he ▸ hf)
  refine ⟨h.raise_bounded hs hw.bounded current e, ?_, ?_, ?_, ?_, ?_⟩
  · intro v hv
    by_cases hvt : v = e.target
    · subst v
      rw [Propagation.raise_prob_self, h.min_combine hs hw.bounded]
      linarith [tolerance_pos, (hw.bounded e.target).1]
    · rw [Propagation.raise_prob_ne _ hvt]
      exact hw.positive v (((Propagation.raise_impacted _ _ _ _ _).mp hv).resolve_left hvt)
  · intro f hf
    rw [Propagation.raise_get?_ne _ (hne hf)]
    exact hw.failedProb f hf
  · intro f hf
    exact (Dict.get?_set_ne _ (hne hf).symm _).trans (hw.failedPath f hf)
  · intro v hv
    by_cases hvt : v = e.target
    · subst v
      obtain ⟨path, hpath, hwalk⟩ := hw.path current hcur
      refine ⟨path ++ [e.target], ?_, WalkFrom.append (hsrc ▸ hwalk) he⟩
      rw [← Dict.getD_of_get? _ hpath []]
      exact Dict.get?_set_self _ _ _
    · obtain ⟨path, hpath, hwalk⟩ :=
        hw.path v (((Propagation.raise_impacted _ _ _ _ _).mp hv).resolve_left hvt)
      exact ⟨path, (Dict.get?_set_ne _ (Ne.symm hvt) _).trans hpath, hwalk⟩
  · intro v hv
    rw [Propagation.raise_impacted]
    rcases List.mem_append.mp hv with hv | hv
    · exact Or.inr (hw.queued v hv)
    · exact Or.inl (List.mem_singleton.mp hv)

theorem Fits.contribution_eq (h : d.Fits g failed) (s s' : Propagation) {current : String}
    {e : DependencyEdge} (hsrc : e.source = current) :
    d.contribution s current s' e = d.reading s s' current * weight g failed e := by
  unfold contribution weight
  rw [h.attenuation_eq, hsrc]
  ring

/-- The loop invariant inside a pass: nodes off the queue have passed their probability on, the
popped node only along the edges already taken. -/
structure Midpass (g : DependencyGraph) (failed : Finset String) (s : Propagation)
    (current : String) (done : List DependencyEdge) (s' : Propagation) : Prop where
  wellFormed : s'.WellFormed g failed
  popped : s'.Impacted current
  unchanged : current ∉ s'.queue → s'.prob current = s.prob current
  others : ∀ e ∈ g.edges, e.source ≠ current → s'.Impacted e.source → e.source ∉ s'.queue →
    s'.Settled g failed e
  sources : ∀ e ∈ done, e.source = current
  taken : current ∉ s'.queue → ∀ e ∈ done, s'.Settled g failed e

theorem Midpass.reading_eq {s s' : Propagation} {current : String} {done : List DependencyEdge}
    (h : Midpass g failed s current done s') (hq : current ∉ s'.queue) :
    d.reading s s' current = s'.prob current := by
  unfold reading
  split_ifs
  · rfl
  · exact (h.unchanged hq).symm

theorem Fits.midpass_keep (h : d.Fits g failed) {s s' : Propagation} (hs : s.Bounded)
    {current : String} {done : List DependencyEdge} {e : DependencyEdge}
    (hm : Midpass g failed s current done s') (hsrc : e.source = current)
    (hkeep : combine (s'.prob e.target) (d.contribution s current s' e) ≤
      s'.prob e.target + tolerance) : Midpass g failed s current (done ++ [e]) s' := by
  refine ⟨hm.wellFormed, hm.popped, hm.unchanged, hm.others,
    List.forall_mem_append.mpr ⟨hm.sources, by simpa using hsrc⟩, fun hq e' he' => ?_⟩
  rcases List.mem_append.mp he' with he' | he'
  · exact hm.taken hq e' he'
  · rw [List.mem_singleton.mp he', Propagation.Settled]
    have hc := right_le_combine (hm.wellFormed.bounded e.target).1
      (h.contribution_bounds hs hm.wellFormed.bounded current e).2.2
    rw [h.contribution_eq s s' hsrc, hm.reading_eq hq, ← hsrc] at hc
    rw [h.contribution_eq s s' hsrc, hm.reading_eq hq, ← hsrc] at hkeep
    exact hc.trans hkeep

/-- A settled edge stays settled when another node rises. -/
theorem Settled.raise {s' : Propagation} {e : DependencyEdge} (hset : s'.Settled g failed e)
    {current target : String} {x : ℚ} (hsrc : e.source ≠ target) (hx : s'.prob target ≤ x) :
    (s'.raise current target x).Settled g failed e := by
  unfold Propagation.Settled at hset ⊢
  rw [Propagation.raise_prob_ne _ hsrc]
  by_cases ht : e.target = target
  · rw [ht, Propagation.raise_prob_self]
    rw [ht] at hset
    linarith
  · rwa [Propagation.raise_prob_ne _ ht]

theorem Fits.midpass_raise (h : d.Fits g failed) {s s' : Propagation} (hs : s.Bounded)
    {current : String} {done : List DependencyEdge} {e : DependencyEdge}
    (hm : Midpass g failed s current done s') (he : e ∈ g.edges) (hsrc : e.source = current)
    (hrise : s'.prob e.target + tolerance <
      combine (s'.prob e.target) (d.contribution s current s' e)) :
    Midpass g failed s current (done ++ [e]) (s'.raise current e.target
      (min 1 (combine (s'.prob e.target) (d.contribution s current s' e)))) := by
  have hb := hm.wellFormed.bounded
  have hc := h.contribution_bounds hs hb current e
  have hx : s'.prob e.target ≤
      min 1 (combine (s'.prob e.target) (d.contribution s current s' e)) := by
    rw [h.min_combine hs hb]
    exact left_le_combine (hb _).2 hc.1
  refine ⟨h.raise_wellFormed hs hm.wellFormed hm.popped he hsrc hrise, ?_, ?_, ?_,
    List.forall_mem_append.mpr ⟨hm.sources, by simpa using hsrc⟩, ?_⟩
  · exact (Propagation.raise_impacted _ _ _ _ _).mpr (Or.inr hm.popped)
  · intro hq
    simp only [Propagation.raise_queue, List.mem_append, List.mem_singleton, not_or] at hq
    rw [Propagation.raise_prob_ne _ hq.2]
    exact hm.unchanged hq.1
  · intro e' he' hne himp hq
    simp only [Propagation.raise_queue, List.mem_append, List.mem_singleton, not_or] at hq
    have himp' := ((Propagation.raise_impacted _ _ _ _ _).mp himp).resolve_left hq.2
    exact Settled.raise (hm.others e' he' hne himp' hq.1) hq.2 hx
  · intro hq e' he'
    simp only [Propagation.raise_queue, List.mem_append, List.mem_singleton, not_or] at hq
    rcases List.mem_append.mp he' with he' | he'
    · exact Settled.raise (hm.taken hq.1 e' he') (hm.sources e' he' ▸ hq.2) hx
    · have hcur := h.contribution_eq s s' hsrc
      rw [hm.reading_eq hq.1, ← hsrc] at hcur
      rw [List.mem_singleton.mp he', Propagation.Settled,
        Propagation.raise_prob_ne _ (hsrc ▸ hq.2), Propagation.raise_prob_self,
        h.min_combine hs hb, ← hsrc, ← hcur]
      linarith [right_le_combine (hb e.target).1 (hsrc ▸ hc.2.2), tolerance_pos]

end Discipline

/-- The invariant between passes. -/
structure Propagation.Consistent (g : DependencyGraph) (failed : Finset String)
    (s : Propagation) : Prop where
  wellFormed : s.WellFormed g failed
  settled : ∀ e ∈ g.edges, s.Impacted e.source → e.source ∉ s.queue → s.Settled g failed e

namespace Discipline
variable {d : Discipline} {g : DependencyGraph} {failed : Finset String}

theorem Fits.pop_consistent (h : d.Fits g failed) {s : Propagation} {current : String}
    {rest : List String} (hq : s.queue = current :: rest) (hs : s.Consistent g failed) :
    (d.pop s).Consistent g failed := by
  have hb := hs.wellFormed.bounded
  have hmid : Midpass g failed s current (d.edgesOf current) (d.pop s) := by
    refine pop_induction hq (Midpass g failed s current) ?_ ?_ ?_
    · have hw := hs.wellFormed
      refine ⟨⟨hw.bounded, hw.positive, hw.failedProb, hw.failedPath, hw.path, fun v hv => ?_⟩,
        hw.queued current (by simp [hq]), fun _ => rfl, fun e he hne himp hnq => ?_, by simp,
        by simp⟩
      · exact hw.queued v (by simp [hq, show v ∈ rest from hv])
      · exact hs.settled e he himp (by simpa [hq, hne] using hnq)
    · intro done e todo s' hsplit hm hkeep
      exact h.midpass_keep hb hm (h.mem_of_split hsplit).2 hkeep
    · intro done e todo s' hsplit hm hrise
      exact h.midpass_raise hb hm (h.mem_of_split hsplit).1 (h.mem_of_split hsplit).2 hrise
  refine ⟨hmid.wellFormed, fun e he himp hnq => ?_⟩
  by_cases hsrc : e.source = current
  · exact hmid.taken (hsrc ▸ hnq) e (h.mem_edgesOf.mpr ⟨he, hsrc⟩)
  · exact hmid.others e he hsrc himp hnq

theorem Fits.run_consistent (h : d.Fits g failed) (fuel : ℕ) :
    (d.run fuel failed).Consistent g failed := by
  refine run_induction (Propagation.Consistent g failed) failed ?_
    (fun s current rest hq hs => h.pop_consistent hq hs) fuel
  refine ⟨Propagation.start_wellFormed g failed, fun e _ himp hnq => absurd ?_ hnq⟩
  exact (mem_sortedSet failed _).mpr ((Propagation.start_impacted failed _).mp himp)

end Discipline

/-- When the loop of `analyze` has ended: stored probabilities are positive and at most one,
failed nodes stand at one with their own path, every other path is a walk from a failed node,
and every edge has passed its source's probability on up to the tolerance. -/
theorem analyze_final_invariants (g : DependencyGraph) (failed : Finset String) :
    (analyzeState g failed).queue = [] ∧
    (∀ v x, (analyzeState g failed).probability.get? v = some x → 0 < x ∧ x ≤ 1) ∧
    (∀ f ∈ failed, (analyzeState g failed).probability.get? f = some 1 ∧
      (analyzeState g failed).bestPath.get? f = some [f]) ∧
    (∀ v, v ∉ failed → (analyzeState g failed).Impacted v →
      ∃ path, (analyzeState g failed).bestPath.get? v = some path ∧ WalkFrom g failed path v) ∧
    (∀ e ∈ g.edges, (analyzeState g failed).Impacted e.source →
      (analyzeState g failed).prob e.source * e.dependencyStrength.val *
        attenuation g failed e.source e - 1 / 1000000000 ≤
        (analyzeState g failed).prob e.target) := by
  have hfits := analyzeLoop_fits g failed
  have hc : (analyzeState g failed).Consistent g failed := hfits.run_consistent _
  have hq : (analyzeState g failed).queue = [] := hfits.run_queue
  refine ⟨hq, fun v x hx => ?_, fun f hf => ⟨hc.wellFormed.failedProb f hf,
    hc.wellFormed.failedPath f hf⟩, fun v _ hv => hc.wellFormed.path v hv, fun e he himp => ?_⟩
  · have himp : (analyzeState g failed).Impacted v := by simp [Propagation.Impacted, hx]
    rw [← Propagation.prob_of_get? _ hx]
    exact ⟨hc.wellFormed.positive v himp, (hc.wellFormed.bounded v).2⟩
  · have hset := hc.settled e he himp (by simp [hq])
    unfold Propagation.Settled weight tolerance at hset
    linarith

end ContinuityOS.Graph
