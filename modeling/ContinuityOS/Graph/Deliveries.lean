import ContinuityOS.Graph.RunLog

/-! # What a run delivers

A node ends no higher than the noisy-OR of the edges that raised it, taken at the final
probabilities of their sources, provided that no edge raised it twice. It ends no lower than the
noisy-OR of its in-edges that were not cut off, and an edge that was cut off has at most the
tolerance to add.
-/
namespace ContinuityOS.Graph
open Library

namespace RunLog

/-- No edge raised its target more often than it is listed. -/
def RaisesOnce (g : DependencyGraph) (l : RunLog) : Prop := l.raised.Subperm g.edges

instance (g : DependencyGraph) (l : RunLog) : Decidable (l.RaisesOnce g) :=
  inferInstanceAs (Decidable (l.raised.Subperm g.edges))

/-- No edge that raised its target was cut off in the other run. -/
def KeptBy (l l' : RunLog) : Prop := ∀ e ∈ l.raised, e ∉ l'.cutOff

instance (l l' : RunLog) : Decidable (l.KeptBy l') :=
  inferInstanceAs (Decidable (∀ e ∈ l.raised, e ∉ l'.cutOff))

/-- Both runs raise along each edge once, and neither cuts off what raised something in the
other. -/
structure Interchangeable (g : DependencyGraph) (l l' : RunLog) : Prop where
  once : l.RaisesOnce g
  once' : l'.RaisesOnce g
  kept : l.KeptBy l'
  kept' : l'.KeptBy l

instance (g : DependencyGraph) (l l' : RunLog) : Decidable (l.Interchangeable g l') :=
  decidable_of_iff (l.RaisesOnce g ∧ l'.RaisesOnce g ∧ l.KeptBy l' ∧ l'.KeptBy l)
    ⟨fun ⟨honce, honce', hkept, hkept'⟩ => ⟨honce, honce', hkept, hkept'⟩,
      fun ⟨honce, honce', hkept, hkept'⟩ => ⟨honce, honce', hkept, hkept'⟩⟩

end RunLog

section Log
variable {d : Discipline} {g : DependencyGraph} {failed : Finset String} {stops : Stop}
  {l : RunLog}

/-- The reading of a popped node stays below its present probability. -/
theorem reading_le {s s' : Propagation} {current : String}
    (h : s.prob current ≤ s'.prob current) : d.reading s s' current ≤ s'.prob current := by
  unfold Discipline.reading
  split_ifs
  · exact le_rfl
  · exact h

theorem reading_eq {s s' : Propagation} {current : String}
    (h : s'.prob current = s.prob current) : d.reading s s' current = s'.prob current := by
  unfold Discipline.reading
  split_ifs
  · rfl
  · exact h.symm

theorem FailedAtOne.raise (hd : d.Fits g failed) {s s' : Propagation} (hs : s.Bounded)
    (h : FailedAtOne failed s') {current : String} {e : DependencyEdge}
    (hrise : s'.prob e.target + tolerance <
      combine (s'.prob e.target) (d.contribution s current s' e)) :
    FailedAtOne failed (s'.raise current e.target
        (min 1 (combine (s'.prob e.target) (d.contribution s current s' e)))) ∧
      ∀ v, s'.prob v ≤ (s'.raise current e.target
        (min 1 (combine (s'.prob e.target) (d.contribution s current s' e)))).prob v := by
  have htake : d.takeEdge s current s' e = s'.raise current e.target
      (min 1 (combine (s'.prob e.target) (d.contribution s current s' e))) := by
    have hrelax : d.takeEdge s current s' e =
        s'.relax current (d.contribution s current s' e) e := rfl
    rw [hrelax, Propagation.relax_eq, if_pos hrise]
  rw [← htake]
  exact ⟨h.takeEdge hd hs current e, (hd.takeEdge_mono hs h.1 current e).2⟩

section Above

/-- Probabilities that the edges raising a node in a run would not exceed. -/
structure Bounds (g : DependencyGraph) (failed : Finset String) (allowed : DependencyEdge → Prop)
    (q : String → ℚ) : Prop where
  unit : ∀ v, 0 ≤ q v ∧ q v ≤ 1
  failed_eq : ∀ v ∈ failed, q v = 1
  combined : ∀ v (l : List DependencyEdge), l.Subperm (incoming g v) → (∀ e ∈ l, allowed e) →
    noisyOr (l.map (delivery g failed q)) ≤ q v

variable {allowed : DependencyEdge → Prop} {q : String → ℚ}

/-- The part of a state that the bounds explain by the edges that raised each node. -/
structure Explained (g : DependencyGraph) (failed : Finset String) (q : String → ℚ)
    (l : RunLog) : Prop where
  failedAtOne : FailedAtOne failed l.state
  raised : ∀ v, v ∉ failed → l.state.prob v ≤
    noisyOr ((l.raised.filter fun e => e.target = v).map (delivery g failed q))

theorem Explained.prob_le {l : RunLog} (h : Explained g failed q l)
    (hq : Bounds g failed allowed q) (honce : l.RaisesOnce g) (hallowed : ∀ e ∈ l.raised, allowed e)
    (v : String) : l.state.prob v ≤ q v := by
  by_cases hv : v ∈ failed
  · rw [h.failedAtOne.2 v hv, hq.failed_eq v hv]
  · exact (h.raised v hv).trans (hq.combined v _ (honce.filter _)
      fun e he => hallowed e (List.mem_of_mem_filter he))

theorem explained_start (hq : ∀ v, 0 ≤ q v ∧ q v ≤ 1) :
    Explained g failed q (RunLog.start failed) where
  failedAtOne := failedAtOne_start failed
  raised v hv := by
    have hprob : (RunLog.start failed).state.prob v = 0 := by
      rw [RunLog.start, Propagation.start_prob, if_neg hv]
    rw [hprob]
    exact (noisyOr_mem_unit (unitValues_map g failed hq _)).1

/-- A raise stays explained by what its edge delivers, when no more is contributed. -/
theorem Explained.raise (hd : d.Fits g failed) (hq : ∀ v, 0 ≤ q v ∧ q v ≤ 1) {s : Propagation}
    (hs : s.Bounded) {l : RunLog} (h : Explained g failed q l) {current : String}
    {e : DependencyEdge}
    (hrise : l.state.prob e.target + tolerance <
      combine (l.state.prob e.target) (d.contribution s current l.state e))
    (hcontribution : d.contribution s current l.state e ≤ delivery g failed q e) (stop : Bool) :
    Explained g failed q (l.raise current e
      (min 1 (combine (l.state.prob e.target) (d.contribution s current l.state e))) stop) where
  failedAtOne := (h.failedAtOne.raise hd hs hrise).1
  raised v hv := by
    rw [RunLog.raise, List.filter_append]
    by_cases ht : e.target = v
    · rw [List.filter_cons_of_pos (by simpa using ht), List.filter_nil, List.map_append,
        List.map_singleton, noisyOr_snoc, ← ht, Propagation.raise_prob_self,
        hd.min_combine hs h.failedAtOne.1]
      have hunit := noisyOr_mem_unit (unitValues_map g failed hq
        (l.raised.filter fun e' => e'.target = e.target))
      exact combine_mono (ht ▸ h.raised v hv) hcontribution hunit.2
        (hd.contribution_bounds hs h.failedAtOne.1 current e).2.2
    · rw [List.filter_cons_of_neg (by simpa using ht), List.filter_nil, List.append_nil,
        Propagation.raise_prob_ne _ (Ne.symm ht)]
      exact h.raised v hv

/-- The conditions on a whole run are those on each state, since the record only grows. -/
theorem explained_pop (hd : d.Fits g failed) (hq : Bounds g failed allowed q) {l : RunLog}
    {current : String} {rest : List String} (hqueue : l.state.queue = current :: rest)
    (hfailed : FailedAtOne failed l.state)
    (hexplained : l.RaisesOnce g → (∀ e ∈ l.raised, allowed e) → Explained g failed q l) :
    FailedAtOne failed (d.popLogged stops l).state ∧
      ((d.popLogged stops l).RaisesOnce g → (∀ e ∈ (d.popLogged stops l).raised, allowed e) →
        Explained g failed q (d.popLogged stops l)) := by
  have hpass : FailedAtOne failed (d.popLogged stops l).state ∧
      l.state.prob current ≤ (d.popLogged stops l).state.prob current ∧
      ((d.popLogged stops l).RaisesOnce g → (∀ e ∈ (d.popLogged stops l).raised, allowed e) →
        Explained g failed q (d.popLogged stops l)) := by
    refine Discipline.popLogged_induction hqueue (fun _ l' => FailedAtOne failed l'.state ∧
      l.state.prob current ≤ l'.state.prob current ∧
      (l'.RaisesOnce g → (∀ e ∈ l'.raised, allowed e) → Explained g failed q l'))
      ⟨hfailed, le_rfl, fun honce hallowed => ?_⟩ (fun _ _ _ h _ => h)
      (fun _ _ _ _ _ h _ => h) ?_ ?_
    · exact ⟨hfailed, (hexplained honce hallowed).raised⟩
    · rintro done e todo l' _ ⟨hf, hle, h⟩ _ _
      exact ⟨hf, hle, fun ho ha => ⟨hf, (h ho ha).raised⟩⟩
    · rintro done e todo l' hsplit ⟨hf, hle, h⟩ _ hrise
      obtain ⟨hf', hmono⟩ := hf.raise hd hfailed.1 hrise
      refine ⟨hf', hle.trans (hmono current), fun ho ha => ?_⟩
      obtain ⟨-, hsrc⟩ := hd.mem_of_split hsplit
      have ho' : l'.RaisesOnce g := (List.sublist_append_left _ _).subperm.trans ho
      have ha' : ∀ e' ∈ l'.raised, allowed e' := fun e' he' => ha e' (List.mem_append_left _ he')
      have hcontribution : d.contribution l.state current l'.state e ≤ delivery g failed q e := by
        rw [hd.contribution_eq l.state l'.state hsrc, delivery, hsrc]
        exact mul_le_mul_of_nonneg_right
          ((reading_le hle).trans ((h ho' ha').prob_le hq ho' ha' current)) (weight_nonneg g failed e)
      exact (h ho' ha').raise hd hq.unit hfailed.1 hrise hcontribution _
  exact ⟨hpass.1, hpass.2.2⟩

/-- A run whose raises are allowed and single stays explained by the bounds. -/
theorem explained_run (hd : d.Fits g failed) (hq : Bounds g failed allowed q) (fuel : ℕ)
    (honce : (d.runLogged stops fuel failed).RaisesOnce g)
    (hallowed : ∀ e ∈ (d.runLogged stops fuel failed).raised, allowed e) :
    Explained g failed q (d.runLogged stops fuel failed) := by
  have hinv : FailedAtOne failed (d.runLogged stops fuel failed).state ∧
      ((d.runLogged stops fuel failed).RaisesOnce g →
        (∀ e ∈ (d.runLogged stops fuel failed).raised, allowed e) →
          Explained g failed q (d.runLogged stops fuel failed)) := by
    apply Discipline.runLogged_induction (fun l => FailedAtOne failed l.state ∧
      (l.RaisesOnce g → (∀ e ∈ l.raised, allowed e) → Explained g failed q l))
    · exact ⟨failedAtOne_start failed, fun _ _ => explained_start hq.unit⟩
    · rintro l current rest hqueue ⟨hfailed, hexplained⟩
      exact explained_pop hd hq hqueue hfailed hexplained
  exact hinv.2 honce hallowed

end Above

section Below

/-- What an edge has delivered for good: nothing while its source is queued or after a cut-off. -/
def held (g : DependencyGraph) (failed : Finset String) (l : RunLog) (e : DependencyEdge) : ℚ :=
  if e.source ∈ l.state.queue ∨ e ∈ l.cutOff then 0 else delivery g failed l.state.prob e

theorem held_nonneg (hb : l.state.Bounded) (e : DependencyEdge) : 0 ≤ held g failed l e := by
  unfold held
  split_ifs
  · exact le_rfl
  · exact (delivery_mem_unit hb e).1

theorem held_le_one (hb : l.state.Bounded) (e : DependencyEdge) : held g failed l e ≤ 1 := by
  unfold held
  split_ifs
  · norm_num
  · exact (delivery_mem_unit hb e).2

theorem held_le_delivery (hb : l.state.Bounded) (e : DependencyEdge) :
    held g failed l e ≤ delivery g failed l.state.prob e := by
  unfold held
  split_ifs
  · exact (delivery_mem_unit hb e).1
  · exact le_rfl

/-- What a node holds inside a pass: from the other sources, and along the edges taken so far. -/
def received (g : DependencyGraph) (failed : Finset String) (current : String)
    (done : List DependencyEdge) (l : RunLog) (v : String) : ℚ :=
  combine (noisyOr ((incoming g v).map fun e => if e.source = current then 0 else held g failed l e))
    (noisyOr (done.map fun e => if e.target = v then held g failed l e else 0))

/-- A further edge adds at most what it delivers, where nothing else is held more. -/
theorem received_snoc_le {l l' : RunLog} (hb : l.state.Bounded) (hb' : l'.state.Bounded)
    (hle : ∀ e, held g failed l' e ≤ held g failed l e) (current : String)
    (done : List DependencyEdge) (e : DependencyEdge) (v : String) :
    received g failed current (done ++ [e]) l' v ≤ combine (received g failed current done l v)
      (if e.target = v then held g failed l' e else 0) := by
  have hothers : noisyOr ((incoming g v).map fun e =>
        if e.source = current then 0 else held g failed l' e) ≤
      noisyOr ((incoming g v).map fun e => if e.source = current then 0 else held g failed l e) := by
    apply noisyOr_map_mono
    intro e' _
    split_ifs
    · norm_num
    · exact ⟨held_nonneg hb' e', hle e', held_le_one hb e'⟩
  have hdone : noisyOr (done.map fun e => if e.target = v then held g failed l' e else 0) ≤
      noisyOr (done.map fun e => if e.target = v then held g failed l e else 0) := by
    apply noisyOr_map_mono
    intro e' _
    split_ifs
    · exact ⟨held_nonneg hb' e', hle e', held_le_one hb e'⟩
    · norm_num
  have hunit : ∀ (l : RunLog), l.state.Bounded → ∀ edges : List DependencyEdge,
      UnitValues (edges.map fun e => if e.target = v then held g failed l e else 0) := by
    intro l hb edges c hc
    obtain ⟨e', -, rfl⟩ := List.mem_map.mp hc
    split_ifs
    · exact ⟨held_nonneg hb e', held_le_one hb e'⟩
    · norm_num
  have hunitOthers : UnitValues ((incoming g v).map fun e =>
      if e.source = current then 0 else held g failed l e) := by
    intro c hc
    obtain ⟨e', -, rfl⟩ := List.mem_map.mp hc
    split_ifs
    · norm_num
    · exact ⟨held_nonneg hb e', held_le_one hb e'⟩
  have hlast : (if e.target = v then held g failed l' e else 0) ≤ 1 := by
    split_ifs
    · exact held_le_one hb' e
    · norm_num
  have hpart : received g failed current done l' v ≤ received g failed current done l v :=
    combine_mono hothers hdone (noisyOr_mem_unit hunitOthers).2 (noisyOr_mem_unit (hunit l' hb' done)).2
  have hle_one : received g failed current done l v ≤ 1 :=
    combine_le_one (noisyOr_mem_unit hunitOthers).2 (noisyOr_mem_unit (hunit l hb done)).2
  have hsnoc : received g failed current (done ++ [e]) l' v =
      combine (received g failed current done l' v)
        (if e.target = v then held g failed l' e else 0) := by
    rw [received, received, List.map_append, List.map_singleton, noisyOr_snoc, combine_assoc]
  rw [hsnoc]
  exact combine_mono hpart le_rfl hle_one hlast

/-- After a whole pass a node holds what all its in-edges have delivered. -/
theorem received_edgesOf (hd : d.Fits g failed) (current : String) (l : RunLog) (v : String) :
    received g failed current (d.edgesOf current) l v =
      noisyOr ((incoming g v).map (held g failed l)) := by
  have hsplit : (incoming g v).map (held g failed l) = (incoming g v).map fun e =>
      combine (if e.source = current then 0 else held g failed l e)
        (if e.source = current then held g failed l e else 0) := by
    apply List.map_congr_left
    intro e _
    by_cases he : e.source = current <;> simp [he]
  have hown : noisyOr ((incoming g v).map fun e => if e.source = current then held g failed l e else 0) =
      noisyOr ((d.edgesOf current).map fun e => if e.target = v then held g failed l e else 0) := by
    have hfrom := noisyOr_map_filter (P := fun e : DependencyEdge => e.source = current)
      (f := fun e => if e.source = current then held g failed l e else 0) (incoming g v)
      (fun e _ he => if_neg he)
    have hto := noisyOr_map_filter (P := fun e : DependencyEdge => e.target = v)
      (f := fun e => if e.target = v then held g failed l e else 0) (d.edgesOf current)
      (fun e _ he => if_neg he)
    have hperm : ((incoming g v).filter fun e => e.source = current).Perm
        ((d.edgesOf current).filter fun e => e.target = v) := by
      have hedges := ((hd.edges_perm current).filter fun e => decide (e.target = v)).symm
      rwa [DependencyGraph.outgoing, List.filter_comm] at hedges
    rw [hfrom, hto, noisyOr_perm (hperm.map _)]
    congr 1
    apply List.map_congr_left
    intro e he
    obtain ⟨hmem, htarget⟩ := List.mem_filter.mp he
    rw [decide_eq_true_eq] at htarget
    rw [if_pos (hd.mem_edgesOf.mp hmem).2, if_pos htarget]
  rw [hsplit, noisyOr_map_combine, hown, received]

/-- Between passes no node stands below what it holds, and what was cut off adds at most the
tolerance. -/
structure Delivered (g : DependencyGraph) (failed : Finset String) (l : RunLog) : Prop where
  failedAtOne : FailedAtOne failed l.state
  held_le : l.stopped = false → ∀ v, noisyOr ((incoming g v).map (held g failed l)) ≤ l.state.prob v
  cut_le : ∀ e ∈ l.cutOff, e.source ∉ l.state.queue →
    (1 - l.state.prob e.target) * delivery g failed l.state.prob e ≤ tolerance

/-- The same inside a pass. -/
structure Delivering (g : DependencyGraph) (failed : Finset String) (current : String)
    (before : ℚ) (done : List DependencyEdge) (l : RunLog) : Prop where
  failedAtOne : FailedAtOne failed l.state
  unchanged : current ∉ l.state.queue → l.state.prob current = before
  received_le : l.stopped = false → ∀ v, received g failed current done l v ≤ l.state.prob v
  cut_le : ∀ e ∈ l.cutOff, e.source ∉ l.state.queue →
    (1 - l.state.prob e.target) * delivery g failed l.state.prob e ≤ tolerance

theorem delivered_start (g : DependencyGraph) (failed : Finset String) :
    Delivered g failed (RunLog.start failed) where
  failedAtOne := failedAtOne_start failed
  held_le _ v := by
    have hzero : noisyOr ((incoming g v).map (held g failed (RunLog.start failed))) = 0 := by
      apply noisyOr_eq_zero
      intro c hc
      obtain ⟨e, -, rfl⟩ := List.mem_map.mp hc
      unfold held
      split_ifs with hheld
      · rfl
      · have hsource : e.source ∉ failed := fun hf =>
          hheld (Or.inl ((mem_sortedSet failed e.source).mpr hf))
        rw [delivery, RunLog.start, Propagation.start_prob, if_neg hsource, zero_mul]
    rw [hzero]
    exact (Propagation.start_bounded failed v).1
  cut_le e he := by cases he

theorem Delivered.popHead {l : RunLog} (h : Delivered g failed l) {current : String}
    {rest : List String} (hq : l.state.queue = current :: rest) :
    Delivering g failed current (l.state.prob current) [] (l.popHead current rest) where
  failedAtOne := h.failedAtOne
  unchanged _ := rfl
  received_le hgoing v := by
    refine le_trans ?_ (h.held_le hgoing v)
    rw [received, List.map_nil, noisyOr_nil, combine_zero]
    apply noisyOr_map_mono
    intro e _
    have hheld : e.source ≠ current →
        held g failed (l.popHead current rest) e = held g failed l e := by
      intro hne
      have hdelivery : delivery g failed (l.popHead current rest).state.prob e =
          delivery g failed l.state.prob e := rfl
      rw [held, held, hdelivery]
      simp [RunLog.popHead, hq, hne]
    split_ifs with he
    · exact ⟨le_rfl, held_nonneg h.failedAtOne.1 e, held_le_one h.failedAtOne.1 e⟩
    · rw [hheld he]
      exact ⟨held_nonneg h.failedAtOne.1 e, le_rfl, held_le_one h.failedAtOne.1 e⟩
  cut_le e he hnq := by
    obtain ⟨hmem, hne⟩ := List.mem_filter.mp he
    rw [decide_eq_true_eq] at hne
    refine h.cut_le e hmem ?_
    rw [hq, List.mem_cons, not_or]
    exact ⟨hne, hnq⟩

variable {current : String} {before : ℚ} {done : List DependencyEdge} {e : DependencyEdge}

/-- Off the queue, the popped node delivers what the loop reads of it. -/
theorem Delivering.contribution_eq (hd : d.Fits g failed) {l l' : RunLog}
    (h : Delivering g failed current (l.state.prob current) done l') (hsrc : e.source = current)
    (hnq : current ∉ l'.state.queue) :
    d.contribution l.state current l'.state e = delivery g failed l'.state.prob e := by
  rw [hd.contribution_eq l.state l'.state hsrc, reading_eq (h.unchanged hnq), delivery, hsrc]

theorem Delivering.keep (hd : d.Fits g failed) {l l' : RunLog}
    (h : Delivering g failed current (l.state.prob current) done l') (hs : l.state.Bounded)
    (hsrc : e.source = current)
    (hkeep : combine (l'.state.prob e.target) (d.contribution l.state current l'.state e) ≤
      l'.state.prob e.target) :
    Delivering g failed current (l.state.prob current) (done ++ [e]) l' := by
  have hb := h.failedAtOne.1
  refine ⟨h.failedAtOne, h.unchanged, fun hgoing v => ?_, h.cut_le⟩
  refine (received_snoc_le hb hb (fun _ => le_rfl) current done e v).trans ?_
  split_ifs with ht
  · have hheld : held g failed l' e ≤ d.contribution l.state current l'.state e := by
      by_cases hnq : current ∈ l'.state.queue
      · rw [held, if_pos (Or.inl (hsrc ▸ hnq))]
        exact (hd.contribution_bounds hs hb current e).1
      · rw [h.contribution_eq hd hsrc hnq]
        exact held_le_delivery hb e
    rw [ht] at hkeep
    exact (combine_mono (h.received_le hgoing v) hheld (hb v).2 (held_le_one hb e)).trans hkeep
  · rw [combine_zero]
    exact h.received_le hgoing v

theorem Delivering.drop (hd : d.Fits g failed) {l l' : RunLog}
    (h : Delivering g failed current (l.state.prob current) done l') (hsrc : e.source = current)
    (hcut : combine (l'.state.prob e.target) (d.contribution l.state current l'.state e) ≤
      l'.state.prob e.target + tolerance) :
    Delivering g failed current (l.state.prob current) (done ++ [e]) (l'.drop e) := by
  have hb := h.failedAtOne.1
  have hle : ∀ e', held g failed (l'.drop e) e' ≤ held g failed l' e' := by
    intro e'
    unfold held
    split_ifs with hnew hold hold
    · exact le_rfl
    · exact (delivery_mem_unit hb e').1
    · exact absurd (hold.imp_right (List.mem_append_left [e])) hnew
    · exact le_rfl
  refine ⟨h.failedAtOne, h.unchanged, fun hgoing v => ?_, fun e' he' hnq => ?_⟩
  · have hb' : (l'.drop e).state.Bounded := hb
    have hreceived := received_snoc_le hb hb' hle current done e v
    refine hreceived.trans ?_
    have hzero : held g failed (l'.drop e) e = 0 := if_pos (Or.inr (by simp [RunLog.drop]))
    rw [hzero, ite_self, combine_zero]
    exact h.received_le hgoing v
  · rcases List.mem_append.mp he' with hold | hnew
    · exact h.cut_le e' hold hnq
    · rw [List.mem_singleton.mp hnew] at hnq ⊢
      have hcontribution := h.contribution_eq hd hsrc (hsrc ▸ hnq)
      have hgain := combine_sub_left (l'.state.prob e.target)
        (d.contribution l.state current l'.state e)
      rw [hcontribution] at hgain hcut
      change (1 - l'.state.prob e.target) * delivery g failed l'.state.prob e ≤ tolerance
      linarith

/-- What a raise changes: the target's probability and the queue. -/
structure Raised (l l' : RunLog) (e : DependencyEdge) (value : ℚ) : Prop where
  queue : l'.state.queue = l.state.queue ++ [e.target]
  cutOff : l'.cutOff = l.cutOff
  others : ∀ v, v ≠ e.target → l'.state.prob v = l.state.prob v
  target : l'.state.prob e.target = value
  mono : ∀ v, l.state.prob v ≤ l'.state.prob v

theorem Delivering.raise (hd : d.Fits g failed) {l l' l'' : RunLog}
    (h : Delivering g failed current (l.state.prob current) done l') (hs : l.state.Bounded)
    (hsrc : e.source = current) (hgoing : l'.stopped = false) (hf : FailedAtOne failed l''.state)
    (hraised : Raised l' l'' e
      (combine (l'.state.prob e.target) (d.contribution l.state current l'.state e))) :
    Delivering g failed current (l.state.prob current) (done ++ [e]) l'' := by
  have hb := h.failedAtOne.1
  have hdelivery : ∀ e' : DependencyEdge, e'.source ≠ e.target →
      delivery g failed l''.state.prob e' = delivery g failed l'.state.prob e' :=
    fun e' he' => by rw [delivery, delivery, hraised.others _ he']
  have hle : ∀ e', held g failed l'' e' ≤ held g failed l' e' := by
    intro e'
    by_cases he' : e'.source = e.target
    · rw [held, if_pos (Or.inl (by simp [hraised.queue, he']))]
      exact held_nonneg hb e'
    · rw [held, held, hraised.queue, hraised.cutOff, hdelivery e' he']
      simp [he']
  refine ⟨hf, fun hnq => ?_, fun _ v => ?_, fun e' he' hnq => ?_⟩
  · rw [hraised.queue, List.mem_append, List.mem_singleton, not_or] at hnq
    rw [hraised.others _ hnq.2]
    exact h.unchanged hnq.1
  · refine (received_snoc_le hb hf.1 hle current done e v).trans ?_
    split_ifs with ht
    · have hheld : held g failed l'' e ≤ d.contribution l.state current l'.state e := by
        by_cases hnq : current ∈ l'.state.queue ++ [e.target]
        · rw [held, hraised.queue, if_pos (Or.inl (hsrc ▸ hnq))]
          exact (hd.contribution_bounds hs hb current e).1
        · rw [List.mem_append, List.mem_singleton, not_or] at hnq
          rw [h.contribution_eq hd hsrc hnq.1, ← hdelivery e (hsrc ▸ hnq.2)]
          exact held_le_delivery hf.1 e
      rw [← ht, hraised.target]
      exact combine_mono (h.received_le hgoing e.target) hheld (hb e.target).2 (held_le_one hf.1 e)
    · rw [combine_zero, hraised.others v (Ne.symm ht)]
      exact h.received_le hgoing v
  · rw [hraised.queue, List.mem_append, List.mem_singleton, not_or] at hnq
    have hold := h.cut_le e' (hraised.cutOff ▸ he') hnq.1
    rw [hdelivery e' hnq.2]
    refine le_trans (mul_le_mul_of_nonneg_right ?_ (delivery_mem_unit hb e').1) hold
    linarith [hraised.mono e'.target]

theorem Delivered.pop (hd : d.Fits g failed) {l : RunLog} (h : Delivered g failed l)
    {current : String} {rest : List String} (hq : l.state.queue = current :: rest) :
    Delivered g failed (d.popLogged stops l) := by
  have hpass : Delivering g failed current (l.state.prob current) (d.edgesOf current)
      (d.popLogged stops l) := by
    refine Discipline.popLogged_induction hq
      (fun done l' => Delivering g failed current (l.state.prob current) done l')
      (h.popHead hq) ?_ ?_ ?_ ?_
    · intro done e l' hl' hstopped
      refine ⟨hl'.failedAtOne, hl'.unchanged, fun hgoing => ?_, hl'.cut_le⟩
      rw [hstopped] at hgoing
      cases hgoing
    · intro done e todo l' hsplit hl' hkeep
      exact hl'.keep hd h.failedAtOne.1 (hd.mem_of_split hsplit).2 hkeep
    · intro done e todo l' hsplit hl' _ hcut
      exact hl'.drop hd (hd.mem_of_split hsplit).2 hcut
    · intro done e todo l' hsplit hl' hgoing hrise
      obtain ⟨hf, hmono⟩ := hl'.failedAtOne.raise hd h.failedAtOne.1 hrise
      refine hl'.raise hd h.failedAtOne.1 (hd.mem_of_split hsplit).2 hgoing hf
        ⟨rfl, rfl, fun v hv => Propagation.raise_prob_ne _ hv _, ?_, hmono⟩
      exact (Propagation.raise_prob_self _ _ _ _).trans
        (hd.min_combine h.failedAtOne.1 hl'.failedAtOne.1 current e)
  refine ⟨hpass.failedAtOne, fun hgoing v => ?_, hpass.cut_le⟩
  rw [← received_edgesOf hd current]
  exact hpass.received_le hgoing v

theorem delivered_run (hd : d.Fits g failed) (fuel : ℕ) :
    Delivered g failed (d.runLogged stops fuel failed) :=
  Discipline.runLogged_induction (Delivered g failed) failed (delivered_start g failed)
    (fun _ _ _ hq h => h.pop hd hq) fuel

/-- At the end of a run every node stands at least at what its in-edges deliver, those that were
cut off apart. -/
theorem Delivered.deliveries_le {l : RunLog} (h : Delivered g failed l)
    (hgoing : l.stopped = false) (hqueue : l.state.queue = []) (v : String) :
    noisyOr ((incoming g v).map fun e =>
      if e ∈ l.cutOff then 0 else delivery g failed l.state.prob e) ≤ l.state.prob v := by
  have hheld : (fun e => if e ∈ l.cutOff then 0 else delivery g failed l.state.prob e) =
      held g failed l := by
    funext e
    simp [held, hqueue]
  rw [hheld]
  exact h.held_le hgoing v

end Below

section Popped

/-- Only effective edges of popped nodes raise anything, each pass along each of them once. -/
theorem raised_sublist (hd : d.Fits g failed) (fuel : ℕ) :
    (d.runLogged stops fuel failed).raised.Sublist
      (((d.runLogged stops fuel failed).popped.flatMap d.edgesOf).filter fun e =>
        Effective failed e) := by
  have hinv : FailedAtOne failed (d.runLogged stops fuel failed).state ∧
      (d.runLogged stops fuel failed).raised.Sublist
        (((d.runLogged stops fuel failed).popped.flatMap d.edgesOf).filter fun e =>
          Effective failed e) := by
    apply Discipline.runLogged_induction (fun l => FailedAtOne failed l.state ∧
      l.raised.Sublist ((l.popped.flatMap d.edgesOf).filter fun e => Effective failed e))
    · exact ⟨failedAtOne_start failed, List.Sublist.refl []⟩
    · rintro l current rest hqueue ⟨hfailed, hraised⟩
      have hpass : FailedAtOne failed (d.popLogged stops l).state ∧
          (d.popLogged stops l).popped = l.popped ++ [current] ∧
          (d.popLogged stops l).raised.Sublist ((l.popped.flatMap d.edgesOf ++
            d.edgesOf current).filter fun e => Effective failed e) := by
        have hgrow (done : List DependencyEdge) (e : DependencyEdge) :
            ((l.popped.flatMap d.edgesOf ++ done).filter fun e => Effective failed e).Sublist
              ((l.popped.flatMap d.edgesOf ++ (done ++ [e])).filter fun e =>
                Effective failed e) :=
          ((List.sublist_append_left done [e]).append_left _).filter _
        refine Discipline.popLogged_induction hqueue (fun done l' => FailedAtOne failed l'.state ∧
          l'.popped = l.popped ++ [current] ∧ l'.raised.Sublist
            ((l.popped.flatMap d.edgesOf ++ done).filter fun e => Effective failed e))
          ⟨hfailed, rfl, by simpa [RunLog.popHead] using hraised⟩
          (fun done e l' h _ => ⟨h.1, h.2.1, h.2.2.trans (hgrow done e)⟩)
          (fun done e todo l' _ h _ => ⟨h.1, h.2.1, h.2.2.trans (hgrow done e)⟩)
          (fun done e todo l' _ h _ _ => ⟨h.1, h.2.1, h.2.2.trans (hgrow done e)⟩) ?_
        rintro done e todo l' hsplit ⟨hf, hpopped, hsub⟩ _ hrise
        refine ⟨(hf.raise hd hfailed.1 hrise).1, hpopped, ?_⟩
        have hlift : l'.state.prob e.target < combine (l'.state.prob e.target)
            (d.contribution l.state current l'.state e) := by linarith [tolerance_pos]
        have heffective : Effective failed e := hf.effective_of_lift hlift
        rw [← List.append_assoc, List.filter_append,
          List.filter_cons_of_pos (by simpa using heffective), List.filter_nil]
        exact hsub.append_right [e]
      obtain ⟨hf, hpopped, hsub⟩ := hpass
      refine ⟨hf, ?_⟩
      rw [hpopped, List.flatMap_append, List.flatMap_singleton]
      exact hsub
  exact hinv.2

theorem count_edgesOf (hd : d.Fits g failed) (u : String) (e : DependencyEdge) :
    (d.edgesOf u).count e = if u = e.source then g.edges.count e else 0 := by
  rw [(hd.edges_perm u).count_eq, DependencyGraph.outgoing]
  split_ifs with hu
  · exact List.count_filter (by simp [hu])
  · rw [List.count_eq_zero]
    intro hmem
    exact hu (of_decide_eq_true (List.mem_filter.mp hmem).2).symm

/-- Where no relaying node is popped twice, no edge raises its target twice. -/
theorem raisesOnce_of_popped (hd : d.Fits g failed) (fuel : ℕ)
    (h : ∀ u, Relays g failed u → (d.runLogged stops fuel failed).popped.count u ≤ 1) :
    (d.runLogged stops fuel failed).RaisesOnce g := by
  have hsub : (d.runLogged stops fuel failed).raised.Sublist
      (((d.runLogged stops fuel failed).popped.flatMap d.edgesOf).filter fun e =>
        Effective failed e) := raised_sublist hd fuel
  rw [RunLog.RaisesOnce, List.subperm_ext_iff]
  intro e he
  obtain ⟨hmem, heffective⟩ := List.mem_filter.mp (hsub.subset he)
  rw [decide_eq_true_eq] at heffective
  obtain ⟨u, -, hedge⟩ := List.mem_flatMap.mp hmem
  have hrelays : Relays g failed e.source :=
    ⟨e, mem_effectiveEdges.mpr ⟨(hd.mem_edgesOf.mp hedge).1, heffective⟩, rfl⟩
  have hcount : ∀ popped : List String, (popped.flatMap d.edgesOf).count e =
      popped.count e.source * g.edges.count e := by
    intro popped
    induction popped with
    | nil => simp
    | cons u popped ih =>
      rw [List.flatMap_cons, List.count_append, ih, count_edgesOf hd, List.count_cons]
      by_cases hu : u = e.source
      · simp only [hu, if_true, BEq.rfl]
        ring
      · simp [hu]
  calc
    (d.runLogged stops fuel failed).raised.count e ≤
        (((d.runLogged stops fuel failed).popped.flatMap d.edgesOf).filter fun e =>
          Effective failed e).count e := hsub.count_le e
    _ ≤ ((d.runLogged stops fuel failed).popped.flatMap d.edgesOf).count e :=
      List.filter_sublist.count_le e
    _ = (d.runLogged stops fuel failed).popped.count e.source * g.edges.count e := hcount _
    _ ≤ g.edges.count e := (Nat.mul_le_mul_right _ (h _ hrelays)).trans_eq (one_mul _)

end Popped

section Compare
variable {d' : Discipline} {F F' : Finset String} {stops' : Stop} {fuel fuel' : ℕ}

/-- The final probabilities of a run bound every run with no more failures whose raises it keeps. -/
theorem bounds_of_delivered (hsub : F ⊆ F') {l : RunLog} (h : Delivered g F' l)
    (hgoing : l.stopped = false) (hqueue : l.state.queue = []) :
    Bounds g F (fun e => e ∉ l.cutOff) l.state.prob where
  unit := h.failedAtOne.1
  failed_eq v hv := h.failedAtOne.2 v (hsub hv)
  combined v edges hedges hkept := by
    have hunit := h.failedAtOne.1
    have hmono : noisyOr (edges.map (delivery g F l.state.prob)) ≤
        noisyOr (edges.map fun e =>
          if e ∈ l.cutOff then 0 else delivery g F' l.state.prob e) := by
      apply noisyOr_map_mono
      intro e he
      rw [if_neg (hkept e he)]
      exact ⟨(delivery_mem_unit hunit e).1,
        mul_le_mul_of_nonneg_left (weight_mono hsub e) (hunit _).1, (delivery_mem_unit hunit e).2⟩
    have hall : UnitValues ((incoming g v).map fun e =>
        if e ∈ l.cutOff then 0 else delivery g F' l.state.prob e) := by
      intro c hc
      obtain ⟨e, -, rfl⟩ := List.mem_map.mp hc
      split_ifs
      · norm_num
      · exact delivery_mem_unit hunit e
    obtain ⟨listed, hperm, hsublist⟩ := hedges
    have hincoming := noisyOr_le_of_subperm ⟨_, hperm.map _, hsublist.map _⟩ hall
    exact (hmono.trans hincoming).trans (h.deliveries_le hgoing hqueue v)

/-- A run that raises along each edge once stays below a run with no fewer failures that cuts off
none of these edges. -/
theorem runLogged_prob_le (hd : d.Fits g F) (hd' : d'.Fits g F') (hsub : F ⊆ F')
    (hgoing : (d'.runLogged stops' fuel' F').stopped = false)
    (hqueue : (d'.runLogged stops' fuel' F').state.queue = [])
    (honce : (d.runLogged stops fuel F).RaisesOnce g)
    (hkept : (d.runLogged stops fuel F).KeptBy (d'.runLogged stops' fuel' F')) (v : String) :
    (d.runLogged stops fuel F).state.prob v ≤ (d'.runLogged stops' fuel' F').state.prob v := by
  have hbounds := bounds_of_delivered hsub (delivered_run hd' fuel') hgoing hqueue
  exact (explained_run hd hbounds fuel honce hkept).prob_le hbounds honce hkept v

end Compare

end Log

end ContinuityOS.Graph
