import ContinuityOS.Graph.Invariants

/-! # Graphs whose edges pass on everything

Where every edge has full strength and no alternative, the loop of the engine stores no
probability but one, and it stores it for the nodes that the failed ones lead to.
-/
namespace ContinuityOS.Graph
open Library

/-- Every edge passes its source's probability on in full. -/
def PassesAll (g : DependencyGraph) : Prop := ∀ e ∈ g.edges, ∀ failed, weight g failed e = 1

/-- Some failed node leads to the node along edges. -/
def Downstream (g : DependencyGraph) (failed : Finset String) (v : String) : Prop :=
  ∃ f ∈ failed, Relation.ReflTransGen (Joins g) f v

theorem passesAll_of_strength {g : DependencyGraph} (hstrength : ∀ e ∈ g.edges,
    e.dependencyStrength.val = 1) (hgroup : ∀ e ∈ g.edges, e.substituteGroup = none) :
    PassesAll g := by
  intro e he failed
  rw [weight, hstrength e he, attenuation, attenuationWith, hgroup e he, one_mul]

/-- Every stored probability is one. -/
def Propagation.Certain (s : Propagation) : Prop := ∀ v, s.Impacted v → s.prob v = 1

section Spread
variable {g : DependencyGraph} {failed : Finset String}

theorem start_certain (failed : Finset String) : (Propagation.start failed).Certain := by
  intro v hv
  rw [Propagation.start_prob, if_pos ((Propagation.start_impacted failed v).mp hv)]

theorem raise_certain {s : Propagation} (h : s.Certain) (current target : String) :
    (s.raise current target 1).Certain := by
  intro v hv
  by_cases hvt : v = target
  · rw [hvt, Propagation.raise_prob_self]
  · rw [Propagation.raise_prob_ne _ hvt]
    exact h v (((Propagation.raise_impacted s current target v 1).mp hv).resolve_left hvt)

theorem pop_certain (hall : PassesAll g) {s : Propagation} {current : String}
    {rest : List String} (hq : s.queue = current :: rest) (hs : s.Consistent g failed)
    (h : s.Certain) : ((analyzeLoop g failed).pop s).Certain := by
  have hcurrent : s.prob current = 1 := h current (hs.wellFormed.queued current (by simp [hq]))
  have hone {s' : Propagation} {e : DependencyEdge} (he : e ∈ g.edges)
      (hsource : e.source = current) :
      (analyzeLoop g failed).contribution s current s' e = 1 := by
    rw [(analyzeLoop_fits g failed).contribution_eq s s' hsource, hall e he, mul_one]
    exact hcurrent
  refine Discipline.pop_induction hq (fun _ => Propagation.Certain) h
    (fun _ _ _ _ _ hs' _ => hs') fun done e todo s' hsplit hs' _ => ?_
  obtain ⟨he, hsource⟩ := (analyzeLoop_fits g failed).mem_of_split hsplit
  rw [hone he hsource, combine, sub_self, mul_zero, sub_zero, min_self]
  exact raise_certain hs' current e.target

theorem analyzeState_certain (hall : PassesAll g) (failed : Finset String) :
    (analyzeState g failed).Certain := by
  have hrun := Discipline.run_induction (d := analyzeLoop g failed)
    (fun s => s.Consistent g failed ∧ s.Certain) failed
    ⟨⟨Propagation.start_wellFormed g failed, fun e _ himp hnq => absurd
      ((mem_sortedSet failed _).mpr ((Propagation.start_impacted failed _).mp himp)) hnq⟩,
      start_certain failed⟩
    (fun s current rest hq hs => ⟨(analyzeLoop_fits g failed).pop_consistent hq hs.1,
      pop_certain hall hq hs.1 hs.2⟩) (g.fuel failed.card)
  exact hrun.2

theorem analyzeState_consistent (g : DependencyGraph) (failed : Finset String) :
    (analyzeState g failed).Consistent g failed :=
  (analyzeLoop_fits g failed).run_consistent _

theorem downstream_of_walk {path : List String} {v : String} (h : WalkFrom g failed path v) :
    Downstream g failed v := by
  obtain ⟨f, hf, hhead⟩ := h.starts
  obtain ⟨rest, rfl⟩ : ∃ rest, path = f :: rest := List.head?_eq_some_iff.mp hhead
  refine ⟨f, hf, List.relationReflTransGen_of_exists_isChain_cons rest h.chain ?_⟩
  have hlast := h.ends
  rw [List.getLast?_eq_some_getLast (List.cons_ne_nil f rest)] at hlast
  exact Option.some.inj hlast

/-- The stored nodes are those that the failed ones lead to. -/
theorem impacted_iff_downstream (hall : PassesAll g) (failed : Finset String) (v : String) :
    (analyzeState g failed).Impacted v ↔ Downstream g failed v := by
  have hconsistent := analyzeState_consistent g failed
  have hempty : (analyzeState g failed).queue = [] := (analyzeLoop_fits g failed).run_queue
  constructor
  · intro himp
    obtain ⟨path, -, hwalk⟩ := hconsistent.wellFormed.path v himp
    exact downstream_of_walk hwalk
  · rintro ⟨f, hf, hpath⟩
    induction hpath with
    | refl => simp [Propagation.Impacted, hconsistent.wellFormed.failedProb f hf]
    | tail _ hjoin ih =>
      obtain ⟨e, he, rfl, rfl⟩ := hjoin
      have hsettled := hconsistent.settled e he ih (by simp [hempty])
      rw [Propagation.Settled, analyzeState_certain hall failed _ ih, hall e he, one_mul]
        at hsettled
      have hsmall : tolerance < 1 := by norm_num [tolerance]
      exact Propagation.impacted_of_prob_pos _ (by linarith)

end Spread

end ContinuityOS.Graph
