import ContinuityOS.Graph.Agreement
import ContinuityOS.Graph.Deliveries

/-! # The blast radius

`calculate_blast_radius` repeats the propagation of `analyze` with the edges in list
order and the popped node's probability reread for every edge. The two agree where
the order of delivery is the same, and where no edge delivers twice and the tolerance
cuts nothing off that counts in the other run.
-/
namespace ContinuityOS.Graph
open Library

/-- The effective edges of a node are listed by target, and one back to itself comes last. -/
structure InTargetOrder (g : DependencyGraph) (failed : Finset String) (u : String) : Prop where
  sorted : ((g.outgoing u).filter fun e => Effective failed e).Pairwise
    fun e e' => e.target ≤ e'.target
  selfLast : ∀ before e after, ((g.outgoing u).filter fun e => Effective failed e) =
    before ++ e :: after → e.target = u → after = []

section Passes
variable {g : DependencyGraph} {failed : Finset String}

theorem takeEdge_eq_of_prob {s s' : Propagation} {current : String}
    (h : s'.prob current = s.prob current) (e : DependencyEdge) :
    (withoutSpofLoop g failed).takeEdge s current s' e =
      (analyzeLoop g failed).takeEdge s current s' e := by
  change s'.relax current (s'.prob current * e.dependencyStrength.val *
    attenuation g failed current e) e = s'.relax current (s.prob current *
      e.dependencyStrength.val * attenuation g failed current e) e
  rw [h]

theorem takeEdge_prob_of_ne (d : Discipline) (s s' : Propagation) {current v : String}
    {e : DependencyEdge} (h : e.target ≠ v) : (d.takeEdge s current s' e).prob v = s'.prob v := by
  change (s'.relax current (d.contribution s current s' e) e).prob v = s'.prob v
  rw [Propagation.relax_eq]
  split_ifs
  · exact Propagation.raise_prob_ne _ (Ne.symm h) _
  · rfl

/-- Rereading changes nothing as long as the popped node itself is only raised last. -/
theorem foldl_reread_eq {s s' : Propagation} {current : String} (l : List DependencyEdge)
    (hself : ∀ before e after, l = before ++ e :: after → e.target = current → after = [])
    (h : s'.prob current = s.prob current) :
    l.foldl ((withoutSpofLoop g failed).takeEdge s current) s' =
      l.foldl ((analyzeLoop g failed).takeEdge s current) s' := by
  induction l generalizing s' with
  | nil => rfl
  | cons e l ih =>
    rw [List.foldl_cons, List.foldl_cons, takeEdge_eq_of_prob h e]
    by_cases ht : e.target = current
    · rw [hself [] e l rfl ht]
      rfl
    · apply ih
      · intro before e' after hsplit
        exact hself (e :: before) e' after (by rw [hsplit]; rfl)
      · rw [takeEdge_prob_of_ne _ _ _ ht, h]

theorem samePass_of_inTargetOrder {u : String} (h : InTargetOrder g failed u) :
    SamePass (analyzeLoop g failed) (withoutSpofLoop g failed) failed u := by
  intro s rest _
  have hlist : ((analyzeLoop g failed).edgesOf u).filter (fun e => Effective failed e) =
      (g.outgoing u).filter fun e => Effective failed e := filter_sortedBy _ _ _ h.sorted
  have hprob : Propagation.prob { s with queue := rest } u = s.prob u := rfl
  rw [hlist]
  exact (foldl_reread_eq _ h.selfLast hprob).symm

end Passes

theorem calculateBlastRadius_get? (g : DependencyGraph) (failed : Finset String) (v : String) :
    (calculateBlastRadius g failed).get? v = (withoutSpofState g failed).probability.get? v := by
  have hcopy := Dict.get?_foldl_set_entries (withoutSpofState g failed).probability.entries
    (withoutSpofState g failed).probability.nodup Dict.empty v
  rw [Dict.get?_empty, Option.or_none] at hcopy
  rw [calculateBlastRadius, analyzeWithoutSpof, List.foldl_map]
  exact hcopy

/-- Runs that deliver alike end with the same bindings. -/
theorem get?_eq_of_interchangeable {g : DependencyGraph} {failed : Finset String}
    (h : (analyzeLog g failed).Interchangeable g (withoutSpofLog g failed)) (v : String) :
    (withoutSpofState g failed).probability.get? v =
      (analyzeState g failed).probability.get? v := by
  have hanalyze := analyzeLoop_fits g failed
  have hwithout := withoutSpofLoop_fits g failed
  have hprob : (analyzeState g failed).prob v = (withoutSpofState g failed).prob v := by
    rw [← analyzeLog_state, ← withoutSpofLog_state]
    apply le_antisymm
    · exact runLogged_prob_le hanalyze hwithout subset_rfl (withoutSpofLog_stopped g failed)
        (withoutSpofLog_queue g failed) h.once h.kept v
    · exact runLogged_prob_le hwithout hanalyze subset_rfl (analyzeLog_stopped g failed)
        (analyzeLog_queue g failed) h.once' h.kept' v
  have hanalyzed : (analyzeState g failed).WellFormed g failed :=
    (hanalyze.run_consistent _).wellFormed
  have hradius : (withoutSpofState g failed).WellFormed g failed :=
    (hwithout.run_consistent _).wellFormed
  rw [hanalyzed.get?_eq, hradius.get?_eq, hprob]

/-- The blast radius is the map that `analyze` builds, where the two runs deliver alike or take
the edges in the same order. -/
theorem calculateBlastRadius_eq_analyze (g : DependencyGraph) (failed : Finset String)
    (h : (analyzeLog g failed).Interchangeable g (withoutSpofLog g failed) ∨
      ∀ u, Reached g failed u → InTargetOrder g failed u) (v : String) :
    (calculateBlastRadius g failed).get? v = (analyzeState g failed).probability.get? v := by
  rw [calculateBlastRadius_get?]
  rcases h with hsame | horder
  · exact get?_eq_of_interchangeable hsame v
  · have hrun := run_congr (analyzeLoop_fits g failed) (withoutSpofLoop_fits g failed)
      (fun u hu => samePass_of_inTargetOrder (horder u hu)) (g.fuel failed.card)
    rw [analyzeState, withoutSpofState, hrun]

/-- A relay with a certain and an uncertain feed, and two systems behind it. -/
def relayGraph : DependencyGraph where
  graphId := "relay"
  nodes := [{ nodeId := "a", name := "A", nodeType := .power },
    { nodeId := "b", name := "B", nodeType := .power },
    { nodeId := "c", name := "C", nodeType := .satcom },
    { nodeId := "d", name := "D", nodeType := .port },
    { nodeId := "y", name := "Y", nodeType := .port }]
  edges := [{ source := "a", target := "c" },
    { source := "b", target := "c", dependencyStrength := Score.half },
    { source := "c", target := "y", dependencyStrength := Score.half },
    { source := "c", target := "d", dependencyStrength := Score.half }]
  uniqueIds := by decide
  knownEnds := by decide

/-- The two loops take the edges of the relay in different orders. -/
theorem calculateBlastRadius_eq_analyze_relay :
    (calculateBlastRadius relayGraph {"a", "b"}).get? "d" = some (1 / 2) ∧
      (calculateBlastRadius relayGraph {"a", "b"}).get? "d" =
        (analyzeState relayGraph {"a", "b"}).probability.get? "d" :=
  ⟨by with_unfolding_all decide, calculateBlastRadius_eq_analyze relayGraph {"a", "b"}
    (Or.inl (by with_unfolding_all decide)) "d"⟩

/-- A node with two feeds that passes on, its direct feed listed before the detour. -/
def detourGraph : DependencyGraph where
  graphId := "detour"
  nodes := [{ nodeId := "a", name := "A", nodeType := .power },
    { nodeId := "b", name := "B", nodeType := .power },
    { nodeId := "c", name := "C", nodeType := .port },
    { nodeId := "d", name := "D", nodeType := .port }]
  edges := [{ source := "a", target := "c", dependencyStrength := Score.half },
    { source := "a", target := "b", dependencyStrength := Score.half },
    { source := "b", target := "c", dependencyStrength := Score.half },
    { source := "c", target := "d", dependencyStrength := Score.half }]
  uniqueIds := by decide
  knownEnds := by decide

theorem calculateBlastRadius_ne_detour :
    (analyzeState detourGraph {"a"}).probability.get? "d" = some (135 / 256) ∧
      (calculateBlastRadius detourGraph {"a"}).get? "d" = some (31 / 64) ∧
      ¬ ∀ v, (calculateBlastRadius detourGraph {"a"}).get? v =
        (analyzeState detourGraph {"a"}).probability.get? v := by
  have hanalyze : (analyzeState detourGraph {"a"}).probability.get? "d" = some (135 / 256) := by
    with_unfolding_all decide
  have hradius : (calculateBlastRadius detourGraph {"a"}).get? "d" = some (31 / 64) := by
    with_unfolding_all decide
  refine ⟨hanalyze, hradius, fun h => ?_⟩
  have hd := h "d"
  rw [hanalyze, hradius] at hd
  exact absurd hd (by with_unfolding_all decide)

end ContinuityOS.Graph
