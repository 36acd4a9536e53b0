import ContinuityOS.Graph.Effective

/-! # Runs with a record

A record of what a loop does, kept beside its state: the nodes it pops, the edges that raise their
target, and the edges whose last delivery was cut off by the tolerance. The record is read by no
step. The search for single points is the run that stops on the first critical raise.
-/
namespace ContinuityOS.Graph
open Library

structure RunLog where
  state : Propagation
  popped : List String := []
  raised : List DependencyEdge := []
  cutOff : List DependencyEdge := []
  stopped : Bool := false

namespace RunLog

def start (failed : Finset String) : RunLog := { state := Propagation.start failed }

/-- A node leaves the queue; its edges are about to be taken again. -/
def popHead (l : RunLog) (current : String) (rest : List String) : RunLog :=
  { l with
    state := { l.state with queue := rest }
    popped := l.popped ++ [current]
    cutOff := l.cutOff.filter fun e => e.source ≠ current }

def raise (l : RunLog) (current : String) (e : DependencyEdge) (value : ℚ) (stopped : Bool) :
    RunLog :=
  { l with
    state := l.state.raise current e.target value
    raised := l.raised ++ [e]
    stopped := stopped }

def drop (l : RunLog) (e : DependencyEdge) : RunLog := { l with cutOff := l.cutOff ++ [e] }

def pending (l : RunLog) : Bool := l.state.pending && !l.stopped

end RunLog

/-- A raise of a node to a value that ends the run. -/
abbrev Stop := String → ℚ → Bool

def neverStops : Stop := fun _ _ => false

namespace Discipline
variable (d : Discipline) (stops : Stop)

def takeLogged (s : Propagation) (current : String) (l : RunLog) (e : DependencyEdge) : RunLog :=
  let existing := l.state.prob e.target
  let combined := combine existing (d.contribution s current l.state e)
  if l.stopped then l
  else if existing + tolerance < combined then
    l.raise current e (min 1 combined) (stops e.target (min 1 combined))
  else if existing < combined then l.drop e
  else l

def popLogged (l : RunLog) : RunLog :=
  match l.state.queue with
  | [] => l
  | current :: rest =>
    (d.edgesOf current).foldl (d.takeLogged stops l.state current) (l.popHead current rest)

def runLogged (fuel : ℕ) (failed : Finset String) : RunLog :=
  whileLoop RunLog.pending (d.popLogged stops) fuel (RunLog.start failed)

variable {d} {stops}

theorem popLogged_eq {l : RunLog} {current : String} {rest : List String}
    (hq : l.state.queue = current :: rest) : d.popLogged stops l =
      (d.edgesOf current).foldl (d.takeLogged stops l.state current) (l.popHead current rest) := by
  rw [popLogged, hq]

/-- One pass, edge by edge: the rule that every invariant of the record goes through. -/
theorem popLogged_induction {l : RunLog} {current : String} {rest : List String}
    (hq : l.state.queue = current :: rest) (inv : List DependencyEdge → RunLog → Prop)
    (hstart : inv [] (l.popHead current rest))
    (hstopped : ∀ done e l', inv done l' → l'.stopped = true → inv (done ++ [e]) l')
    (hkeep : ∀ done e todo l', d.edgesOf current = done ++ e :: todo → inv done l' →
      combine (l'.state.prob e.target) (d.contribution l.state current l'.state e) ≤
        l'.state.prob e.target → inv (done ++ [e]) l')
    (hdrop : ∀ done e todo l', d.edgesOf current = done ++ e :: todo → inv done l' →
      l'.state.prob e.target <
        combine (l'.state.prob e.target) (d.contribution l.state current l'.state e) →
      combine (l'.state.prob e.target) (d.contribution l.state current l'.state e) ≤
        l'.state.prob e.target + tolerance → inv (done ++ [e]) (l'.drop e))
    (hraise : ∀ done e todo l', d.edgesOf current = done ++ e :: todo → inv done l' →
      l'.stopped = false → l'.state.prob e.target + tolerance <
        combine (l'.state.prob e.target) (d.contribution l.state current l'.state e) →
      inv (done ++ [e]) (l'.raise current e
        (min 1 (combine (l'.state.prob e.target) (d.contribution l.state current l'.state e)))
        (stops e.target (min 1 (combine (l'.state.prob e.target)
          (d.contribution l.state current l'.state e)))))) :
    inv (d.edgesOf current) (d.popLogged stops l) := by
  have hfold (todo done : List DependencyEdge) (l' : RunLog)
      (hsplit : d.edgesOf current = done ++ todo) (hinv : inv done l') :
      inv (d.edgesOf current) (todo.foldl (d.takeLogged stops l.state current) l') := by
    induction todo generalizing done l' with
    | nil =>
      rw [hsplit, List.append_nil]
      exact hinv
    | cons e todo ih =>
      refine ih (done ++ [e]) (d.takeLogged stops l.state current l' e) (by simpa using hsplit) ?_
      rw [takeLogged]
      split_ifs with hstop hrise hlift
      · exact hstopped done e l' hinv hstop
      · exact hraise done e todo l' hsplit hinv (Bool.eq_false_iff.mpr hstop) hrise
      · exact hdrop done e todo l' hsplit hinv hlift (not_lt.mp hrise)
      · exact hkeep done e todo l' hsplit hinv (not_lt.mp hlift)
  rw [popLogged_eq hq]
  exact hfold _ [] _ rfl hstart

theorem runLogged_induction (inv : RunLog → Prop) (failed : Finset String)
    (hstart : inv (RunLog.start failed))
    (hpop : ∀ l current rest, l.state.queue = current :: rest → inv l → inv (d.popLogged stops l))
    (fuel : ℕ) : inv (d.runLogged stops fuel failed) := by
  apply whileLoop_inv inv _ _ _ hstart
  intro l hl hp
  have hpending : l.state.pending = true := (Bool.and_eq_true_iff.mp hp).1
  obtain ⟨current, rest, hq⟩ := l.state.pending_iff.mp hpending
  exact hpop l current rest hq hl

/-- A run that never stops early goes through the states of the loop. -/
theorem runLogged_never (fuel : ℕ) (failed : Finset String) :
    (d.runLogged neverStops fuel failed).state = d.run fuel failed ∧
      (d.runLogged neverStops fuel failed).stopped = false := by
  have htake (s : Propagation) (current : String) (l : RunLog) (e : DependencyEdge)
      (hl : l.stopped = false) :
      (d.takeLogged neverStops s current l e).state = d.takeEdge s current l.state e ∧
        (d.takeLogged neverStops s current l e).stopped = false := by
    have hedge : d.takeEdge s current l.state e =
        l.state.relax current (d.contribution s current l.state e) e := rfl
    rw [hedge, Propagation.relax_eq, takeLogged]
    simp only [hl, Bool.false_eq_true, if_false]
    split_ifs
    · exact ⟨rfl, rfl⟩
    · exact ⟨rfl, hl⟩
    · exact ⟨rfl, hl⟩
  have hfold (s : Propagation) (current : String) (edges : List DependencyEdge) (l : RunLog)
      (hl : l.stopped = false) :
      (edges.foldl (d.takeLogged neverStops s current) l).state =
          edges.foldl (d.takeEdge s current) l.state ∧
        (edges.foldl (d.takeLogged neverStops s current) l).stopped = false := by
    induction edges generalizing l with
    | nil => exact ⟨rfl, hl⟩
    | cons e edges ih =>
      obtain ⟨hstate, hstopped⟩ := htake s current l e hl
      rw [List.foldl_cons, List.foldl_cons, ← hstate]
      exact ih _ hstopped
  refine whileLoop_rel (fun l s => l.state = s ∧ l.stopped = false) ?_ ?_ fuel
    (RunLog.start failed) (Propagation.start failed) ⟨rfl, rfl⟩
  · rintro l s ⟨rfl, hl⟩
    simp [RunLog.pending, hl]
  · rintro l s ⟨rfl, hl⟩ hp
    obtain ⟨current, rest, hq⟩ := l.state.pending_iff.mp (Bool.and_eq_true_iff.mp hp).1
    rw [popLogged_eq hq, pop, hq]
    exact hfold l.state current _ (l.popHead current rest) hl

end Discipline

/-- The recorded runs of the engine's loops. -/
def analyzeLog (g : DependencyGraph) (failed : Finset String) : RunLog :=
  (analyzeLoop g failed).runLogged neverStops (g.fuel failed.card) failed

def withoutSpofLog (g : DependencyGraph) (failed : Finset String) : RunLog :=
  (withoutSpofLoop g failed).runLogged neverStops (g.fuel failed.card) failed

theorem analyzeLog_state (g : DependencyGraph) (failed : Finset String) :
    (analyzeLog g failed).state = analyzeState g failed :=
  (Discipline.runLogged_never _ _).1

theorem withoutSpofLog_state (g : DependencyGraph) (failed : Finset String) :
    (withoutSpofLog g failed).state = withoutSpofState g failed :=
  (Discipline.runLogged_never _ _).1

theorem analyzeLog_stopped (g : DependencyGraph) (failed : Finset String) :
    (analyzeLog g failed).stopped = false := (Discipline.runLogged_never _ _).2

theorem withoutSpofLog_stopped (g : DependencyGraph) (failed : Finset String) :
    (withoutSpofLog g failed).stopped = false := (Discipline.runLogged_never _ _).2

theorem analyzeLog_queue (g : DependencyGraph) (failed : Finset String) :
    (analyzeLog g failed).state.queue = [] := by
  rw [analyzeLog_state]
  exact (analyzeLoop_fits g failed).run_queue

theorem withoutSpofLog_queue (g : DependencyGraph) (failed : Finset String) :
    (withoutSpofLog g failed).state.queue = [] := by
  rw [withoutSpofLog_state]
  exact (withoutSpofLoop_fits g failed).run_queue

section Search
variable (g : DependencyGraph) (candidate : String)

/-- The raise that ends the search for a candidate. -/
def criticalRaise : Stop := fun target value =>
  target ≠ candidate ∧ g.criticalityOf target ≥ 8 / 10 ∧ value ≥ 7 / 10

def searchLog : RunLog :=
  (withoutSpofLoop g {candidate}).runLogged (criticalRaise g candidate) (g.fuel 1) {candidate}

/-- The search and its record agree as long as nothing is found. -/
def Records (s : SpofSearch) (l : RunLog) : Prop :=
  s.foundSpof = l.stopped ∧
    (l.stopped = false → s = SpofSearch.ofPropagation l.state)

theorem pending_ofPropagation (s : Propagation) :
    (SpofSearch.ofPropagation s).pending = s.pending := by
  simp [SpofSearch.pending, SpofSearch.ofPropagation, Propagation.pending]

theorem records_takeEdge {s : SpofSearch} {l : RunLog} (h : Records s l) (s₀ : Propagation)
    (curr : String) (e : DependencyEdge) :
    Records (SpofSearch.takeEdge g candidate curr s e)
      ((withoutSpofLoop g {candidate}).takeLogged (criticalRaise g candidate) s₀ curr l e) := by
  by_cases hstopped : l.stopped = true
  · have hfound : s.foundSpof = true := h.1.trans hstopped
    rw [SpofSearch.takeEdge_found g candidate hfound, Discipline.takeLogged]
    simpa only [hstopped, if_true] using h
  · have hgoing : l.stopped = false := Bool.eq_false_iff.mpr hstopped
    have hs : s = SpofSearch.ofPropagation l.state := h.2 hgoing
    have hcontribution : (withoutSpofLoop g {candidate}).contribution s₀ curr l.state e =
        l.state.prob curr * e.dependencyStrength.val * spofAttenuation g candidate curr e := by
      rw [spofAttenuation_eq]
      rfl
    set combined := combine (l.state.prob e.target) (l.state.prob curr *
      e.dependencyStrength.val * spofAttenuation g candidate curr e) with hcombined
    have htake : SpofSearch.takeEdge g candidate curr s e =
        if l.state.prob e.target + tolerance < combined then
          if e.target ≠ candidate ∧ g.criticalityOf e.target ≥ 8 / 10 ∧ min 1 combined ≥ 7 / 10 then
            ⟨l.state.probability.set e.target (min 1 combined), l.state.queue, true⟩
          else SpofSearch.ofPropagation (l.state.raise curr e.target (min 1 combined))
        else SpofSearch.ofPropagation l.state := by
      rw [hs]
      rfl
    rw [htake, Discipline.takeLogged, hcontribution, ← hcombined]
    simp only [hgoing, Bool.false_eq_true, if_false]
    split_ifs with hrise hcritical hlift
    · refine ⟨?_, fun hcontinues => ?_⟩
      · exact (decide_eq_true hcritical).symm
      · exact absurd hcritical (of_decide_eq_false hcontinues)
    · exact ⟨(decide_eq_false hcritical).symm, fun _ => rfl⟩
    · exact ⟨hgoing.symm, fun _ => rfl⟩
    · exact ⟨hgoing.symm, fun _ => rfl⟩

theorem records_searchLog : Records (SpofSearch.run g (g.fuel 1) candidate) (searchLog g candidate) := by
  have hfold (s₀ : Propagation) (curr : String) (edges : List DependencyEdge) (s : SpofSearch)
      (l : RunLog) (h : Records s l) :
      Records (edges.foldl (SpofSearch.takeEdge g candidate curr) s)
        (edges.foldl ((withoutSpofLoop g {candidate}).takeLogged (criticalRaise g candidate) s₀ curr)
          l) := by
    induction edges generalizing s l with
    | nil => exact h
    | cons e edges ih => exact ih _ _ (records_takeEdge g candidate h s₀ curr e)
  have hpending (s : SpofSearch) (l : RunLog) (h : Records s l) : s.pending = l.pending := by
    cases hstopped : l.stopped with
    | true => simp [SpofSearch.pending, RunLog.pending, h.1, hstopped]
    | false =>
      rw [h.2 hstopped, pending_ofPropagation, RunLog.pending, hstopped]
      simp
  refine whileLoop_rel Records hpending ?_ (g.fuel 1) _ _ ⟨rfl, fun _ => rfl⟩
  intro s l h hp
  have hp' : l.pending = true := (hpending s l h).symm.trans hp
  obtain ⟨hrunning, hgoing⟩ := Bool.and_eq_true_iff.mp hp'
  have hs : s = SpofSearch.ofPropagation l.state := h.2 (by simpa using hgoing)
  obtain ⟨current, rest, hq⟩ := l.state.pending_iff.mp hrunning
  have hqueue : s.queue = current :: rest := by rw [hs]; exact hq
  rw [SpofSearch.pop, hqueue, Discipline.popLogged_eq hq]
  refine hfold l.state current (g.outgoing current) { s with queue := rest } _ ⟨h.1, fun _ => ?_⟩
  rw [hs]
  rfl

/-- The record of the search says whether something was found, and ends with an empty queue if
nothing was. -/
theorem searchLog_stopped :
    (searchLog g candidate).stopped = (SpofSearch.run g (g.fuel 1) candidate).foundSpof :=
  (records_searchLog g candidate).1.symm

theorem searchLog_queue (h : (searchLog g candidate).stopped = false) :
    (searchLog g candidate).state.queue = [] := by
  have hrecords := records_searchLog g candidate
  obtain ⟨n, hn, hexits⟩ := (propagation_terminates g ∅).2.2 candidate
  have hdone : (SpofSearch.run g (g.fuel 1) candidate).pending = false := by
    rw [SpofSearch.run, whileLoop_of_exitsAfter hexits hn]
    exact hexits.2
  rw [hrecords.2 h, pending_ofPropagation] at hdone
  exact (Propagation.not_pending_iff _).mp hdone

/-- The search stops exactly when its state shows a critical impact. -/
theorem searchLog_criticalImpact_iff : (searchLog g candidate).stopped = true ↔
    CriticalImpact g candidate (searchLog g candidate).state.prob := by
  have hraise (l : RunLog) (current : String) (e : DependencyEdge) (value : ℚ)
      (h : ¬ CriticalImpact g candidate l.state.prob) :
      criticalRaise g candidate e.target value = true ↔
        CriticalImpact g candidate (l.state.raise current e.target value).prob := by
    constructor
    · intro hcritical
      obtain ⟨hne, hc, hp⟩ := of_decide_eq_true hcritical
      exact ⟨e.target, hne, hc, (Propagation.raise_prob_self l.state current e.target value).symm ▸ hp⟩
    · rintro ⟨v, hne, hc, hp⟩
      by_cases hv : v = e.target
      · rw [hv, Propagation.raise_prob_self] at hp
        exact decide_eq_true ⟨hv ▸ hne, hv ▸ hc, hp⟩
      · rw [Propagation.raise_prob_ne _ hv] at hp
        exact absurd ⟨v, hne, hc, hp⟩ h
  have hgoing {l : RunLog} (h : l.stopped = true ↔ CriticalImpact g candidate l.state.prob)
      (hl : l.stopped = false) : ¬ CriticalImpact g candidate l.state.prob := by
    rw [← h, hl]
    simp
  apply Discipline.runLogged_induction
    (fun l => l.stopped = true ↔ CriticalImpact g candidate l.state.prob)
  · exact iff_of_false (by simp [RunLog.start]) (SpofSearch.not_criticalImpact_start g candidate)
  · intro l current rest hq hl
    exact Discipline.popLogged_induction hq
      (fun _ l' => l'.stopped = true ↔ CriticalImpact g candidate l'.state.prob) hl
      (fun _ _ _ h _ => h) (fun _ _ _ _ _ h _ => h) (fun _ _ _ _ _ h _ _ => h)
      (fun _ e _ l' _ h hrunning _ => hraise l' current e _ (hgoing h hrunning))

end Search

end ContinuityOS.Graph
