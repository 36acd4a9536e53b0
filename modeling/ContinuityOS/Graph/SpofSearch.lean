import ContinuityOS.Graph.Steps

/-! # The single-point search follows the plain propagation

Until it finds a critical impact, the search for one candidate goes through the
states of the propagation without single-point search, started from that
candidate alone. It stops early exactly on an impact that the plain propagation
would keep.
-/
namespace ContinuityOS.Graph
open Library

/-- A node other than the candidate is critical and hit hard. -/
def CriticalImpact (g : DependencyGraph) (candidate : String) (prob : String → ℚ) : Prop :=
  ∃ v, v ≠ candidate ∧ 8 / 10 ≤ g.criticalityOf v ∧ 7 / 10 ≤ prob v

theorem CriticalImpact.mono {g : DependencyGraph} {candidate : String} {p q : String → ℚ}
    (h : CriticalImpact g candidate p) (hpq : ∀ v, p v ≤ q v) : CriticalImpact g candidate q := by
  obtain ⟨v, hv, hc, hp⟩ := h
  exact ⟨v, hv, hc, hp.trans (hpq v)⟩

namespace SpofSearch
variable (g : DependencyGraph) (candidate : String)

/-- The search state of a propagation state before anything critical is found. -/
def ofPropagation (s : Propagation) : SpofSearch := ⟨s.probability, s.queue, false⟩

theorem start_eq : start candidate = ofPropagation (Propagation.start {candidate}) := rfl

theorem takeEdge_found {s : SpofSearch} (h : s.foundSpof = true) (curr : String)
    (e : DependencyEdge) : takeEdge g candidate curr s e = s := by simp [takeEdge, h]

/-- One edge of the search: the plain step without a new critical impact, or a find that the
plain step exhibits. -/
theorem takeEdge_ofPropagation (s₀ s : Propagation) (curr : String) (e : DependencyEdge) :
    (takeEdge g candidate curr (ofPropagation s) e =
        ofPropagation ((withoutSpofLoop g {candidate}).takeEdge s₀ curr s e) ∧
      (CriticalImpact g candidate ((withoutSpofLoop g {candidate}).takeEdge s₀ curr s e).prob →
        CriticalImpact g candidate s.prob)) ∨
      ((takeEdge g candidate curr (ofPropagation s) e).foundSpof = true ∧
        CriticalImpact g candidate
          ((withoutSpofLoop g {candidate}).takeEdge s₀ curr s e).prob) := by
  have hstep : (withoutSpofLoop g {candidate}).takeEdge s₀ curr s e = s.relax curr
      (s.prob curr * e.dependencyStrength.val * spofAttenuation g candidate curr e) e := by
    rw [spofAttenuation_eq]
    rfl
  rw [hstep, Propagation.relax_eq]
  set q := s.prob curr * e.dependencyStrength.val * spofAttenuation g candidate curr e with hqdef
  have htake : takeEdge g candidate curr (ofPropagation s) e =
      if s.prob e.target + tolerance < combine (s.prob e.target) q then
        if e.target ≠ candidate ∧ g.criticalityOf e.target ≥ 8 / 10 ∧
            min 1 (combine (s.prob e.target) q) ≥ 7 / 10 then
          ⟨s.probability.set e.target (min 1 (combine (s.prob e.target) q)), s.queue, true⟩
        else ofPropagation (s.raise curr e.target (min 1 (combine (s.prob e.target) q)))
      else ofPropagation s := rfl
  rw [htake]
  split_ifs with hrise hcrit
  · right
    refine ⟨rfl, e.target, hcrit.1, hcrit.2.1, ?_⟩
    rw [Propagation.raise_prob_self]
    exact hcrit.2.2
  · refine Or.inl ⟨rfl, ?_⟩
    rintro ⟨v, hne, hc, hp⟩
    by_cases hv : v = e.target
    · rw [hv, Propagation.raise_prob_self] at hp
      exact absurd ⟨hv ▸ hne, hv ▸ hc, hp⟩ hcrit
    · rw [Propagation.raise_prob_ne _ hv] at hp
      exact ⟨v, hne, hc, hp⟩
  · exact Or.inl ⟨rfl, id⟩

theorem foldl_found (curr : String) (l : List DependencyEdge) {s : SpofSearch}
    (h : s.foundSpof = true) : l.foldl (takeEdge g candidate curr) s = s := by
  induction l with
  | nil => rfl
  | cons e l ih => rw [List.foldl_cons, takeEdge_found g candidate h, ih]

theorem foldl_ofPropagation {s₀ s : Propagation} (hs₀ : s₀.Bounded) (hs : s.Bounded)
    (curr : String) (l : List DependencyEdge) :
    (l.foldl (takeEdge g candidate curr) (ofPropagation s) =
        ofPropagation (l.foldl ((withoutSpofLoop g {candidate}).takeEdge s₀ curr) s) ∧
      (CriticalImpact g candidate
        (l.foldl ((withoutSpofLoop g {candidate}).takeEdge s₀ curr) s).prob →
          CriticalImpact g candidate s.prob)) ∨
      ((l.foldl (takeEdge g candidate curr) (ofPropagation s)).foundSpof = true ∧
        CriticalImpact g candidate
          (l.foldl ((withoutSpofLoop g {candidate}).takeEdge s₀ curr) s).prob) := by
  induction l generalizing s with
  | nil => exact Or.inl ⟨rfl, id⟩
  | cons e l ih =>
    simp only [List.foldl_cons]
    have hf := withoutSpofLoop_fits g {candidate}
    have hb := (hf.takeEdge_mono hs₀ hs curr e).1
    rcases takeEdge_ofPropagation g candidate s₀ s curr e with ⟨h, hnew⟩ | ⟨hfound, hcrit⟩
    · rw [h]
      rcases ih hb with ⟨hrest, hback⟩ | hrest
      · exact Or.inl ⟨hrest, fun hc => hnew (hback hc)⟩
      · exact Or.inr hrest
    · right
      rw [foldl_found g candidate curr l hfound]
      exact ⟨hfound, hcrit.mono (hf.foldl_mono hs₀ hb curr l).2⟩

/-- One pass of the search: the plain pass without a new critical impact, or a find that the
plain pass exhibits. -/
theorem pop_ofPropagation (s : Propagation) (hs : s.Bounded) :
    (pop g candidate (ofPropagation s) =
        ofPropagation ((withoutSpofLoop g {candidate}).pop s) ∧
      (CriticalImpact g candidate ((withoutSpofLoop g {candidate}).pop s).prob →
        CriticalImpact g candidate s.prob)) ∨
      ((pop g candidate (ofPropagation s)).foundSpof = true ∧
        CriticalImpact g candidate ((withoutSpofLoop g {candidate}).pop s).prob) := by
  unfold pop Discipline.pop
  cases hq : s.queue with
  | nil =>
    left
    simp [ofPropagation, hq]
  | cons curr rest =>
    simp only [ofPropagation, hq]
    exact foldl_ofPropagation g candidate hs (s := { s with queue := rest }) hs curr (g.outgoing curr)

/-- The search ends no later than the plain propagation. -/
theorem exists_exitsAfter_ofPropagation {n : ℕ} {s : Propagation} (hs : s.Bounded)
    (h : ExitsAfter Propagation.pending (withoutSpofLoop g {candidate}).pop s n) :
    ∃ m ≤ n, ExitsAfter pending (pop g candidate) (ofPropagation s) m := by
  induction n generalizing s with
  | zero =>
    have hq : s.queue = [] := s.not_pending_iff.mp h.2
    exact ⟨0, le_rfl, fun k hk => absurd hk (Nat.not_lt_zero k), by
      simp [pending, ofPropagation, hq]⟩
  | succ n ih =>
    obtain ⟨hc, ht⟩ := h.tail
    have hpend : pending (ofPropagation s) = true := by
      simpa [pending, ofPropagation, Propagation.pending] using hc
    rcases pop_ofPropagation g candidate s hs with ⟨hpop, _⟩ | ⟨hfound, _⟩
    · obtain ⟨m, hm, he⟩ := ih ((withoutSpofLoop_fits g {candidate}).pop_mono hs).1 ht
      exact ⟨m + 1, Nat.succ_le_succ hm, ExitsAfter.succ hpend (hpop ▸ he)⟩
    · refine ⟨1, Nat.succ_le_succ (Nat.zero_le n), ExitsAfter.succ hpend
        ⟨fun k hk => absurd hk (Nat.not_lt_zero k), ?_⟩⟩
      simp [pending, hfound]

theorem not_criticalImpact_start :
    ¬ CriticalImpact g candidate (Propagation.start {candidate}).prob := by
  rintro ⟨v, hne, -, hp⟩
  rw [Propagation.start_prob, if_neg (by simpa using hne)] at hp
  norm_num at hp

theorem criticalImpact_iterate {s : Propagation} (hs : s.Bounded)
    (h : CriticalImpact g candidate s.prob) (n : ℕ) :
    CriticalImpact g candidate ((withoutSpofLoop g {candidate}).pop^[n] s).prob := by
  induction n generalizing s with
  | zero => exact h
  | succ n ih =>
    obtain ⟨hb, hmono⟩ := (withoutSpofLoop_fits g {candidate}).pop_mono hs
    rw [Function.iterate_succ_apply]
    exact ih hb (h.mono hmono)

/-- The search finds something exactly when the plain propagation ends with a critical impact. -/
theorem whileLoop_found_iff {n fuel : ℕ} {s : Propagation} (hs : s.Bounded)
    (hstart : ¬ CriticalImpact g candidate s.prob)
    (h : ExitsAfter Propagation.pending (withoutSpofLoop g {candidate}).pop s n) (hn : n ≤ fuel) :
    (whileLoop pending (pop g candidate) fuel (ofPropagation s)).foundSpof = true ↔
      CriticalImpact g candidate ((withoutSpofLoop g {candidate}).pop^[n] s).prob := by
  induction n generalizing s fuel with
  | zero =>
    have hq : s.queue = [] := s.not_pending_iff.mp h.2
    have hstop : ∀ fuel, whileLoop pending (pop g candidate) fuel (ofPropagation s) =
        ofPropagation s := by
      intro fuel
      cases fuel with
      | zero => rfl
      | succ fuel => simp [whileLoop, pending, ofPropagation, hq]
    rw [hstop]
    exact ⟨fun hfalse => absurd hfalse (by simp [ofPropagation]), fun hc => absurd hc hstart⟩
  | succ n ih =>
    obtain ⟨hc, ht⟩ := h.tail
    obtain ⟨fuel, rfl⟩ : ∃ k, fuel = k + 1 := ⟨fuel - 1, by omega⟩
    have hpend : pending (ofPropagation s) = true := by
      simpa [pending, ofPropagation, Propagation.pending] using hc
    have hb := ((withoutSpofLoop_fits g {candidate}).pop_mono hs).1
    rw [whileLoop, if_pos hpend, Function.iterate_succ_apply]
    rcases pop_ofPropagation g candidate s hs with ⟨hpop, hnew⟩ | ⟨hfound, hcrit⟩
    · rw [hpop]
      exact ih hb (fun hcrit => hstart (hnew hcrit)) ht (Nat.le_of_succ_le_succ hn)
    · have hstop : whileLoop pending (pop g candidate) fuel (pop g candidate (ofPropagation s)) =
          pop g candidate (ofPropagation s) := by
        cases fuel with
        | zero => rfl
        | succ fuel => simp [whileLoop, pending, hfound]
      rw [hstop]
      exact ⟨fun _ => criticalImpact_iterate g candidate hb hcrit n, fun _ => hfound⟩

end SpofSearch

end ContinuityOS.Graph
