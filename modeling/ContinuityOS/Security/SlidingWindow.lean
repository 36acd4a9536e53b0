import ContinuityOS.Library.SlidingWindow
import ContinuityOS.Security.RateLimiter

/-! # The rate limit as a sliding window

While there is room for every key, the queue of a key is what a sliding window over the checks of
that key alone would keep, so the keys do not disturb each other.
-/
namespace ContinuityOS.Security
open Library

deriving instance DecidableEq for LimiterError

namespace FixedWindowLimiter

def run (s : FixedWindowLimiter) (checks : List Check) : FixedWindowLimiter :=
  checks.foldl (fun s c => (s.check c).2) s

/-- What a check is told after the checks before it. -/
def outcome (maxKeys : ℕ) (before : List Check) (c : Check) : Except LimiterError (Option ℤ) :=
  (((empty maxKeys).run before).check c).1

def isAccepted : Except LimiterError (Option ℤ) → Bool
  | .ok none => true
  | _ => false

/-- When the checks of a key were accepted. -/
def acceptedTimes (k : String) : FixedWindowLimiter → List Check → List ℚ
  | _, [] => []
  | s, c :: checks => (if c.key = k ∧ isAccepted (s.check c).1 = true then [c.now] else []) ++
      acceptedTimes k (s.check c).2 checks

end FixedWindowLimiter

open FixedWindowLimiter

def timesOf (k : String) (checks : List Check) : List ℚ :=
  (checks.filter fun c => c.key = k).map Check.now

/-- Checks with one limit and one window, on a clock that does not go back, and no more keys
than there is room for. -/
structure SteadyChecks (limit windowSeconds : ℤ) (maxKeys : ℕ) (checks : List Check) : Prop where
  limit_pos : 1 ≤ limit
  window_pos : 0 < windowSeconds
  fixed : ∀ c ∈ checks, c.limit = limit ∧ c.windowSeconds = windowSeconds
  clock : checks.Pairwise fun c d => c.now ≤ d.now
  room : (checks.map Check.key).toFinset.card ≤ maxKeys

section Checks
variable {limit windowSeconds : ℤ} {maxKeys : ℕ} {checks before after : List Check} {c : Check}

theorem SteadyChecks.sublist (h : SteadyChecks limit windowSeconds maxKeys checks)
    (hsub : before.Sublist checks) : SteadyChecks limit windowSeconds maxKeys before where
  limit_pos := h.limit_pos
  window_pos := h.window_pos
  fixed := fun c hc => h.fixed c (hsub.subset hc)
  clock := h.clock.sublist hsub
  room := by
    refine (Finset.card_le_card fun k hk => ?_).trans h.room
    rw [List.mem_toFinset] at hk ⊢
    exact (hsub.map Check.key).subset hk

theorem timesOf_append (k : String) (before after : List Check) :
    timesOf k (before ++ after) = timesOf k before ++ timesOf k after := by
  rw [timesOf, List.filter_append, List.map_append]
  rfl

theorem timesOf_single (k : String) (c : Check) :
    timesOf k [c] = if c.key = k then [c.now] else [] := by
  rw [timesOf, List.filter_singleton]
  by_cases h : c.key = k <;> simp [h]

theorem timesOf_eq_nil {k : String} (h : ∀ c ∈ checks, c.key ≠ k) : timesOf k checks = [] := by
  rw [timesOf, List.filter_eq_nil_iff.mpr fun c hc => by simpa using h c hc, List.map_nil]

theorem timesOf_sorted (h : checks.Pairwise fun c d => c.now ≤ d.now) (k : String) :
    (timesOf k checks).Pairwise (· ≤ ·) :=
  List.pairwise_map.mpr (h.sublist List.filter_sublist)

theorem timesOf_le (h : (before ++ c :: after).Pairwise fun c d => c.now ≤ d.now) (k : String) :
    ∀ a ∈ timesOf k before, a ≤ c.now := by
  intro a ha
  obtain ⟨d, hd, rfl⟩ := List.mem_map.mp ha
  exact (List.pairwise_append.mp h).2.2 d (List.mem_of_mem_filter hd) c List.mem_cons_self

theorem timesOf_filter (k : String) (checks : List Check) :
    timesOf k (checks.filter fun d => d.key = k) = timesOf k checks := by
  rw [timesOf, List.filter_filter]
  simp only [Bool.and_self]
  rfl

end Checks

namespace FixedWindowLimiter
section Check
variable (s : FixedWindowLimiter) (c : Check)

/-- The queue of a key that is not in the table is empty. -/
def queueOf (k : String) : List ℚ := s.events.getD k []

def AdmitsCheck : Prop :=
  SlidingWindow.Admits c.limit.toNat (c.windowSeconds : ℚ) (s.queueOf c.key) c.now

instance : Decidable (s.AdmitsCheck c) := inferInstanceAs (Decidable (SlidingWindow.Admits _ _ _ _))

/-- The seconds a refused check is told to wait for the first of the queue to leave. -/
def retryAfter (first : ℚ) : ℤ := max 1 (truncate (first + c.windowSeconds - c.now) + 1)

/-- The check in terms of what is left of the queue. -/
theorem checkWithRoom_eq : s.checkWithRoom c =
    let queue := SlidingWindow.live (c.windowSeconds : ℚ) (s.queueOf c.key) c.now
    if c.limit ≤ queue.length then
      match queue with
      | [] => (.error .indexError, { s with events := s.events.set c.key queue })
      | first :: _ =>
        (.ok (some (retryAfter c first)), { s with events := s.events.set c.key queue })
    else
      (.ok none, { s with
        events := s.events.set c.key (queue ++ [c.now])
        accessOrder := s.accessOrder ++ [c.key] }) := rfl

variable {s c} (hlimit : 1 ≤ c.limit)
include hlimit

theorem limit_le_length_iff : c.limit ≤ ((SlidingWindow.live (c.windowSeconds : ℚ)
    (s.queueOf c.key) c.now).length : ℤ) ↔ ¬ s.AdmitsCheck c := by
  rw [AdmitsCheck, SlidingWindow.Admits]
  omega

/-- An admitted check is accepted; another one is told to wait for the first of the queue. -/
theorem checkWithRoom_result : if s.AdmitsCheck c then (s.checkWithRoom c).1 = .ok none
    else ∃ first rest, SlidingWindow.live (c.windowSeconds : ℚ) (s.queueOf c.key) c.now =
      first :: rest ∧ (s.checkWithRoom c).1 = .ok (some (retryAfter c first)) := by
  have hle := limit_le_length_iff (s := s) hlimit
  rw [checkWithRoom_eq]
  split_ifs with h
  · simp only [if_neg fun hfull => hle.mp hfull h]
  · have hfull := hle.mpr h
    cases hlive : SlidingWindow.live (c.windowSeconds : ℚ) (s.queueOf c.key) c.now with
    | nil =>
      rw [hlive] at hfull
      exact absurd (hlimit.trans hfull) (by decide)
    | cons first rest =>
      rw [hlive] at hfull
      exact ⟨first, rest, rfl, by simp only [if_pos hfull]⟩

theorem checkWithRoom_events : (s.checkWithRoom c).2.events = s.events.set c.key
    (SlidingWindow.next c.limit.toNat (c.windowSeconds : ℚ) (s.queueOf c.key) c.now) := by
  have hle := limit_le_length_iff (s := s) hlimit
  rw [checkWithRoom_eq, SlidingWindow.next]
  by_cases h : SlidingWindow.Admits c.limit.toNat (c.windowSeconds : ℚ) (s.queueOf c.key) c.now
  · simp only [if_neg fun hfull => hle.mp hfull h, if_pos h]
  · simp only [if_pos (hle.mpr h), if_neg h]
    split <;> rfl

/-- The queue of the key moves as a sliding window does, the other queues stay. -/
theorem checkWithRoom_queueOf (k : String) :
    (s.checkWithRoom c).2.queueOf k = if c.key = k then
        SlidingWindow.next c.limit.toNat (c.windowSeconds : ℚ) (s.queueOf c.key) c.now
      else s.queueOf k := by
  rw [queueOf, checkWithRoom_events hlimit, Dict.getD_set]
  rfl

end Check

/-- After some checks the table holds no other keys, and the queue of each key is that of a
sliding window over its own checks. -/
structure Refines (limit windowSeconds : ℤ) (maxKeys : ℕ) (s : FixedWindowLimiter)
    (checks : List Check) : Prop where
  maxKeys_eq : s.maxKeys = maxKeys
  known : ∀ k ∈ s.events.keys, k ∈ checks.map Check.key
  queues : ∀ k, s.queueOf k =
    SlidingWindow.queueAfter limit.toNat (windowSeconds : ℚ) (timesOf k checks)

section Runs
variable {limit windowSeconds : ℤ} {maxKeys : ℕ} {s : FixedWindowLimiter} {checks : List Check}
  {c : Check}

/-- With room for every key no check meets a full table. -/
theorem Refines.not_full (h : Refines limit windowSeconds maxKeys s checks)
    (hroom : ((checks ++ [c]).map Check.key).toFinset.card ≤ maxKeys) : ¬ s.Full c := by
  rintro ⟨hnew, hfull⟩
  have hsub : insert c.key s.events.keys.toFinset ⊆ ((checks ++ [c]).map Check.key).toFinset := by
    intro k hk
    rw [List.mem_toFinset, List.map_append, List.mem_append]
    rcases Finset.mem_insert.mp hk with rfl | hk
    · exact Or.inr List.mem_cons_self
    · exact Or.inl (h.known k (List.mem_toFinset.mp hk))
  have hcard := Finset.card_le_card hsub
  have hnodup : s.events.keys.Nodup := s.events.nodup
  rw [Finset.card_insert_of_notMem (fun hmem => hnew (List.mem_toFinset.mp hmem)),
    List.toFinset_card_of_nodup hnodup] at hcard
  rw [h.maxKeys_eq] at hfull
  omega

theorem check_of_not_full (h : ¬ s.Full c) : s.check c = s.checkWithRoom c := by
  rw [check, if_neg h]

theorem run_concat (checks : List Check) (c : Check) :
    s.run (checks ++ [c]) = ((s.run checks).check c).2 := by
  rw [run, List.foldl_append]
  rfl

/-- One check keeps the refinement. -/
theorem Refines.step (h : Refines limit windowSeconds maxKeys s checks)
    (hsteady : SteadyChecks limit windowSeconds maxKeys (checks ++ [c])) :
    Refines limit windowSeconds maxKeys (s.check c).2 (checks ++ [c]) := by
  obtain ⟨hlimit, hwindow⟩ := hsteady.fixed c (by simp)
  have hpos : 1 ≤ c.limit := hlimit ▸ hsteady.limit_pos
  rw [check_of_not_full (h.not_full hsteady.room)]
  refine ⟨?_, ?_, ?_⟩
  · rw [checkWithRoom_maxKeys, h.maxKeys_eq]
  · intro k hk
    rw [checkWithRoom_keys] at hk
    rw [List.map_append, List.mem_append, List.map_singleton]
    split_ifs at hk
    · exact Or.inl (h.known k hk)
    · exact (List.mem_append.mp hk).imp_left (h.known k)
  · intro k
    rw [checkWithRoom_queueOf hpos, timesOf_append, timesOf_single, hlimit, hwindow]
    split_ifs with hkey
    · rw [SlidingWindow.queueAfter_concat, ← hkey, h.queues]
    · rw [List.append_nil, h.queues]

theorem refines_run (hsteady : SteadyChecks limit windowSeconds maxKeys checks) :
    Refines limit windowSeconds maxKeys ((empty maxKeys).run checks) checks := by
  induction checks using List.reverseRecOn with
  | nil => exact ⟨rfl, fun k hk => hk, fun k => rfl⟩
  | append_singleton checks c ih =>
    rw [run_concat]
    exact (ih (hsteady.sublist (List.sublist_append_left checks [c]))).step hsteady

/-- A check is accepted exactly when the window over its key's own checks admits it, and is told
to wait otherwise. -/
theorem outcome_spec {before : List Check}
    (hsteady : SteadyChecks limit windowSeconds maxKeys (before ++ [c])) :
    let queue := SlidingWindow.queueAfter limit.toNat (windowSeconds : ℚ) (timesOf c.key before)
    if SlidingWindow.Admits limit.toNat (windowSeconds : ℚ) queue c.now then
      outcome maxKeys before c = .ok none
    else ∃ first rest, SlidingWindow.live (windowSeconds : ℚ) queue c.now = first :: rest ∧
      outcome maxKeys before c = .ok (some (retryAfter c first)) := by
  have hrefines := refines_run (hsteady.sublist (List.sublist_append_left before [c]))
  obtain ⟨hlimit, hwindow⟩ := hsteady.fixed c (by simp)
  have hpos : 1 ≤ c.limit := hlimit ▸ hsteady.limit_pos
  have hcheck := check_of_not_full (hrefines.not_full hsteady.room)
  have hadmits : ((empty maxKeys).run before).AdmitsCheck c ↔ SlidingWindow.Admits limit.toNat
      (windowSeconds : ℚ) (SlidingWindow.queueAfter limit.toNat (windowSeconds : ℚ)
        (timesOf c.key before)) c.now := by
    rw [AdmitsCheck, hlimit, hwindow, hrefines.queues]
  intro queue
  have hresult := checkWithRoom_result (s := (empty maxKeys).run before) hpos
  rw [hrefines.queues, hwindow] at hresult
  rw [outcome, hcheck]
  split_ifs with h
  · rwa [if_pos (hadmits.mpr h)] at hresult
  · rwa [if_neg fun hnot => h (hadmits.mp hnot)] at hresult

theorem acceptedTimes_append (k : String) (s : FixedWindowLimiter) (before after : List Check) :
    acceptedTimes k s (before ++ after) =
      acceptedTimes k s before ++ acceptedTimes k (s.run before) after := by
  induction before generalizing s with
  | nil => rfl
  | cons c before ih =>
    rw [List.cons_append, acceptedTimes, ih, acceptedTimes, List.append_assoc]
    rfl

/-- The accepted times of a key are those its own sliding window admits. -/
theorem acceptedTimes_eq (hsteady : SteadyChecks limit windowSeconds maxKeys checks) (k : String) :
    acceptedTimes k (empty maxKeys) checks =
      SlidingWindow.admitted limit.toNat (windowSeconds : ℚ) (timesOf k checks) := by
  induction checks using List.reverseRecOn with
  | nil => rfl
  | append_singleton checks c ih =>
    have hlast : acceptedTimes k ((empty maxKeys).run checks) [c] =
        if c.key = k ∧ isAccepted (outcome maxKeys checks c) = true then [c.now] else [] :=
      List.append_nil _
    rw [acceptedTimes_append, hlast, ih (hsteady.sublist (List.sublist_append_left checks [c])),
      timesOf_append, timesOf_single]
    by_cases hkey : c.key = k
    · subst hkey
      have hspec := outcome_spec hsteady
      simp only at hspec
      rw [if_pos rfl, SlidingWindow.admitted_concat]
      split_ifs at hspec with hadmits
      · rw [if_pos hadmits, if_pos ⟨rfl, by rw [hspec]; rfl⟩]
      · obtain ⟨first, rest, -, hresult⟩ := hspec
        rw [if_neg hadmits, if_neg fun h => by rw [hresult] at h; exact Bool.noConfusion h.2]
    · rw [if_neg hkey, List.append_nil, if_neg fun h => hkey h.1, List.append_nil]

end Runs
end FixedWindowLimiter

section Claims
variable {limit windowSeconds : ℤ} {maxKeys : ℕ} {checks before after : List Check} {c : Check}

theorem SteadyChecks.upTo (h : SteadyChecks limit windowSeconds maxKeys checks)
    (hsplit : checks = before ++ c :: after) :
    SteadyChecks limit windowSeconds maxKeys (before ++ [c]) := by
  refine h.sublist ?_
  rw [hsplit]
  exact (List.Sublist.refl before).append (List.singleton_sublist.mpr List.mem_cons_self)

/-- No window holds more accepted checks of a key than the limit. -/
theorem acceptedTimes_inWindow (h : SteadyChecks limit windowSeconds maxKeys checks) (k : String)
    (t : ℚ) : ((SlidingWindow.inWindow (windowSeconds : ℚ)
      (acceptedTimes k (empty maxKeys) checks) t).length : ℤ) ≤ limit := by
  have hlength := SlidingWindow.inWindow_length_le limit.toNat (windowSeconds : ℚ)
    (timesOf_sorted h.clock k) t
  have hpos := h.limit_pos
  rw [acceptedTimes_eq h]
  omega

/-- A check that is told to wait meets a window full of accepted ones, and a long enough wait
leaves the first of them behind. -/
theorem outcome_refused (h : SteadyChecks limit windowSeconds maxKeys (before ++ [c]))
    {seconds : ℤ} (hrefused : outcome maxKeys before c = .ok (some seconds)) :
    let queue := SlidingWindow.queueAfter limit.toNat (windowSeconds : ℚ) (timesOf c.key before)
    ¬ SlidingWindow.Admits limit.toNat (windowSeconds : ℚ) queue c.now ∧
      ∃ first rest, SlidingWindow.live (windowSeconds : ℚ) queue c.now = first :: rest ∧
        first + windowSeconds ≤ c.now + seconds := by
  have hspec := outcome_spec h
  intro queue
  simp only at hspec
  split_ifs at hspec with hadmits
  · rw [hspec] at hrefused
    cases hrefused
  · obtain ⟨first, rest, hlive, hresult⟩ := hspec
    refine ⟨hadmits, first, rest, hlive, ?_⟩
    rw [hresult, Except.ok.injEq, Option.some.injEq] at hrefused
    have hwindow := (h.fixed c (by simp)).2
    have htruncate : first + windowSeconds - c.now < (truncate (first + windowSeconds - c.now) : ℚ) + 1 := by
      unfold truncate
      split_ifs with hnonneg
      · exact Int.lt_floor_add_one _
      · exact (Int.le_ceil _).trans_lt (lt_add_one _)
    have hseconds : truncate (first + windowSeconds - c.now) + 1 ≤ seconds := by
      rw [← hrefused, retryAfter, hwindow]
      exact le_max_right _ _
    have hcast : ((truncate (first + windowSeconds - c.now) : ℚ) + 1) ≤ seconds := by
      exact_mod_cast hseconds
    linarith

/-- Checks of other keys change nothing. -/
theorem outcome_filter (h : SteadyChecks limit windowSeconds maxKeys (before ++ [c])) :
    outcome maxKeys before c = outcome maxKeys (before.filter fun d => d.key = c.key) c := by
  have hsub : ((before.filter fun d => d.key = c.key) ++ [c]).Sublist (before ++ [c]) :=
    List.filter_sublist.append (List.Sublist.refl [c])
  have hspec := outcome_spec h
  have hspec' := outcome_spec (h.sublist hsub)
  simp only [timesOf_filter] at hspec hspec'
  split_ifs at hspec hspec'
  · rw [hspec, hspec']
  · obtain ⟨first, rest, hlive, hresult⟩ := hspec
    obtain ⟨first', rest', hlive', hresult'⟩ := hspec'
    rw [hlive] at hlive'
    rw [hresult, hresult', (List.cons.inj hlive').1]

/-- After a refused check of the same key and a long enough wait a check is accepted. -/
theorem outcome_after_wait {middle : List Check} {c' : Check}
    (h : SteadyChecks limit windowSeconds maxKeys (before ++ c :: (middle ++ [c'])))
    (hkey : c'.key = c.key) (hmiddle : ∀ d ∈ middle, d.key ≠ c.key) {seconds : ℤ}
    (hrefused : outcome maxKeys before c = .ok (some seconds)) (hwait : c.now + seconds ≤ c'.now) :
    outcome maxKeys (before ++ c :: middle) c' = .ok none := by
  have hfirst := h.upTo rfl
  have hsecond : SteadyChecks limit windowSeconds maxKeys ((before ++ c :: middle) ++ [c']) := by
    rwa [List.append_assoc, List.cons_append]
  obtain ⟨hadmits, first, rest, hlive, hleft⟩ := outcome_refused hfirst hrefused
  have htimes : timesOf c'.key (before ++ c :: middle) = timesOf c.key before ++ [c.now] := by
    rw [hkey, List.append_cons, timesOf_append, timesOf_append, timesOf_single, if_pos rfl,
      timesOf_eq_nil hmiddle, List.append_nil]
  have hqueue : SlidingWindow.queueAfter limit.toNat (windowSeconds : ℚ)
      (timesOf c'.key (before ++ c :: middle)) = first :: rest := by
    rw [htimes, SlidingWindow.queueAfter_concat, SlidingWindow.next, if_neg hadmits, hlive]
  have hlength : (first :: rest).length ≤ limit.toNat := by
    have hle : ∀ a ∈ timesOf c.key before, a ≤ c.now := timesOf_le hfirst.clock c.key
    have hsorted := timesOf_sorted (hfirst.sublist (List.sublist_append_left before [c])).clock c.key
    rw [← hlive, SlidingWindow.live_eq_inWindow limit.toNat (windowSeconds : ℚ) hsorted hle]
    exact SlidingWindow.inWindow_length_le limit.toNat (windowSeconds : ℚ) hsorted c.now
  have hspec := outcome_spec hsecond
  simp only at hspec
  rw [hqueue] at hspec
  rwa [if_pos (SlidingWindow.admits_of_first limit.toNat (windowSeconds : ℚ) hlength
    (by linarith))] at hspec

end Claims

/-- No window holds more accepted checks of a key than the limit; a check is refused only when
the window before it is full, whatever the other keys do; and the wait a refused check is told
is long enough. -/
theorem limiter_slidingWindow (limit windowSeconds : ℤ) (maxKeys : ℕ) (checks : List Check)
    (h : SteadyChecks limit windowSeconds maxKeys checks) :
    (∀ k t, ((SlidingWindow.inWindow (windowSeconds : ℚ)
      (acceptedTimes k (empty maxKeys) checks) t).length : ℤ) ≤ limit) ∧
    (∀ before c after, checks = before ++ c :: after →
      outcome maxKeys before c = .ok none ∨
        (∃ seconds, outcome maxKeys before c = .ok (some seconds)) ∧
          ((SlidingWindow.inWindow (windowSeconds : ℚ)
            (acceptedTimes c.key (empty maxKeys) before) c.now).length : ℤ) = limit) ∧
    (∀ before c after, checks = before ++ c :: after →
      outcome maxKeys before c = outcome maxKeys (before.filter fun d => d.key = c.key) c) ∧
    (∀ before c middle c' after (seconds : ℤ), checks = before ++ c :: (middle ++ c' :: after) →
      c'.key = c.key → (∀ d ∈ middle, d.key ≠ c.key) →
      outcome maxKeys before c = .ok (some seconds) → c.now + seconds ≤ c'.now →
      outcome maxKeys (before ++ c :: middle) c' = .ok none) := by
  refine ⟨acceptedTimes_inWindow h, ?_, fun before c after hsplit => outcome_filter (h.upTo hsplit),
    ?_⟩
  · intro before c after hsplit
    have hbefore := h.upTo hsplit
    have hspec := outcome_spec hbefore
    simp only at hspec
    split_ifs at hspec with hadmits
    · exact Or.inl hspec
    · obtain ⟨first, rest, -, hresult⟩ := hspec
      have hsteady := hbefore.sublist (List.sublist_append_left before [c])
      have hlength := SlidingWindow.length_of_not_admits limit.toNat (windowSeconds : ℚ)
        (timesOf_sorted hsteady.clock c.key) (timesOf_le hbefore.clock c.key) hadmits
      have hpos := h.limit_pos
      refine Or.inr ⟨⟨_, hresult⟩, ?_⟩
      rw [acceptedTimes_eq hsteady, hlength]
      omega
  · intro before c middle c' after seconds hsplit hkey hmiddle hrefused hwait
    have hassoc : before ++ c :: (middle ++ c' :: after) =
        (before ++ c :: middle) ++ c' :: after := by simp
    have hsteady := h.upTo (hsplit.trans hassoc)
    rw [List.append_assoc, List.cons_append] at hsteady
    exact outcome_after_wait hsteady hkey hmiddle hrefused hwait

/-- Two checks of a key within a minute, then one after it. -/
def minuteChecks : List Check :=
  [⟨"a", 1, 60, 0⟩, ⟨"b", 1, 60, 1⟩, ⟨"a", 1, 60, 2⟩, ⟨"a", 1, 60, 61⟩]

theorem minuteChecks_steady : SteadyChecks 1 60 2 minuteChecks where
  limit_pos := le_refl 1
  window_pos := by decide
  fixed := by simp [minuteChecks]
  clock := by norm_num [minuteChecks]
  room := by decide

theorem limiter_slidingWindow_minute :
    (∃ seconds, outcome 2 (minuteChecks.take 2) ⟨"a", 1, 60, 2⟩ = .ok (some seconds)) ∧
      outcome 2 (minuteChecks.take 3) ⟨"a", 1, 60, 61⟩ = .ok none := by
  have hrefused : outcome 2 (minuteChecks.take 2) ⟨"a", 1, 60, 2⟩ = .ok (some 59) := by
    decide +kernel
  refine ⟨⟨59, hrefused⟩, ?_⟩
  exact (limiter_slidingWindow 1 60 2 minuteChecks minuteChecks_steady).2.2.2
    [⟨"a", 1, 60, 0⟩, ⟨"b", 1, 60, 1⟩] ⟨"a", 1, 60, 2⟩ [] ⟨"a", 1, 60, 61⟩ [] 59 rfl rfl
    (List.forall_mem_nil _) hrefused (by norm_num)

end ContinuityOS.Security
