import ContinuityOS.Library.Dict

/-! # The rate limiter's memory

Every accepted check appends its key to the access order, and a new key in a full table evicts
the key in front. Entries of a key that stays in the table are never removed, so the front may
name a key that is not the oldest, or one that is gone.
-/
namespace ContinuityOS.Security
open Library

structure FixedWindowLimiter where
  events : Dict String (List ℚ)
  accessOrder : List String
  maxKeys : ℕ

inductive LimiterError where
  | indexError

structure Check where
  key : String
  limit : ℤ
  windowSeconds : ℤ
  now : ℚ

/-- Towards zero. -/
def truncate (q : ℚ) : ℤ := if 0 ≤ q then ⌊q⌋ else ⌈q⌉

namespace FixedWindowLimiter

def empty (maxKeys : ℕ) : FixedWindowLimiter := ⟨Dict.empty, [], maxKeys⟩

/-- A check once there is room for its key: the seconds to wait when it is refused. -/
def checkWithRoom (s : FixedWindowLimiter) (c : Check) :
    Except LimiterError (Option ℤ) × FixedWindowLimiter :=
  let events := (s.events.getD c.key []).dropWhile fun t => t ≤ c.now - c.windowSeconds
  if c.limit ≤ events.length then
    match events with
    | [] => (.error .indexError, { s with events := s.events.set c.key events })
    | first :: _ =>
      (.ok (some (max 1 (truncate (first + c.windowSeconds - c.now) + 1))),
        { s with events := s.events.set c.key events })
  else
    (.ok none, { s with
      events := s.events.set c.key (events ++ [c.now])
      accessOrder := s.accessOrder ++ [c.key] })

/-- A new key meets a full table. -/
def Full (s : FixedWindowLimiter) (c : Check) : Prop :=
  c.key ∉ s.events.keys ∧ s.maxKeys ≤ s.events.keys.length

instance (s : FixedWindowLimiter) (c : Check) : Decidable (s.Full c) :=
  inferInstanceAs (Decidable (_ ∧ _))

def check (s : FixedWindowLimiter) (c : Check) :
    Except LimiterError (Option ℤ) × FixedWindowLimiter :=
  if s.Full c then
    match s.accessOrder with
    | [] => (.error .indexError, s)
    | evictKey :: rest =>
      { s with events := s.events.erase evictKey, accessOrder := rest }.checkWithRoom c
  else s.checkWithRoom c

end FixedWindowLimiter

/-- The limiter with the keys of the accepted checks so far. -/
structure LoggedLimiter where
  limiter : FixedWindowLimiter
  accepted : List String

def LoggedLimiter.step (s : LoggedLimiter) (c : Check) : LoggedLimiter where
  limiter := (s.limiter.check c).2
  accepted :=
    match (s.limiter.check c).1 with
    | .ok none => s.accepted ++ [c.key]
    | _ => s.accepted

/-- After the last entry of one key there is an entry of the other. -/
def Later (log : List String) (k other : String) : Prop :=
  ∃ before after, log = before ++ after ∧ k ∉ after ∧ other ∈ after

namespace LoggedLimiter

/-- The table is within its bound, and a key that was dropped was the one whose last accepted
check was the oldest. -/
structure EvictsOldest (s : LoggedLimiter) (c : Check) : Prop where
  bounded : (s.step c).limiter.events.keys.length ≤ s.limiter.maxKeys
  oldest : ∀ k ∈ s.limiter.events.keys, k ∉ (s.step c).limiter.events.keys →
    ∀ other ∈ s.limiter.events.keys, other ≠ k → Later s.accepted k other

/-- The access order starts with a key in the table, and the other keys of the table are
accessed after its last entry. -/
def FrontIsOldest (s : LoggedLimiter) : Prop :=
  ∃ front rest, s.limiter.accessOrder = front :: rest ∧ front ∈ s.limiter.events.keys ∧
    ∀ other ∈ s.limiter.events.keys, other ≠ front → Later s.limiter.accessOrder front other

/-- Every check of a run keeps the bound and evicts the oldest key. -/
def RunEvictsOldest : LoggedLimiter → List Check → Prop
  | _, [] => True
  | s, c :: checks => s.EvictsOldest c ∧ RunEvictsOldest (s.step c) checks

/-- Whenever a check of a run meets a full table, the front of the access order is the oldest. -/
def RunFrontIsOldest : LoggedLimiter → List Check → Prop
  | _, [] => True
  | s, c :: checks => (s.limiter.Full c → s.FrontIsOldest) ∧ RunFrontIsOldest (s.step c) checks

/-- What every run keeps: the access order is the end of the log and names every key of the
table. -/
structure Invariant (s : LoggedLimiter) : Prop where
  logged : ∃ gone, s.accepted = gone ++ s.limiter.accessOrder
  accessed : ∀ k ∈ s.limiter.events.keys, k ∈ s.limiter.accessOrder
  room : 1 ≤ s.limiter.maxKeys

end LoggedLimiter

section Log
variable {log : List String} {k other : String}

theorem later_append {gone : List String} (h : Later log k other) : Later (gone ++ log) k other := by
  obtain ⟨before, after, rfl, hk, hother⟩ := h
  exact ⟨gone ++ before, after, (List.append_assoc gone before after).symm, hk, hother⟩

/-- Where the key is accessed, what comes later is in the access order itself. -/
theorem later_of_append {gone : List String} (hmem : k ∈ log) (h : Later (gone ++ log) k other) :
    Later log k other := by
  obtain ⟨before, after, heq, hk, hother⟩ := h
  rcases List.append_eq_append_iff.mp heq with ⟨mid, rfl, rfl⟩ | ⟨mid, rfl, rfl⟩
  · exact ⟨mid, after, rfl, hk, hother⟩
  · exact absurd (List.mem_append_right mid hmem) hk

end Log

namespace FixedWindowLimiter
variable {s : FixedWindowLimiter} {c : Check}

theorem checkWithRoom_keys (s : FixedWindowLimiter) (c : Check) : (s.checkWithRoom c).2.events.keys =
    if c.key ∈ s.events.keys then s.events.keys else s.events.keys ++ [c.key] := by
  unfold checkWithRoom
  simp only
  split_ifs <;> (try split) <;> simp only [Dict.keys_set] <;> simp_all

theorem checkWithRoom_maxKeys (s : FixedWindowLimiter) (c : Check) : (s.checkWithRoom c).2.maxKeys = s.maxKeys := by
  unfold checkWithRoom
  simp only
  split_ifs
  · split <;> rfl
  · rfl

/-- An accepted check is appended to the access order, and no other check is. -/
theorem checkWithRoom_accessOrder (s : FixedWindowLimiter) (c : Check) :
    ((s.checkWithRoom c).1 = .ok none ∧ (s.checkWithRoom c).2.accessOrder = s.accessOrder ++ [c.key]) ∨
      ((s.checkWithRoom c).1 ≠ .ok none ∧ (s.checkWithRoom c).2.accessOrder = s.accessOrder) := by
  unfold checkWithRoom
  simp only
  split_ifs
  · right
    split
    · exact ⟨by simp, rfl⟩
    · exact ⟨by simp, rfl⟩
  · exact Or.inl ⟨rfl, rfl⟩

/-- A new key has no events, so it is accepted. -/
theorem checkWithRoom_new (hlimit : 1 ≤ c.limit) (hnew : c.key ∉ s.events.keys) :
    (s.checkWithRoom c).1 = .ok none := by
  have hnone : s.events.get? c.key = none := (Bindings.lookup_eq_none _ _).mpr hnew
  have hevents : s.events.getD c.key [] = [] := by rw [Dict.getD, hnone]; rfl
  have hroom : ¬ c.limit ≤ 0 := by omega
  unfold checkWithRoom
  simp [hevents, hroom]

end FixedWindowLimiter

namespace LoggedLimiter
variable {s : LoggedLimiter} {c : Check}

theorem step_maxKeys (s : LoggedLimiter) (c : Check) :
    (s.step c).limiter.maxKeys = s.limiter.maxKeys := by
  change (s.limiter.check c).2.maxKeys = _
  unfold FixedWindowLimiter.check
  split_ifs
  · split
    · rfl
    · exact FixedWindowLimiter.checkWithRoom_maxKeys _ c
  · exact FixedWindowLimiter.checkWithRoom_maxKeys _ c

/-- A check that meets a full table puts its key in the place of the front. -/
theorem step_full (hfull : s.limiter.Full c) {front : String} {rest : List String}
    (horder : s.limiter.accessOrder = front :: rest) (hlimit : 1 ≤ c.limit) :
    (s.step c).limiter.events.keys =
        (s.limiter.events.keys.filter fun k => k ≠ front) ++ [c.key] ∧
      (s.step c).limiter.accessOrder = rest ++ [c.key] ∧
      (s.step c).accepted = s.accepted ++ [c.key] := by
  have hcheck : s.limiter.check c = ({ s.limiter with
      events := s.limiter.events.erase front, accessOrder := rest } : FixedWindowLimiter).checkWithRoom c := by
    rw [FixedWindowLimiter.check, if_pos hfull, horder]
  have hnew : c.key ∉ (s.limiter.events.erase front).keys := by
    rw [Dict.keys_erase]
    exact fun hmem => hfull.1 (List.mem_of_mem_filter hmem)
  have haccepted := FixedWindowLimiter.checkWithRoom_new (s := { s.limiter with
    events := s.limiter.events.erase front, accessOrder := rest }) hlimit hnew
  refine ⟨?_, ?_, ?_⟩
  · change (s.limiter.check c).2.events.keys = _
    rw [hcheck, FixedWindowLimiter.checkWithRoom_keys, if_neg hnew, Dict.keys_erase]
  · change (s.limiter.check c).2.accessOrder = _
    rw [hcheck]
    rcases FixedWindowLimiter.checkWithRoom_accessOrder _ c with ⟨-, horder'⟩ | ⟨hrefused, -⟩
    · exact horder'
    · exact absurd haccepted hrefused
  · rw [step]
    simp only [hcheck, haccepted]

/-- A check that meets a table with room drops no key. -/
theorem step_room (hroom : ¬ s.limiter.Full c) (hlimit : 1 ≤ c.limit) :
    (s.step c).limiter.events.keys = (if c.key ∈ s.limiter.events.keys then s.limiter.events.keys
        else s.limiter.events.keys ++ [c.key]) ∧
      ((s.step c).limiter.accessOrder = s.limiter.accessOrder ++ [c.key] ∧
          (s.step c).accepted = s.accepted ++ [c.key] ∨
        (s.step c).limiter.accessOrder = s.limiter.accessOrder ∧
          (s.step c).accepted = s.accepted ∧ c.key ∈ s.limiter.events.keys) := by
  have hcheck : s.limiter.check c = s.limiter.checkWithRoom c := by
    rw [FixedWindowLimiter.check, if_neg hroom]
  constructor
  · change (s.limiter.check c).2.events.keys = _
    rw [hcheck, FixedWindowLimiter.checkWithRoom_keys]
  · rcases s.limiter.checkWithRoom_accessOrder c with ⟨haccepted, horder⟩ | ⟨hrefused, horder⟩
    · left
      rw [step]
      simp only [hcheck, haccepted, horder, and_self]
    · right
      have hlog : (s.step c).accepted = s.accepted := by
        rw [step]
        cases hresult : (s.limiter.checkWithRoom c).1 with
        | error e => simp only [hcheck, hresult]
        | ok wait =>
          cases wait with
          | none => exact absurd hresult hrefused
          | some seconds => simp only [hcheck, hresult]
      refine ⟨?_, hlog, ?_⟩
      · rw [step]
        simp only [hcheck, horder]
      · by_contra hnew
        exact hrefused (FixedWindowLimiter.checkWithRoom_new hlimit hnew)

theorem Invariant.front (h : s.Invariant) (hfull : s.limiter.Full c) :
    ∃ front rest, s.limiter.accessOrder = front :: rest := by
  have hpos : 0 < s.limiter.events.keys.length := lt_of_lt_of_le h.room hfull.2
  obtain ⟨k, hk⟩ := List.exists_mem_of_length_pos hpos
  exact List.exists_cons_of_ne_nil (List.ne_nil_of_mem (h.accessed k hk))

theorem Invariant.step (h : s.Invariant) (hlimit : 1 ≤ c.limit) : (s.step c).Invariant := by
  obtain ⟨gone, hgone⟩ := h.logged
  by_cases hfull : s.limiter.Full c
  · obtain ⟨front, rest, horder⟩ := h.front hfull
    obtain ⟨hkeys, horder', hlog⟩ := step_full hfull horder hlimit
    refine ⟨⟨gone ++ [front], ?_⟩, ?_, ?_⟩
    · rw [hlog, horder', hgone, horder]
      simp
    · intro k hk
      rw [hkeys, List.mem_append, List.mem_filter, List.mem_singleton] at hk
      rw [horder', List.mem_append, List.mem_singleton]
      refine hk.imp_left fun hkept => ?_
      have hmem := h.accessed k hkept.1
      rw [horder] at hmem
      exact (List.mem_cons.mp hmem).resolve_left (of_decide_eq_true hkept.2)
    · rw [step_maxKeys]
      exact h.room
  · obtain ⟨hkeys, horder⟩ := step_room hfull hlimit
    refine ⟨?_, ?_, ?_⟩
    · rcases horder with ⟨horder, hlog⟩ | ⟨horder, hlog, -⟩
      · exact ⟨gone, by rw [hlog, horder, hgone, List.append_assoc]⟩
      · exact ⟨gone, by rw [hlog, horder, hgone]⟩
    · intro k hk
      rw [hkeys] at hk
      have hcases : k ∈ s.limiter.events.keys ∨ k = c.key ∧ c.key ∉ s.limiter.events.keys := by
        split_ifs at hk with hmem
        · exact Or.inl hk
        · exact (List.mem_append.mp hk).imp_right fun hlast => ⟨List.mem_singleton.mp hlast, hmem⟩
      rcases horder with ⟨horder, -⟩ | ⟨horder, -, hold⟩
      · rw [horder, List.mem_append, List.mem_singleton]
        exact hcases.imp (h.accessed k) And.left
      · rw [horder]
        exact hcases.elim (h.accessed k) fun hnew => absurd hold hnew.2
    · rw [step_maxKeys]
      exact h.room

/-- One check keeps the bound and evicts the oldest key exactly when the front is the oldest
where it counts. -/
theorem evictsOldest_iff (h : s.Invariant)
    (hbounded : s.limiter.events.keys.length ≤ s.limiter.maxKeys) (hlimit : 1 ≤ c.limit) :
    s.EvictsOldest c ↔ (s.limiter.Full c → s.FrontIsOldest) := by
  obtain ⟨gone, hgone⟩ := h.logged
  by_cases hfull : s.limiter.Full c
  · obtain ⟨front, rest, horder⟩ := h.front hfull
    obtain ⟨hkeys, -, -⟩ := step_full hfull horder hlimit
    have hlength := congrArg List.length hkeys
    rw [List.length_append, List.length_singleton] at hlength
    have hfront : front ∈ s.limiter.accessOrder := by
      rw [horder]
      exact List.mem_cons_self
    constructor
    · intro hgood _
      have hmem : front ∈ s.limiter.events.keys := by
        by_contra hgone'
        have hsame : (s.limiter.events.keys.filter fun k => k ≠ front) = s.limiter.events.keys := by
          apply List.filter_eq_self.mpr
          intro k hk
          exact decide_eq_true fun heq => hgone' (heq ▸ hk)
        rw [hsame] at hlength
        have hlow := hfull.2
        have hhigh := hgood.bounded
        omega
      refine ⟨front, rest, horder, hmem, fun other hother hne => ?_⟩
      have hdropped : front ∉ (s.step c).limiter.events.keys := by
        rw [hkeys, List.mem_append, List.mem_filter, List.mem_singleton]
        rintro (hkept | hnew)
        · exact of_decide_eq_true hkept.2 rfl
        · exact hfull.1 (hnew ▸ hmem)
      have hlater := hgood.oldest front hmem hdropped other hother hne
      rw [hgone] at hlater
      exact later_of_append hfront hlater
    · intro hcond
      obtain ⟨front', rest', horder', hmem, hoist⟩ := hcond hfull
      have heq : front' = front := by
        rw [horder] at horder'
        exact (List.cons.inj horder').1.symm
      rw [heq] at hmem hoist
      constructor
      · have herase : (s.limiter.events.keys.filter fun k => k ≠ front).length + 1 =
            s.limiter.events.keys.length := by
          have hcount := List.length_erase_add_one hmem
          have hnodup : s.limiter.events.keys.Nodup := s.limiter.events.nodup
          rw [hnodup.erase_eq_filter] at hcount
          rw [← hcount]
          congr 2
          apply List.filter_congr
          intro k _
          by_cases hk : k = front <;> simp [hk]
        omega
      · intro k hk hdropped other hother hne
        have hkfront : k = front := by
          by_contra hkne
          refine hdropped ?_
          rw [hkeys]
          exact List.mem_append_left _ (List.mem_filter.mpr ⟨hk, decide_eq_true hkne⟩)
        rw [hkfront] at hne ⊢
        rw [hgone]
        exact later_append (hoist other hother hne)
  · obtain ⟨hkeys, -⟩ := step_room hfull hlimit
    refine iff_of_true ?_ fun hfull' => absurd hfull' hfull
    constructor
    · rw [hkeys]
      split_ifs with hmem
      · exact hbounded
      · have hlt := not_le.mp fun hle => hfull ⟨hmem, hle⟩
        rw [List.length_append, List.length_singleton]
        omega
    · intro k hk hdropped
      refine absurd ?_ hdropped
      rw [hkeys]
      split_ifs
      · exact hk
      · exact List.mem_append_left _ hk

/-- A run keeps the bound and evicts the oldest key at every check exactly when the front of
the access order is the oldest whenever a check meets a full table. -/
theorem runEvictsOldest_iff_of_invariant (h : s.Invariant)
    (hbounded : s.limiter.events.keys.length ≤ s.limiter.maxKeys) (checks : List Check)
    (hlimits : ∀ c ∈ checks, 1 ≤ c.limit) :
    s.RunEvictsOldest checks ↔ s.RunFrontIsOldest checks := by
  induction checks generalizing s with
  | nil => exact Iff.rfl
  | cons c checks ih =>
    rw [List.forall_mem_cons] at hlimits
    rw [RunEvictsOldest, RunFrontIsOldest, ← evictsOldest_iff h hbounded hlimits.1]
    refine and_congr_right fun hgood => ?_
    have hnext := hgood.bounded
    rw [← step_maxKeys s c] at hnext
    exact ih (h.step hlimits.1) hnext hlimits.2

/-- No key and no check so far. -/
def start (maxKeys : ℕ) : LoggedLimiter := ⟨.empty maxKeys, []⟩

theorem start_invariant {maxKeys : ℕ} (hroom : 1 ≤ maxKeys) : (start maxKeys).Invariant where
  logged := ⟨[], rfl⟩
  accessed k hk := by cases hk
  room := hroom

theorem runEvictsOldest_iff (maxKeys : ℕ) (hroom : 1 ≤ maxKeys) (checks : List Check)
    (hlimits : ∀ c ∈ checks, 1 ≤ c.limit) :
    (start maxKeys).RunEvictsOldest checks ↔ (start maxKeys).RunFrontIsOldest checks :=
  runEvictsOldest_iff_of_invariant (start_invariant hroom) (Nat.zero_le _) checks hlimits

section Sample

def checkAt (key : String) (now : ℚ) : Check where
  key := key
  limit := 60
  windowSeconds := 60
  now := now

/-- A key that is checked twice leaves an entry behind. -/
def repeatedChecks : List Check := [checkAt "a" 0, checkAt "a" 1, checkAt "b" 2, checkAt "c" 3]

theorem repeatedChecks_limits : ∀ c ∈ repeatedChecks, 1 ≤ c.limit := by
  simp [repeatedChecks, checkAt]

theorem runEvictsOldest_repeated :
    (start 1).RunEvictsOldest repeatedChecks ↔ (start 1).RunFrontIsOldest repeatedChecks :=
  runEvictsOldest_iff 1 (le_refl 1) repeatedChecks repeatedChecks_limits

/-- The entry left behind evicts nobody, and two keys are in a table of one. -/
theorem not_runEvictsOldest :
    ¬ ∀ (maxKeys : ℕ) (checks : List Check), 1 ≤ maxKeys →
      checks.Pairwise (fun c d => c.now ≤ d.now) → (∀ c ∈ checks, 1 ≤ c.limit) →
      (start maxKeys).RunEvictsOldest checks := by
  intro h
  have hclock : repeatedChecks.Pairwise (fun c d => c.now ≤ d.now) := by
    norm_num [repeatedChecks, checkAt]
  have hrun := h 1 repeatedChecks (le_refl 1) hclock repeatedChecks_limits
  have hlast := hrun.2.2.2.1.bounded
  exact absurd hlast (by with_unfolding_all decide)

end Sample

end LoggedLimiter

end ContinuityOS.Security
