import Mathlib.Tactic.Basic

/-! # Computations that may fail -/
namespace ContinuityOS.Library

variable {ε α β : Type}

@[simp] theorem pure_eq_ok (a : α) : (pure a : Except ε α) = .ok a := rfl

@[simp] theorem throw_eq_error (e : ε) : (throw e : Except ε α) = .error e := rfl

@[simp] theorem ok_bind (a : α) (f : α → Except ε β) : (Except.ok a >>= f) = f a := rfl

@[simp] theorem error_bind (e : ε) (f : α → Except ε β) :
    ((Except.error e : Except ε α) >>= f) = .error e := rfl

/-- A sequence that succeeds has succeeded in both parts. -/
theorem bind_eq_ok {x : Except ε α} {f : α → Except ε β} {b : β} :
    (x >>= f) = .ok b ↔ ∃ a, x = .ok a ∧ f a = .ok b := by
  cases x <;> simp

/-- A pure step behind a computation does not make it fail. -/
theorem exists_bind_pure {x : Except ε α} {f : α → β} :
    (∃ b, (x >>= fun a => pure (f a)) = .ok b) ↔ ∃ a, x = .ok a := by
  constructor
  · rintro ⟨b, hb⟩
    obtain ⟨a, ha, -⟩ := bind_eq_ok.mp hb
    exact ⟨a, ha⟩
  · rintro ⟨a, ha⟩
    exact ⟨f a, bind_eq_ok.mpr ⟨a, ha, rfl⟩⟩

theorem map_eq_ok {f : α → β} {x : Except ε α} {b : β} :
    f <$> x = .ok b ↔ ∃ a, x = .ok a ∧ f a = b := by
  cases x with
  | error e => simp [Functor.map, Except.map]
  | ok a => simp [Functor.map, Except.map]

/-- All steps over a list succeed exactly when each of them does. -/
theorem mapM_eq_ok_iff {f : α → Except ε β} {l : List α} {out : List β} :
    l.mapM f = .ok out ↔ l.map f = out.map .ok := by
  induction l generalizing out with
  | nil =>
    cases out with
    | nil => simp
    | cons b out => simp
  | cons a l ih =>
    rw [List.mapM_cons, bind_eq_ok, List.map_cons]
    constructor
    · rintro ⟨b, hb, hrest⟩
      obtain ⟨rest, hmap, heq⟩ := bind_eq_ok.mp hrest
      cases heq
      rw [hb, ih.mp hmap, List.map_cons]
    · intro h
      cases out with
      | nil => cases h
      | cons b out =>
        obtain ⟨hhead, htail⟩ := List.cons.inj h
        exact ⟨b, hhead, bind_eq_ok.mpr ⟨out, ih.mpr htail, rfl⟩⟩

theorem mapM_eq_ok {f : α → Except ε β} {g : α → β} {l : List α}
    (h : ∀ a ∈ l, f a = .ok (g a)) : l.mapM f = .ok (l.map g) := by
  rw [mapM_eq_ok_iff, List.map_map]
  exact List.map_congr_left h

/-- A list can be gone over exactly where each of its steps succeeds. -/
theorem mapM_ok_iff {f : α → Except ε β} {l : List α} :
    (∃ out, l.mapM f = .ok out) ↔ ∀ a ∈ l, ∃ b, f a = .ok b := by
  induction l with
  | nil => simp
  | cons a l ih =>
    rw [List.forall_mem_cons, ← ih]
    constructor
    · rintro ⟨out, hout⟩
      rw [List.mapM_cons, bind_eq_ok] at hout
      obtain ⟨b, hb, hrest⟩ := hout
      obtain ⟨rest, hrest, -⟩ := bind_eq_ok.mp hrest
      exact ⟨⟨b, hb⟩, rest, hrest⟩
    · rintro ⟨⟨b, hb⟩, rest, hrest⟩
      exact ⟨b :: rest, by rw [List.mapM_cons, hb, ok_bind, hrest, ok_bind]; rfl⟩

theorem mem_of_mapM_ok {f : α → Except ε β} {l : List α} {out : List β}
    (h : l.mapM f = .ok out) (b : β) : b ∈ out ↔ ∃ a ∈ l, f a = .ok b := by
  have hmap := mapM_eq_ok_iff.mp h
  constructor
  · intro hb
    have hmem : Except.ok b ∈ l.map f := hmap ▸ List.mem_map_of_mem hb
    exact List.mem_map.mp hmem
  · rintro ⟨a, ha, hb⟩
    have hmem : f a ∈ l.map f := List.mem_map_of_mem ha
    rw [hmap, hb] at hmem
    obtain ⟨b', hb', heq⟩ := List.mem_map.mp hmem
    exact Except.ok.inj heq ▸ hb'

/-- What succeeds over a list succeeds over its slices. -/
theorem mapM_slice {f : α → Except ε β} {l : List α} {out : List β} (h : l.mapM f = .ok out)
    (offset limit : Nat) :
    ((l.drop offset).take limit).mapM f = .ok ((out.drop offset).take limit) := by
  rw [mapM_eq_ok_iff] at h ⊢
  rw [List.map_take, List.map_drop, h, List.map_take, List.map_drop]

/-- A list that cannot be gone over fails with the error of one of its steps. -/
theorem mapM_error {f : α → Except ε β} {l : List α} (h : ¬ ∃ out, l.mapM f = .ok out) :
    ∃ a ∈ l, ∃ e, f a = .error e ∧ l.mapM f = .error e := by
  induction l with
  | nil => exact absurd ⟨[], rfl⟩ h
  | cons a l ih =>
    cases ha : f a with
    | error e => exact ⟨a, List.mem_cons_self, e, ha, by rw [List.mapM_cons, ha, error_bind]⟩
    | ok b =>
      have hrest : ¬ ∃ out, l.mapM f = .ok out := by
        rintro ⟨out, hout⟩
        exact h ⟨b :: out, by rw [List.mapM_cons, ha, ok_bind, hout, ok_bind]; rfl⟩
      obtain ⟨a', hmem, e, hfail, hall⟩ := ih hrest
      exact ⟨a', List.mem_cons_of_mem a hmem, e, hfail,
        by rw [List.mapM_cons, ha, ok_bind, hall, error_bind]⟩

section Checks
variable {f : α → Except ε Unit} {l : List α} {e : ε}

theorem forM_append_error {before after : List α} {a : α} (hbefore : ∀ b ∈ before, f b = .ok ())
    (ha : f a = .error e) : forM (before ++ a :: after) f = .error e := by
  induction before with
  | nil => rw [List.nil_append, List.forM_cons, ha, error_bind]
  | cons b before ih =>
    rw [List.forall_mem_cons] at hbefore
    rw [List.cons_append, List.forM_cons, hbefore.1, ok_bind, ih hbefore.2]

/-- A run of checks fails with the error of the first that fails. -/
theorem forM_eq_error_iff : forM l f = .error e ↔
    ∃ before a after, l = before ++ a :: after ∧ (∀ b ∈ before, f b = .ok ()) ∧ f a = .error e := by
  constructor
  · intro h
    induction l with
    | nil => cases h
    | cons a l ih =>
      rw [List.forM_cons] at h
      cases ha : f a with
      | error e' =>
        rw [ha, error_bind] at h
        exact ⟨[], a, l, rfl, by simp, ha.trans h⟩
      | ok u =>
        rw [ha, ok_bind] at h
        obtain ⟨before, b, after, rfl, hbefore, hb⟩ := ih h
        exact ⟨a :: before, b, after, rfl, List.forall_mem_cons.mpr ⟨ha, hbefore⟩, hb⟩
  · rintro ⟨before, a, after, rfl, hbefore, ha⟩
    exact forM_append_error hbefore ha

end Checks

end ContinuityOS.Library
