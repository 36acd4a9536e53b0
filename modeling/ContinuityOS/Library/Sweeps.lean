import Mathlib.Logic.Function.Basic
import Mathlib.Logic.Function.Iterate
import Mathlib.Order.Basic
import Mathlib.Order.Monotone.Basic
import Mathlib.Data.List.Nodup
import Mathlib.Tactic

/-! # Sweeps in place

A sweep recomputes the entries of a state one after the other, each from the state as it is by
then. An entry settles once all it reads has settled, in the same sweep where that comes earlier in
the order and in the next one where it comes later.
-/
namespace ContinuityOS.Library.Sweeps

universe u v
variable {ι : Type u} {α : Type v} [DecidableEq ι]

def sweep (value : ι → (ι → α) → α) (order : List ι) (σ : ι → α) : ι → α :=
  order.foldl (fun σ v => Function.update σ v (value v σ)) σ

section Invariants
variable {value : ι → (ι → α) → α} {order : List ι} {S : Set (ι → α)}

theorem sweep_mem (hS : ∀ v ∈ order, ∀ σ ∈ S, Function.update σ v (value v σ) ∈ S) {σ : ι → α}
    (hσ : σ ∈ S) : sweep value order σ ∈ S :=
  List.foldlRecOn order _ hσ fun σ hσ v hv => hS v hv σ hσ

theorem iterate_sweep_mem (hS : ∀ v ∈ order, ∀ σ ∈ S, Function.update σ v (value v σ) ∈ S)
    {σ : ι → α} (hσ : σ ∈ S) (n : ℕ) : (sweep value order)^[n] σ ∈ S := by
  induction n generalizing σ with
  | zero => exact hσ
  | succ n ih => exact ih (sweep_mem hS hσ)

variable [Preorder α]

/-- A sweep keeps the order of two states where every entry does. -/
theorem sweep_mono (hS : ∀ v ∈ order, ∀ σ ∈ S, Function.update σ v (value v σ) ∈ S)
    (hvalue : ∀ v ∈ order, MonotoneOn (value v) S) {σ τ : ι → α} (hσ : σ ∈ S) (hτ : τ ∈ S)
    (h : σ ≤ τ) : sweep value order σ ≤ sweep value order τ := by
  induction order generalizing σ τ with
  | nil => exact h
  | cons v order ih =>
    rw [List.forall_mem_cons] at hS hvalue
    refine ih hS.2 hvalue.2 (hS.1 σ hσ) (hS.1 τ hτ) ?_
    exact update_le_update_iff.mpr ⟨hvalue.1 hσ hτ h, fun u _ => h u⟩

theorem iterate_sweep_mono (hS : ∀ v ∈ order, ∀ σ ∈ S, Function.update σ v (value v σ) ∈ S)
    (hvalue : ∀ v ∈ order, MonotoneOn (value v) S) {σ τ : ι → α} (hσ : σ ∈ S) (hτ : τ ∈ S)
    (h : σ ≤ τ) (n : ℕ) : (sweep value order)^[n] σ ≤ (sweep value order)^[n] τ := by
  induction n generalizing σ τ with
  | zero => exact h
  | succ n ih => exact ih (sweep_mem hS hσ) (sweep_mem hS hτ) (sweep_mono hS hvalue hσ hτ h)

end Invariants

section Order
variable {value : ι → (ι → α) → α}

/-- An entry is recomputed earlier in the sweep than another. -/
def Earlier (order : List ι) (u v : ι) : Prop := u ∈ order ∧ order.idxOf u < order.idxOf v

instance (order : List ι) (u v : ι) : Decidable (Earlier order u v) :=
  inferInstanceAs (Decidable (_ ∧ _))

theorem sweep_append (before after : List ι) (σ : ι → α) :
    sweep value (before ++ after) σ = sweep value after (sweep value before σ) :=
  List.foldl_append

theorem sweep_of_not_mem {order : List ι} {v : ι} (h : v ∉ order) (σ : ι → α) :
    sweep value order σ v = σ v := by
  induction order generalizing σ with
  | nil => rfl
  | cons u order ih =>
    rw [List.mem_cons, not_or] at h
    exact (ih h.2 _).trans (Function.update_of_ne h.1 _ σ)

/-- An entry is computed from the new values of what comes earlier and the old ones of the rest. -/
theorem sweep_apply {order : List ι} (horder : order.Nodup) {v : ι} (h : v ∈ order) (σ : ι → α) :
    sweep value order σ v =
      value v fun u => if Earlier order u v then sweep value order σ u else σ u := by
  obtain ⟨before, after, rfl⟩ := List.append_of_mem h
  have hbefore : v ∉ before := fun hv =>
    (List.nodup_append.mp horder).2.2 v hv v List.mem_cons_self rfl
  have hafter : v ∉ after := (List.nodup_cons.mp (List.nodup_append.mp horder).2.1).1
  have hindex : (before ++ v :: after).idxOf v = before.length := by
    rw [List.idxOf_append_of_notMem hbefore, List.idxOf_cons_self, Nat.add_zero]
  have hearlier : ∀ u, Earlier (before ++ v :: after) u v ↔ u ∈ before := by
    intro u
    rw [Earlier, hindex]
    constructor
    · rintro ⟨-, hlt⟩
      by_contra hu
      rw [List.idxOf_append_of_notMem hu] at hlt
      omega
    · intro hu
      refine ⟨List.mem_append_left _ hu, ?_⟩
      rw [List.idxOf_append_of_mem hu]
      exact List.idxOf_lt_length_of_mem hu
  have hstep : sweep value (before ++ v :: after) σ v = value v (sweep value before σ) := by
    rw [sweep_append]
    exact (sweep_of_not_mem hafter _).trans (Function.update_self v _ _)
  rw [hstep]
  congr 1
  funext u
  rw [if_congr (hearlier u) rfl rfl]
  split_ifs with hu
  · -- what comes earlier is not touched again
    have hrest : u ∉ v :: after := fun hmem => (List.nodup_append.mp horder).2.2 u hu u hmem rfl
    rw [sweep_append, sweep_of_not_mem hrest]
  · exact sweep_of_not_mem hu σ

/-- A sweep changes nothing where every entry has the value computed for it. -/
theorem isFixedPt_iff {order : List ι} (horder : order.Nodup) {σ : ι → α} :
    Function.IsFixedPt (sweep value order) σ ↔ ∀ v ∈ order, value v σ = σ v := by
  constructor
  · intro h v hv
    have happly : sweep value order σ v = _ := sweep_apply horder hv σ
    rw [h.eq] at happly
    simpa only [ite_self] using happly.symm
  · intro h
    clear horder
    rw [Function.IsFixedPt]
    induction order with
    | nil => rfl
    | cons v order ih =>
      rw [List.forall_mem_cons] at h
      rw [sweep, List.foldl_cons, h.1, Function.update_eq_self]
      exact ih h.2

/-- A sweep changes nothing where it changes no entry of its order. -/
theorem isFixedPt_of_order {order : List ι} {σ : ι → α}
    (h : ∀ v ∈ order, sweep value order σ v = σ v) : Function.IsFixedPt (sweep value order) σ := by
  funext v
  by_cases hv : v ∈ order
  · exact h v hv
  · exact sweep_of_not_mem hv σ

end Order

section Settling
variable (reads : ι → ι → Prop) (order : List ι)

/-- An entry has its final value after a number of sweeps. -/
inductive SettlesBy : ℕ → ι → Prop
  | fixed {v : ι} (n : ℕ) : v ∉ order → SettlesBy n v
  | computed {v : ι} (n : ℕ) : (∀ u, reads v u → Earlier order u v → SettlesBy (n + 1) u) →
      (∀ u, reads v u → ¬ Earlier order u v → SettlesBy n u) → SettlesBy (n + 1) v

section Unsettled
variable {reads order}

theorem SettlesBy.succ {n : ℕ} {v : ι} (h : SettlesBy reads order n v) :
    SettlesBy reads order (n + 1) v := by
  induction h with
  | fixed n hv => exact .fixed _ hv
  | computed n _ _ ihearly ihlate => exact .computed _ ihearly ihlate

theorem SettlesBy.mono {n m : ℕ} {v : ι} (h : SettlesBy reads order n v) (hle : n ≤ m) :
    SettlesBy reads order m v := by
  induction m, hle using Nat.le_induction with
  | base => exact h
  | succ m _ ih => exact ih.succ

/-- What keeps an entry that reads another one from settling. -/
def Delays (reads : ι → ι → Prop) (order : List ι) (n : ℕ) (u v : ι) : Prop :=
  if Earlier order u v then ¬ SettlesBy reads order (n + 1) u else ¬ SettlesBy reads order n u

theorem Delays.mono {n m : ℕ} {u v : ι} (h : Delays reads order n u v) (hle : m ≤ n) :
    Delays reads order m u v := by
  unfold Delays at h ⊢
  split_ifs at h ⊢
  · exact fun hsettles => h (hsettles.mono (by omega))
  · exact fun hsettles => h (hsettles.mono hle)

/-- An entry has one that it reads and that is to blame whenever it has not settled. -/
theorem exists_delays (reads : ι → ι → Prop) (order : List ι) {v : ι} (hv : ∃ u, reads v u) (n : ℕ) :
    ∃ u, reads v u ∧ ∀ m < n, ¬ SettlesBy reads order (m + 1) v → Delays reads order m u v := by
  induction n with
  | zero =>
    obtain ⟨u, hu⟩ := hv
    exact ⟨u, hu, fun m hm => absurd hm (Nat.not_lt_zero m)⟩
  | succ n ih =>
    by_cases hsettles : SettlesBy reads order (n + 1) v
    · obtain ⟨u, hu, hdelays⟩ := ih
      refine ⟨u, hu, fun m hm hnot => hdelays m ?_ hnot⟩
      rcases Nat.lt_succ_iff_lt_or_eq.mp hm with hlt | rfl
      · exact hlt
      · exact absurd hsettles hnot
    · have hblame : ∃ u, reads v u ∧ Delays reads order n u v := by
        by_contra hnone
        push Not at hnone
        refine hsettles (.computed n (fun u hu hearlier => ?_) fun u hu hlate => ?_)
        · have hnot := hnone u hu
          rwa [Delays, if_pos hearlier, not_not] at hnot
        · have hnot := hnone u hu
          rwa [Delays, if_neg hlate, not_not] at hnot
      obtain ⟨u, hu, hdelays⟩ := hblame
      exact ⟨u, hu, fun m hm _ => hdelays.mono (Nat.le_of_lt_succ hm)⟩

/-- Where every entry follows one that delays it, what has not settled is still stale. -/
theorem stale_of_not_settlesBy {value : ι → (ι → α) → α} (horder : order.Nodup) {N : ℕ}
    {parent : ι → ι} (hparent : ∀ v ∈ order, ∀ m < N, ¬ SettlesBy reads order (m + 1) v →
      Delays reads order m (parent v) v)
    (Stale : α → Prop) {σ : ι → α} (hinitial : ∀ v ∈ order, Stale (σ v))
    (hvalue : ∀ v ∈ order, ∀ τ : ι → α, Stale (τ (parent v)) → Stale (value v τ)) {n : ℕ}
    (hn : n ≤ N) {v : ι} (hv : ¬ SettlesBy reads order n v) :
    Stale ((sweep value order)^[n] σ v) := by
  induction n generalizing v with
  | zero =>
    by_cases hmem : v ∈ order
    · exact hinitial v hmem
    · exact absurd (.fixed 0 hmem) hv
  | succ n ih =>
    -- within the sweep, along the order
    induction hindex : order.idxOf v using Nat.strong_induction_on generalizing v with
    | h index ihindex =>
      by_cases hmem : v ∈ order
      · have hdelays := hparent v hmem n hn hv
        rw [Function.iterate_succ_apply', sweep_apply horder hmem]
        apply hvalue v hmem
        unfold Delays at hdelays
        split_ifs at hdelays ⊢ with hearlier
        · have hstale := ihindex _ (hindex ▸ hearlier.2) hdelays rfl
          rwa [Function.iterate_succ_apply'] at hstale
        · exact ih (Nat.le_of_succ_le hn) hdelays
      · exact absurd (.fixed _ hmem) hv

end Unsettled

variable {reads order} {value : ι → (ι → α) → α} (horder : order.Nodup)
  (hreads : ∀ v σ τ, (∀ u, reads v u → σ u = τ u) → value v σ = value v τ)
include horder hreads

/-- A settled entry does not change any more. -/
theorem SettlesBy.stationary {n : ℕ} {v : ι} (h : SettlesBy reads order n v) (σ : ι → α) {m : ℕ}
    (hm : n ≤ m) : (sweep value order)^[m + 1] σ v = (sweep value order)^[m] σ v := by
  induction h generalizing m with
  | fixed n hv =>
    rw [Function.iterate_succ_apply']
    exact sweep_of_not_mem hv _
  | @computed v n hearly hlate ihearly ihlate =>
    obtain ⟨k, rfl⟩ : ∃ k, m = k + 1 := ⟨m - 1, by omega⟩
    rw [Function.iterate_succ_apply', Function.iterate_succ_apply' _ k]
    by_cases hv : v ∈ order
    · rw [sweep_apply horder hv, sweep_apply horder hv]
      refine hreads v _ _ fun u hu => ?_
      simp only [← Function.iterate_succ_apply' (sweep value order)]
      split_ifs with hearlier
      · exact ihearly u hu hearlier hm
      · exact ihlate u hu hearlier (Nat.le_of_succ_le_succ hm)
    · rw [sweep_of_not_mem hv]

/-- A settled entry agrees with what is computed from the state. -/
theorem SettlesBy.solved {n : ℕ} {v : ι} (h : SettlesBy reads order n v) (hv : v ∈ order)
    (σ : ι → α) {m : ℕ} (hm : n ≤ m) :
    (sweep value order)^[m] σ v = value v ((sweep value order)^[m] σ) := by
  cases h with
  | fixed n hnot => exact absurd hv hnot
  | computed n hearly hlate =>
    obtain ⟨k, rfl⟩ : ∃ k, m = k + 1 := ⟨m - 1, by omega⟩
    rw [Function.iterate_succ_apply', sweep_apply horder hv]
    refine hreads v _ _ fun u hu => ?_
    split_ifs with hearlier
    · rfl
    · have hsettled := (hlate u hu hearlier).stationary horder hreads σ (Nat.le_of_succ_le_succ hm)
      rw [← hsettled, Function.iterate_succ_apply']

/-- Where all entries have settled, a further sweep changes nothing. -/
theorem SettlesBy.isFixedPt {n : ℕ} (h : ∀ v ∈ order, SettlesBy reads order n v) (σ : ι → α) :
    Function.IsFixedPt (sweep value order) ((sweep value order)^[n] σ) :=
  (isFixedPt_iff horder).mpr fun v hv => ((h v hv).solved horder hreads hv σ le_rfl).symm

end Settling

section Solutions
variable {reads : ι → ι → Prop} {order : List ι}

end Solutions

end ContinuityOS.Library.Sweeps
