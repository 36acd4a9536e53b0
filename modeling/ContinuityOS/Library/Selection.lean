import Mathlib.Data.List.Sublists
import Mathlib.Order.Defs.LinearOrder
import Mathlib.Tactic

/-! # Exhaustive selection

All sublists of a list by size, in index order, and the element a loop keeps when
it replaces its incumbent only by a strictly better candidate.
-/
namespace ContinuityOS.Library

universe u v
variable {α : Type u} {β : Type v}

/-- Sublists of a given length, in lexicographic order of their positions. -/
def combinations : ℕ → List α → List (List α)
  | 0, _ => [[]]
  | _ + 1, [] => []
  | n + 1, a :: l => (combinations n l).map (a :: ·) ++ combinations (n + 1) l

theorem mem_combinations (n : ℕ) (l s : List α) :
    s ∈ combinations n l ↔ s.Sublist l ∧ s.length = n := by
  induction l generalizing n s with
  | nil =>
    cases n with
    | zero => simp [combinations]
    | succ n =>
      simp only [combinations, List.not_mem_nil, List.sublist_nil, false_iff, not_and]
      rintro rfl
      simp
  | cons a l ih =>
    cases n with
    | zero =>
      simp only [combinations, List.mem_singleton, List.length_eq_zero_iff]
      constructor
      · rintro rfl
        exact ⟨List.nil_sublist _, rfl⟩
      · exact fun h => h.2
    | succ n =>
      simp only [combinations, List.mem_append, List.mem_map, ih, List.sublist_cons_iff]
      constructor
      · rintro (⟨t, ⟨ht, hlen⟩, rfl⟩ | ⟨hs, hlen⟩)
        · exact ⟨Or.inr ⟨t, rfl, ht⟩, by simp [hlen]⟩
        · exact ⟨Or.inl hs, hlen⟩
      · rintro ⟨hs | ⟨t, rfl, ht⟩, hlen⟩
        · exact Or.inr ⟨hs, hlen⟩
        · exact Or.inl ⟨t, ⟨ht, by simpa using hlen⟩, rfl⟩

/-- Sublists are told apart by a key that is distinct on the whole list. -/
theorem sublist_eq_of_map_eq {l s t : List α} (key : α → β) (hl : (l.map key).Nodup)
    (hs : s.Sublist l) (ht : t.Sublist l) (h : s.map key = t.map key) : s = t := by
  induction s generalizing t with
  | nil => exact (List.map_eq_nil_iff.mp h.symm).symm
  | cons a s ih =>
    cases t with
    | nil => simp at h
    | cons b t =>
      simp only [List.map_cons, List.cons.injEq] at h
      have hab := List.inj_on_of_nodup_map hl (hs.subset List.mem_cons_self)
        (ht.subset List.mem_cons_self) h.1
      rw [hab, ih (List.sublist_of_cons_sublist hs) (List.sublist_of_cons_sublist ht) h.2]

/-- Keep the incumbent unless the candidate is better. -/
def keepBetter (better : α → α → Bool) (best : Option α) (a : α) : Option α :=
  match best with
  | none => some a
  | some b => if better a b then some a else some b

variable [LinearOrder β]

/-- The kept element is one of those seen, and none of them ranks before it. -/
def KeepsLeast (rank : α → β) (seen : α → Prop) (best : Option α) : Prop :=
  match best with
  | none => ∀ a, ¬ seen a
  | some b => seen b ∧ ∀ a, seen a → rank b ≤ rank a

theorem keepBetter_keepsLeast {better : α → α → Bool} {rank : α → β}
    (hrank : ∀ a b, better a b = true ↔ rank a < rank b) {seen : α → Prop} {best : Option α}
    (h : KeepsLeast rank seen best) (a : α) :
    KeepsLeast rank (fun x => seen x ∨ x = a) (keepBetter better best a) := by
  cases best with
  | none =>
    refine ⟨Or.inr rfl, ?_⟩
    rintro x (hx | rfl)
    · exact absurd hx (h x)
    · exact le_rfl
  | some b =>
    obtain ⟨hb, hleast⟩ := h
    by_cases hlt : better a b = true
    · rw [keepBetter, if_pos hlt]
      have hab := (hrank a b).mp hlt
      refine ⟨Or.inr rfl, ?_⟩
      rintro x (hx | rfl)
      · exact hab.le.trans (hleast x hx)
      · exact le_rfl
    · rw [keepBetter, if_neg hlt]
      rw [hrank, not_lt] at hlt
      refine ⟨Or.inl hb, ?_⟩
      rintro x (hx | rfl)
      · exact hleast x hx
      · exact hlt

theorem foldl_keepBetter_keepsLeast {better : α → α → Bool} {rank : α → β}
    (hrank : ∀ a b, better a b = true ↔ rank a < rank b) (l : List α) {seen : α → Prop}
    {best : Option α} (h : KeepsLeast rank seen best) :
    KeepsLeast rank (fun x => seen x ∨ x ∈ l) (l.foldl (keepBetter better) best) := by
  induction l generalizing seen best with
  | nil => simpa using h
  | cons a l ih =>
    have hnext := ih (keepBetter_keepsLeast hrank h a)
    simpa [or_assoc] using hnext

end ContinuityOS.Library
