import Mathlib.Data.List.Sort
import Mathlib.Data.Finset.Basic
import Mathlib.Tactic

/-! # Stable sorting by a key

Sorting is stable insertion. Elements with distinct keys have one sorted order,
so the result does not depend on the order of the input list.
-/
namespace ContinuityOS.Library

universe u v
variable {α : Type u} {β : Type v} [LinearOrder β]

def sortedBy (key : α → β) (l : List α) : List α :=
  l.insertionSort (fun a b => key a ≤ key b)

theorem sortedBy_perm (key : α → β) (l : List α) : (sortedBy key l).Perm l :=
  List.perm_insertionSort _ l

theorem mem_sortedBy (key : α → β) (l : List α) (a : α) : a ∈ sortedBy key l ↔ a ∈ l :=
  (sortedBy_perm key l).mem_iff

theorem pairwise_sortedBy (key : α → β) (l : List α) :
    (sortedBy key l).Pairwise (fun a b => key a ≤ key b) := by
  have : Std.Total (fun a b : α => key a ≤ key b) := ⟨fun a b => le_total (key a) (key b)⟩
  have : IsTrans α (fun a b : α => key a ≤ key b) := ⟨fun _ _ _ => le_trans⟩
  exact List.pairwise_insertionSort _ l

theorem sortedBy_map {γ : Type*} (key : α → β) (f : γ → α) (l : List γ) :
    sortedBy key (l.map f) = (sortedBy (fun c => key (f c)) l).map f :=
  (List.map_insertionSort _ _ f l fun _ _ _ _ => Iff.rfl).symm

theorem sortedBy_congr {key key' : α → β} {l : List α} (h : ∀ a ∈ l, key a = key' a) :
    sortedBy key l = sortedBy key' l := by
  have hid := List.map_insertionSort (fun a b : α => key a ≤ key b) (fun a b => key' a ≤ key' b) id l
    fun a ha b hb => by rw [h a ha, h b hb]; rfl
  rwa [List.map_id, List.map_id] at hid

/-- Lists with the same elements and distinct keys sort to the same list. -/
theorem sortedBy_eq_of_perm (key : α → β) {l l' : List α} (h : l.Perm l')
    (hk : l.Pairwise (fun a b => key a ≠ key b)) : sortedBy key l = sortedBy key l' := by
  have hp : (sortedBy key l).Perm (sortedBy key l') :=
    (sortedBy_perm key l).trans (h.trans (sortedBy_perm key l').symm)
  have hd : (sortedBy key l).Pairwise (fun a b => key a ≠ key b) :=
    ((sortedBy_perm key l).pairwise_iff (fun h => h.symm)).mpr hk
  have hd' := (hp.pairwise_iff (fun h => h.symm)).mp hd
  have hlt (m : List α) (hm : m.Pairwise (fun a b => key a ≤ key b))
      (hm' : m.Pairwise (fun a b => key a ≠ key b)) : m.Pairwise (fun a b => key a < key b) :=
    (hm.and hm').imp (fun h => lt_of_le_of_ne h.1 h.2)
  exact hp.eq_of_pairwise (fun a b _ _ hab hba => absurd (lt_trans hab hba) (lt_irrefl _))
    (hlt _ (pairwise_sortedBy key l) hd) (hlt _ (pairwise_sortedBy key l') hd')

/-- Stability: selected elements already in key order keep that order. -/
theorem filter_sortedBy (key : α → β) (p : α → Bool) (l : List α)
    (h : (l.filter p).Pairwise (fun a b => key a ≤ key b)) :
    (sortedBy key l).filter p = l.filter p := by
  have : Std.Total (fun a b : α => key a ≤ key b) := ⟨fun a b => le_total (key a) (key b)⟩
  have : IsTrans α (fun a b : α => key a ≤ key b) := ⟨fun _ _ _ => le_trans⟩
  have hs : (l.filter p).Sublist (sortedBy key l) :=
    List.sublist_insertionSort h List.filter_sublist
  have hs' : (l.filter p).Sublist ((sortedBy key l).filter p) := by
    simpa [List.filter_filter] using hs.filter p
  exact (hs'.eq_of_length ((sortedBy_perm key l).filter p).length_eq.symm).symm

theorem orderedInsert_of_forall_le (key : α → β) {a : α} {l : List α}
    (h : ∀ b ∈ l, key a ≤ key b) :
    l.orderedInsert (fun a b => key a ≤ key b) a = a :: l := by
  cases l with
  | nil => rfl
  | cons b l => exact List.orderedInsert_cons_of_le _ l (h b List.mem_cons_self)

theorem filter_orderedInsert (key : α → β) (p : α → Bool) (a : α) {l : List α}
    (hl : l.Pairwise fun a b => key a ≤ key b) :
    (l.orderedInsert (fun a b => key a ≤ key b) a).filter p =
      if p a then (l.filter p).orderedInsert (fun a b => key a ≤ key b) a else l.filter p := by
  induction hl with
  | nil => by_cases hp : p a <;> simp [hp]
  | @cons b l hb hl ih =>
    by_cases hab : key a ≤ key b
    · have hall : ∀ c ∈ (b :: l).filter p, key a ≤ key c := by
        intro c hc
        cases List.mem_of_mem_filter hc with
        | head => exact hab
        | tail _ hc => exact hab.trans (hb c hc)
      rw [List.orderedInsert_cons_of_le _ l hab, List.filter_cons]
      by_cases hp : p a
      · rw [if_pos hp, if_pos hp, orderedInsert_of_forall_le key hall]
      · rw [if_neg hp, if_neg hp]
    · rw [List.orderedInsert_of_not_le _ l hab, List.filter_cons, List.filter_cons, ih]
      by_cases hp : p a <;> by_cases hq : p b
      · simp [hp, hq, hab]
      · simp [hp, hq]
      · simp [hp, hq]
      · simp [hp, hq]

/-- Sorting the selected elements is selecting among the sorted ones. -/
theorem sortedBy_filter (key : α → β) (p : α → Bool) (l : List α) :
    sortedBy key (l.filter p) = (sortedBy key l).filter p := by
  induction l with
  | nil => rfl
  | cons a l ih =>
    have hcons : sortedBy key (a :: l) =
        (sortedBy key l).orderedInsert (fun a b => key a ≤ key b) a := rfl
    rw [hcons, filter_orderedInsert key p a (pairwise_sortedBy key l), ← ih, List.filter_cons]
    by_cases hp : p a
    · rw [if_pos hp, if_pos hp]
      rfl
    · rw [if_neg hp, if_neg hp]

/-- The elements of a finite set in increasing order. -/
def sortedSet (s : Finset β) : List β :=
  Quotient.liftOn s.1 (sortedBy id) (fun l l' h => by
    have hp : (sortedBy id l).Perm (sortedBy id l') :=
      (sortedBy_perm id l).trans (h.trans (sortedBy_perm id l').symm)
    exact hp.eq_of_pairwise (fun a b _ _ hab hba => le_antisymm hab hba)
      (pairwise_sortedBy id l) (pairwise_sortedBy id l'))

theorem mem_sortedSet (s : Finset β) (b : β) : b ∈ sortedSet s ↔ b ∈ s := by
  obtain ⟨⟨l⟩, hl⟩ := s
  exact mem_sortedBy id l b

theorem sortedSet_toFinset (s : Finset β) : (sortedSet s).toFinset = s := by
  ext b
  rw [List.mem_toFinset, mem_sortedSet]

theorem nodup_sortedSet (s : Finset β) : (sortedSet s).Nodup := by
  obtain ⟨⟨l⟩, hl⟩ := s
  exact (sortedBy_perm id l).nodup_iff.mpr hl

theorem pairwise_sortedSet (s : Finset β) : (sortedSet s).Pairwise (· < ·) := by
  have hle : (sortedSet s).Pairwise (· ≤ ·) := by
    obtain ⟨⟨l⟩, hl⟩ := s
    exact pairwise_sortedBy id l
  exact (hle.and (nodup_sortedSet s)).imp fun h => lt_of_le_of_ne h.1 h.2

theorem length_sortedSet (s : Finset β) : (sortedSet s).length = s.card := by
  obtain ⟨⟨l⟩, hl⟩ := s
  exact (sortedBy_perm id l).length_eq

end ContinuityOS.Library
