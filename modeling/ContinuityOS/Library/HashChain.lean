import Mathlib.Data.List.Basic
import Mathlib.Data.List.Nodup
import Mathlib.Tactic

/-! # Chains of entries linked by digests

An entry's content names the digest of its predecessor, and the entry stores the digest
of its own content. Where digests do not collide, the last stored digest determines
every earlier content, and no two entries have one predecessor.
-/
namespace ContinuityOS.Library

structure HashChain (α γ η : Type*) where
  content : α → γ
  previous : γ → η
  digest : α → η
  stored : α → η

namespace HashChain
variable {α γ η : Type*} (C : HashChain α γ η)

def Linked : η → List α → Prop
  | _, [] => True
  | g, a :: l => C.previous (C.content a) = g ∧ C.digest a = C.stored a ∧ Linked (C.stored a) l

/-- The digest a new entry has to name. -/
def head : η → List α → η
  | g, [] => g
  | _, a :: l => head (C.stored a) l

def CollisionFree (l m : List α) : Prop :=
  ∀ a ∈ l, ∀ b ∈ m, C.digest a = C.digest b → C.content a = C.content b

theorem head_append (g : η) (l m : List α) : C.head g (l ++ m) = C.head (C.head g l) m := by
  induction l generalizing g with
  | nil => rfl
  | cons a l ih => exact ih (C.stored a)

theorem head_concat (g : η) (l : List α) (a : α) : C.head g (l ++ [a]) = C.stored a := by
  rw [head_append]
  rfl

theorem linked_append (g : η) (l m : List α) :
    C.Linked g (l ++ m) ↔ C.Linked g l ∧ C.Linked (C.head g l) m := by
  induction l generalizing g with
  | nil => simp [Linked, head]
  | cons a l ih => simp only [List.cons_append, Linked, head, ih, and_assoc]

theorem linked_concat (g : η) (l : List α) (a : α) :
    C.Linked g (l ++ [a]) ↔
      C.Linked g l ∧ C.previous (C.content a) = C.head g l ∧ C.digest a = C.stored a := by
  simp [linked_append, Linked]

theorem head_eq_getLast? (g : η) (l : List α) :
    C.head g l = (l.getLast?.map C.stored).getD g := by
  cases l using List.reverseRecOn with
  | nil => rfl
  | append_singleton l a => rw [head_concat, List.getLast?_concat, Option.map_some, Option.getD_some]

variable {C} {g g' : η} {l m : List α}

theorem CollisionFree.mono {l' m' : List α} (h : C.CollisionFree l m) (hl : l' ⊆ l) (hm : m' ⊆ m) :
    C.CollisionFree l' m' :=
  fun a ha b hb => h a (hl ha) b (hm hb)

theorem CollisionFree.symm (h : C.CollisionFree l m) : C.CollisionFree m l :=
  fun a ha b hb hab => (h b hb a ha hab.symm).symm

/-- Chains of one length with one last digest carry the same contents and digests,
and start from the same one. -/
theorem agree_of_head_eq (hl : C.Linked g l) (hm : C.Linked g' m) (hcf : C.CollisionFree l m)
    (hlen : l.length = m.length) (hhead : C.head g l = C.head g' m) :
    l.map C.content = m.map C.content ∧ l.map C.stored = m.map C.stored ∧ g = g' := by
  induction l using List.reverseRecOn generalizing m with
  | nil =>
    rw [List.length_nil, eq_comm, List.length_eq_zero_iff] at hlen
    subst hlen
    exact ⟨rfl, rfl, hhead⟩
  | append_singleton l a ih =>
    cases m using List.reverseRecOn with
    | nil => simp at hlen
    | append_singleton m b =>
      rw [linked_concat] at hl hm
      rw [head_concat, head_concat] at hhead
      have hdigest : C.digest a = C.digest b := by rw [hl.2.2, hm.2.2, hhead]
      have hcontent : C.content a = C.content b :=
        hcf a (List.mem_append_right l List.mem_cons_self) b
          (List.mem_append_right m List.mem_cons_self) hdigest
      have hprevious : C.head g l = C.head g' m := by rw [← hl.2.1, ← hm.2.1, hcontent]
      have hlen' : l.length = m.length := by simpa using hlen
      have hsub := hcf.mono (List.subset_append_left l [a]) (List.subset_append_left m [b])
      have hrest := ih hl.1 hm.1 hsub hlen' hprevious
      simp only [List.map_append, List.map_cons, List.map_nil, hrest.1, hrest.2.1, hcontent, hhead]
      exact ⟨trivial, trivial, hrest.2.2⟩

/-- A longer chain with the same last digest stores the digest both chains start from. -/
theorem start_stored_of_length_lt (hl : C.Linked g l) (hm : C.Linked g m)
    (hcf : C.CollisionFree l m) (hlen : l.length < m.length) (hhead : C.head g l = C.head g m) :
    ∃ a ∈ m, C.stored a = g := by
  have hsplit : m.take (m.length - l.length) ++ m.drop (m.length - l.length) = m :=
    List.take_append_drop _ m
  have hm' := hm
  rw [← hsplit, linked_append] at hm'
  have hhead' := hhead
  rw [← hsplit, head_append] at hhead'
  have hlen' : l.length = (m.drop (m.length - l.length)).length := by
    rw [List.length_drop]
    omega
  have hsub := hcf.mono (List.Subset.refl l) (List.drop_subset (m.length - l.length) m)
  have hstart := (agree_of_head_eq hl hm'.2 hsub hlen' hhead').2.2
  cases hpre : m.take (m.length - l.length) using List.reverseRecOn with
  | nil =>
    have hzero := congrArg List.length hpre
    rw [List.length_take, List.length_nil] at hzero
    omega
  | append_singleton pre a =>
    rw [hpre, head_concat] at hstart
    have hmem : a ∈ m.take (m.length - l.length) := by
      rw [hpre]
      exact List.mem_append_right pre List.mem_cons_self
    exact ⟨a, List.mem_of_mem_take hmem, hstart.symm⟩

/-- The entry at a position names the head of what precedes it. -/
theorem previous_eq_head (hl : C.Linked g l) {i : ℕ} (hi : i < l.length) :
    C.previous (C.content l[i]) = C.head g (l.take i) := by
  have hsplit : l.take i ++ l[i] :: l.drop (i + 1) = l := by
    rw [List.getElem_cons_drop]
    exact List.take_append_drop i l
  rw [← hsplit, linked_append] at hl
  exact hl.2.1

theorem previous_nodup (hl : C.Linked g l) (hcf : C.CollisionFree l l)
    (hstart : ∀ a ∈ l, C.stored a ≠ g) : (l.map fun a => C.previous (C.content a)).Nodup := by
  rw [List.Nodup, List.pairwise_map, List.pairwise_iff_getElem]
  intro i j hi hj hij heq
  rw [previous_eq_head hl hi, previous_eq_head hl hj] at heq
  have hlinked (k : ℕ) : C.Linked g (l.take k) := by
    have h := hl
    rw [← List.take_append_drop k l, linked_append] at h
    exact h.1
  have hlen : (l.take i).length < (l.take j).length := by
    rw [List.length_take, List.length_take]
    omega
  have hsub := hcf.mono (List.take_subset i l) (List.take_subset j l)
  obtain ⟨a, ha, hstored⟩ := start_stored_of_length_lt (hlinked i) (hlinked j) hsub hlen heq
  exact hstart a (List.mem_of_mem_take ha) hstored

end HashChain

end ContinuityOS.Library
