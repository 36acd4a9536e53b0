import Mathlib.Combinatorics.SimpleGraph.Connectivity.Connected
import Mathlib.SetTheory.Cardinal.Finite
import Mathlib.Tactic

/-! # Counting connected components

The components of a finite set under a relation, and how their number compares
when one relation connects what another does.
-/
namespace ContinuityOS.Library
open Relation

universe u
variable {α : Type u}

/-- The graph on a finite set that joins related elements. -/
def joinGraph (S : Finset α) (joined : α → α → Prop) : SimpleGraph S :=
  SimpleGraph.fromRel fun a b => joined a b

noncomputable def componentCount (S : Finset α) (joined : α → α → Prop) : ℕ :=
  Nat.card (joinGraph S joined).ConnectedComponent

/-- Both elements are in the set and related. -/
def JoinedIn (S : Finset α) (joined : α → α → Prop) (a b : α) : Prop :=
  a ∈ S ∧ b ∈ S ∧ joined a b

/-- Connected by a chain of related elements of the set. -/
def Connected (S : Finset α) (joined : α → α → Prop) : α → α → Prop :=
  EqvGen (JoinedIn S joined)

theorem eqvGen_of_forall {r s : α → α → Prop} (h : ∀ a b, r a b → EqvGen s a b) {x y : α}
    (hxy : EqvGen r x y) : EqvGen s x y := by
  induction hxy with
  | rel a b hab => exact h a b hab
  | refl a => exact .refl a
  | symm a b _ ih => exact ih.symm
  | trans a b c _ _ ih ih' => exact ih.trans _ _ _ ih'

theorem Connected.mem_iff {S : Finset α} {joined : α → α → Prop} {a b : α}
    (h : Connected S joined a b) : a ∈ S ↔ b ∈ S := by
  induction h with
  | rel a b hab => exact ⟨fun _ => hab.2.1, fun _ => hab.1⟩
  | refl a => exact Iff.rfl
  | symm a b _ ih => exact ih.symm
  | trans a b c _ _ ih ih' => exact ih.trans ih'

theorem reachable_of_connected {S : Finset α} {joined : α → α → Prop} {a b : α}
    (h : Connected S joined a b) (ha : a ∈ S) (hb : b ∈ S) :
    (joinGraph S joined).Reachable ⟨a, ha⟩ ⟨b, hb⟩ := by
  induction h with
  | rel a b hab =>
    by_cases hne : a = b
    · subst hne
      exact SimpleGraph.Reachable.refl _
    · apply SimpleGraph.Adj.reachable
      rw [joinGraph, SimpleGraph.fromRel_adj]
      exact ⟨fun he => hne (congrArg Subtype.val he), Or.inl hab.2.2⟩
  | refl a => exact SimpleGraph.Reachable.refl _
  | symm a b _ ih => exact (ih hb ha).symm
  | trans a b c hab _ ih ih' =>
    have hmid : b ∈ S := (Connected.mem_iff hab).mp ha
    exact (ih ha hmid).trans (ih' hmid hb)

theorem reachable_iff_connected {S : Finset α} {joined : α → α → Prop} (a b : S) :
    (joinGraph S joined).Reachable a b ↔ Connected S joined a b := by
  constructor
  · rintro ⟨walk⟩
    induction walk with
    | nil => exact .refl _
    | cons hadj _ ih =>
      rw [joinGraph, SimpleGraph.fromRel_adj] at hadj
      refine EqvGen.trans _ _ _ ?_ ih
      rcases hadj.2 with h | h
      · exact .rel _ _ ⟨Subtype.property _, Subtype.property _, h⟩
      · exact .symm _ _ (.rel _ _ ⟨Subtype.property _, Subtype.property _, h⟩)
  · intro h
    exact reachable_of_connected h a.property b.property

/-- A function whose kernel is connectedness takes one value for each component. -/
theorem card_image_eq_componentCount [DecidableEq α] {S : Finset α} {joined : α → α → Prop} {root : α → α}
    (h : ∀ x ∈ S, ∀ y ∈ S, root x = root y ↔ Connected S joined x y) :
    (S.image root).card = componentCount S joined := by
  have hlift : ∀ (a b : S) (p : (joinGraph S joined).Walk a b), p.IsPath → root a = root b := by
    intro a b p _
    exact (h a a.property b b.property).mpr ((reachable_iff_connected a b).mp ⟨p⟩)
  let toImage : (joinGraph S joined).ConnectedComponent → S.image root := fun c =>
    ⟨c.lift (fun a : S => root a) hlift, by
      induction c using SimpleGraph.ConnectedComponent.ind with
      | h a => exact Finset.mem_image_of_mem root a.property⟩
  have hbij : Function.Bijective toImage := by
    constructor
    · intro c d
      induction c using SimpleGraph.ConnectedComponent.ind with
      | h a =>
        induction d using SimpleGraph.ConnectedComponent.ind with
        | h b =>
          intro heq
          apply SimpleGraph.ConnectedComponent.sound
          rw [reachable_iff_connected, ← h a a.property b b.property]
          exact congrArg Subtype.val heq
    · rintro ⟨r, hr⟩
      obtain ⟨a, ha, rfl⟩ := Finset.mem_image.mp hr
      exact ⟨(joinGraph S joined).connectedComponentMk ⟨a, ha⟩, rfl⟩
  rw [componentCount, Nat.card_congr (Equiv.ofBijective toImage hbij), Nat.card_eq_fintype_card,
    Fintype.card_coe]

section Comparison
variable {S : Finset α} {joined joined' : α → α → Prop}
  (h : ∀ x ∈ S, ∀ y ∈ S, joined x y → Connected S joined' x y)
include h

theorem Connected.mono_of_forall {x y : α} (hxy : Connected S joined x y) :
    Connected S joined' x y :=
  eqvGen_of_forall (fun a b hab => h a hab.1 b hab.2.1 hab.2.2) hxy

theorem reachable_mono (a b : S) (hab : (joinGraph S joined).Reachable a b) :
    (joinGraph S joined').Reachable a b := by
  rw [reachable_iff_connected] at hab ⊢
  exact hab.mono_of_forall h

/-- Each component lies in one component of the coarser relation. -/
def coarsen : (joinGraph S joined).ConnectedComponent → (joinGraph S joined').ConnectedComponent :=
  SimpleGraph.ConnectedComponent.lift (joinGraph S joined').connectedComponentMk
    fun a b p _ => SimpleGraph.ConnectedComponent.sound (reachable_mono h a b ⟨p⟩)

theorem coarsen_surjective : Function.Surjective (coarsen h) := by
  intro c
  induction c using SimpleGraph.ConnectedComponent.ind with
  | h a => exact ⟨(joinGraph S joined).connectedComponentMk a, rfl⟩

theorem componentCount_le : componentCount S joined' ≤ componentCount S joined :=
  Nat.card_le_card_of_surjective (coarsen h) (coarsen_surjective h)

/-- With no fewer components a coarser relation connects nothing more. -/
theorem connected_of_componentCount_le (hcard : componentCount S joined ≤ componentCount S joined')
    {x y : α} (hx : x ∈ S) (hy : y ∈ S) (hxy : Connected S joined' x y) : Connected S joined x y := by
  have hinj : Function.Injective (coarsen h) :=
    ((coarsen_surjective h).bijective_of_nat_card_le hcard).injective
  have hreach : (joinGraph S joined').Reachable ⟨x, hx⟩ ⟨y, hy⟩ :=
    (reachable_iff_connected _ _).mpr hxy
  have hmk : (joinGraph S joined).connectedComponentMk ⟨x, hx⟩ =
      (joinGraph S joined).connectedComponentMk ⟨y, hy⟩ :=
    hinj (SimpleGraph.ConnectedComponent.sound hreach)
  exact (reachable_iff_connected _ _).mp (SimpleGraph.ConnectedComponent.exact hmk)

end Comparison

theorem connected_kernel {S : Finset α} {root : α → α} {x y : α}
    (h : Connected S (fun a b => root a = root b) x y) : root x = root y := by
  induction h with
  | rel a b hab => exact hab.2.2
  | refl a => rfl
  | symm a b _ ih => exact ih.symm
  | trans a b c _ _ ih ih' => exact ih.trans ih'

/-- A function that separates no unconnected elements bounds the number of components. -/
theorem componentCount_le_card_image [DecidableEq α] {S : Finset α} {joined : α → α → Prop}
    {root : α → α} (h : ∀ x ∈ S, ∀ y ∈ S, root x = root y → Connected S joined x y) :
    componentCount S joined ≤ (S.image root).card := by
  have hkernel : (S.image root).card = componentCount S fun a b => root a = root b :=
    card_image_eq_componentCount fun x hx y hy =>
      ⟨fun hxy => .rel x y ⟨hx, hy, hxy⟩, connected_kernel⟩
  rw [hkernel]
  exact componentCount_le h

/-- Two clusters are there when two elements are not connected. -/
theorem two_le_componentCount_iff {S : Finset α} {joined : α → α → Prop} :
    2 ≤ componentCount S joined ↔ ∃ a ∈ S, ∃ b ∈ S, ¬ Connected S joined a b := by
  have hmore : 2 ≤ componentCount S joined ↔ Nontrivial (joinGraph S joined).ConnectedComponent :=
    Finite.one_lt_card_iff_nontrivial
  rw [hmore]
  constructor
  · rintro ⟨c, d, hne⟩
    induction c using SimpleGraph.ConnectedComponent.ind with
    | h a =>
      induction d using SimpleGraph.ConnectedComponent.ind with
      | h b =>
        refine ⟨a, a.2, b, b.2, fun hconnected => hne ?_⟩
        exact SimpleGraph.ConnectedComponent.sound ((reachable_iff_connected a b).mpr hconnected)
  · rintro ⟨a, ha, b, hb, hnot⟩
    refine ⟨(joinGraph S joined).connectedComponentMk ⟨a, ha⟩,
      (joinGraph S joined).connectedComponentMk ⟨b, hb⟩, fun heq => hnot ?_⟩
    exact (reachable_iff_connected _ _).mp (SimpleGraph.ConnectedComponent.exact heq)

end ContinuityOS.Library
