import Mathlib.Data.Nat.Log
import Mathlib.Data.Set.Function
import Mathlib.Tactic

/-! # Merkle trees over lists

Levels are made by joining neighbours, the last node of an odd level with itself. Joining in
the free binary tree spells out which leaves a root stands for; where the joins at hand do not
collide, equal roots of lists of one height mean equal trees.
-/
namespace ContinuityOS.Library.MerkleTree

universe u v
variable {α : Type u} {β : Type v}

def pairUp : List α → List (α × α)
  | [] => []
  | [x] => [(x, x)]
  | x :: y :: l => (x, y) :: pairUp l

def parents (join : α → α → α) (l : List α) : List α := (pairUp l).map fun p => join p.1 p.2

/-- The number of levels above the leaves. -/
def height (l : List α) : ℕ := Nat.clog 2 l.length

/-- The level some steps above the leaves. -/
def level (join : α → α → α) (k : ℕ) (l : List α) : List α := (parents join)^[k] l

def top (join : α → α → α) (l : List α) : List α := level join (height l) l

/-- The pairs that are joined to build the tree. -/
def joined (join : α → α → α) (l : List α) : List (α × α) :=
  (List.range (height l)).flatMap fun k => pairUp (level join k l)

section Shape

theorem pairUp_length (l : List α) : (pairUp l).length = (l.length + 1) / 2 := by
  induction l using pairUp.induct with
  | case1 => simp [pairUp]
  | case2 x => simp [pairUp]
  | case3 x y l ih =>
    rw [pairUp, List.length_cons, ih, List.length_cons, List.length_cons]
    omega

theorem pairUp_map (g : α → β) (l : List α) :
    pairUp (l.map g) = (pairUp l).map fun p => (g p.1, g p.2) := by
  induction l using pairUp.induct with
  | case1 => rfl
  | case2 x => rfl
  | case3 x y l ih => rw [List.map_cons, List.map_cons, pairUp, ih, pairUp, List.map_cons]

theorem mem_of_mem_pairUp {p : α × α} {l : List α} (h : p ∈ pairUp l) : p.1 ∈ l ∧ p.2 ∈ l := by
  induction l using pairUp.induct with
  | case1 => cases h
  | case2 x =>
    rw [List.mem_singleton.mp h]
    exact ⟨List.mem_cons_self, List.mem_cons_self⟩
  | case3 x y l ih =>
    cases List.mem_cons.mp h with
    | inl heq =>
      rw [heq]
      exact ⟨List.mem_cons_self, List.mem_cons_of_mem _ List.mem_cons_self⟩
    | inr hmem =>
      exact (ih hmem).imp (fun hx => List.mem_cons_of_mem _ (List.mem_cons_of_mem _ hx))
        fun hy => List.mem_cons_of_mem _ (List.mem_cons_of_mem _ hy)

/-- Lists of one length with the same neighbours are equal. -/
theorem pairUp_inj {l m : List α} (hlen : l.length = m.length) (h : pairUp l = pairUp m) :
    l = m := by
  induction l using pairUp.induct generalizing m with
  | case1 => exact (List.length_eq_zero_iff.mp hlen.symm).symm
  | case2 x =>
    obtain ⟨y, rfl⟩ := List.length_eq_one_iff.mp hlen.symm
    rw [pairUp, pairUp, List.cons.injEq, Prod.mk.injEq] at h
    rw [h.1.1]
  | case3 x y l ih =>
    match m, hlen with
    | x' :: y' :: m, hlen =>
      rw [pairUp, pairUp, List.cons.injEq, Prod.mk.injEq] at h
      rw [h.1.1, h.1.2, ih (by simpa using hlen) h.2]

variable (join : α → α → α)

theorem parents_length (l : List α) : (parents join l).length = (l.length + 1) / 2 := by
  rw [parents, List.length_map, pairUp_length]

theorem parents_map (g : α → β) (joinβ : β → β → β) (hg : ∀ x y, g (join x y) = joinβ (g x) (g y))
    (l : List α) : parents joinβ (l.map g) = (parents join l).map g := by
  rw [parents, parents, pairUp_map, List.map_map, List.map_map]
  apply List.map_congr_left
  intro p _
  exact (hg p.1 p.2).symm

theorem level_succ (k : ℕ) (l : List α) : level join (k + 1) l = parents join (level join k l) :=
  Function.iterate_succ_apply' _ _ _

theorem level_level (j k : ℕ) (l : List α) :
    level join j (level join k l) = level join (j + k) l :=
  (Function.iterate_add_apply _ j k l).symm

theorem level_map (g : α → β) (joinβ : β → β → β) (hg : ∀ x y, g (join x y) = joinβ (g x) (g y))
    (k : ℕ) (l : List α) : level joinβ k (l.map g) = (level join k l).map g := by
  induction k with
  | zero => rfl
  | succ k ih => rw [level_succ, ih, parents_map join g joinβ hg, level_succ]

theorem height_parents {l : List α} (h : 1 < l.length) :
    height (parents join l) + 1 = height l := by
  have hlog := Nat.clog_of_two_le (b := 2) (n := l.length) (le_refl 2) h
  rw [height, height, parents_length, hlog]
  rfl

theorem height_of_short {l : List α} (h : l.length ≤ 1) : height l = 0 :=
  Nat.clog_of_right_le_one h 2

end Shape

/-- Binary trees with values at the leaves. -/
inductive Tree (α : Type u) where
  | leaf (x : α)
  | node (left right : Tree α)

namespace Tree
variable (join : α → α → α)

def eval : Tree α → α
  | leaf x => x
  | node l r => join (eval l) (eval r)

/-- Every leaf at one depth. -/
def Perfect : ℕ → Tree α → Prop
  | 0, leaf _ => True
  | n + 1, node l r => Perfect n l ∧ Perfect n r
  | _, _ => False

/-- The pairs of values that are joined in the tree. -/
def pairs : Tree α → List (α × α)
  | leaf _ => []
  | node l r => (eval join l, eval join r) :: (pairs l ++ pairs r)

def leaves : Tree α → List α
  | leaf x => [x]
  | node l r => leaves l ++ leaves r

/-- The leaf that a path from the root leads to, where true is the way to the right. -/
def descend : Tree α → List Bool → Option α
  | leaf x, [] => some x
  | node l r, side :: path => descend (if side then r else l) path
  | _, _ => none

variable {join}

/-- Where the pairs at hand do not collide, perfect trees of one height with one value are
equal. -/
theorem eq_of_eval_eq {P : Set (α × α)} (hinj : Set.InjOn (fun p : α × α => join p.1 p.2) P) {n : ℕ}
    {s t : Tree α} (hs : s.Perfect n) (ht : t.Perfect n) (hsP : ∀ p ∈ s.pairs join, p ∈ P)
    (htP : ∀ p ∈ t.pairs join, p ∈ P) (h : s.eval join = t.eval join) : s = t := by
  induction n generalizing s t with
  | zero =>
    cases s with
    | leaf x =>
      cases t with
      | leaf y => exact congrArg leaf h
      | node l r => cases ht
    | node l r => cases hs
  | succ n ih =>
    cases s with
    | leaf x => cases hs
    | node l r =>
      cases t with
      | leaf y => cases ht
      | node l' r' =>
        simp only [pairs, List.forall_mem_cons, List.forall_mem_append] at hsP htP
        have hpair := hinj hsP.1 htP.1 h
        rw [Prod.mk.injEq] at hpair
        rw [ih hs.1 ht.1 hsP.2.1 htP.2.1 hpair.1, ih hs.2 ht.2 hsP.2.2 htP.2.2 hpair.2]

end Tree

section Forest
variable (join : α → α → α)

/-- The level as trees over the leaves. -/
def forest (k : ℕ) (l : List α) : List (Tree α) := level Tree.node k (l.map Tree.leaf)

/-- The trees that the list stands for: one, where the list is not empty. -/
def treeOf (l : List α) : List (Tree α) := forest (height l) l

theorem forest_eval (k : ℕ) (l : List α) : (forest k l).map (Tree.eval join) = level join k l := by
  have hleaf : (l.map Tree.leaf).map (Tree.eval join) = l := by
    rw [List.map_map]
    exact List.map_id l
  rw [forest, ← level_map Tree.node (Tree.eval join) join fun _ _ => rfl, hleaf]

theorem forest_perfect (k : ℕ) (l : List α) : ∀ t ∈ forest k l, t.Perfect k := by
  induction k with
  | zero =>
    intro t ht
    obtain ⟨x, -, rfl⟩ := List.mem_map.mp ht
    trivial
  | succ k ih =>
    intro t ht
    rw [forest, level_succ, parents, List.mem_map] at ht
    obtain ⟨p, hp, rfl⟩ := ht
    have hmem := mem_of_mem_pairUp hp
    exact ⟨ih _ hmem.1, ih _ hmem.2⟩

theorem forest_pairs (k : ℕ) (l : List α) : ∀ t ∈ forest k l, ∀ p ∈ t.pairs join,
    ∃ i < k, p ∈ pairUp (level join i l) := by
  induction k with
  | zero =>
    intro t ht p hp
    obtain ⟨x, -, rfl⟩ := List.mem_map.mp ht
    cases hp
  | succ k ih =>
    intro t ht p hp
    rw [forest, level_succ, parents, List.mem_map] at ht
    obtain ⟨q, hq, rfl⟩ := ht
    have hmem := mem_of_mem_pairUp hq
    rw [Tree.pairs, List.mem_cons, List.mem_append] at hp
    rcases hp with rfl | hl | hr
    · refine ⟨k, Nat.lt_succ_self k, ?_⟩
      rw [← forest_eval, pairUp_map]
      exact List.mem_map_of_mem hq
    · obtain ⟨i, hi, hpair⟩ := ih _ hmem.1 p hl
      exact ⟨i, Nat.lt_succ_of_lt hi, hpair⟩
    · obtain ⟨i, hi, hpair⟩ := ih _ hmem.2 p hr
      exact ⟨i, Nat.lt_succ_of_lt hi, hpair⟩

theorem treeOf_pairs (l : List α) : ∀ t ∈ treeOf l, ∀ p ∈ t.pairs join, p ∈ joined join l := by
  intro t ht p hp
  obtain ⟨i, hi, hpair⟩ := forest_pairs join (height l) l t ht p hp
  exact List.mem_flatMap.mpr ⟨i, List.mem_range.mpr hi, hpair⟩

theorem level_length_congr {joinβ : β → β → β} {l : List α} {m : List β} (h : l.length = m.length)
    (k : ℕ) : (level join k l).length = (level joinβ k m).length := by
  induction k with
  | zero => exact h
  | succ k ih => rw [level_succ, level_succ, parents_length, parents_length, ih]

/-- Lists of one length stand for the same trees only when they are equal. -/
theorem forest_inj {l m : List α} (hlen : l.length = m.length) {k : ℕ}
    (h : forest k l = forest k m) : l = m := by
  induction k with
  | zero =>
    have hinj : Function.Injective (Tree.leaf (α := α)) := fun _ _ => Tree.leaf.inj
    exact hinj.list_map h
  | succ k ih =>
    apply ih
    rw [forest, forest, level_succ, level_succ, parents, parents] at h
    have hinj : Function.Injective fun p : Tree α × Tree α => Tree.node p.1 p.2 := by
      intro p q hpq
      exact Prod.ext (Tree.node.inj hpq).1 (Tree.node.inj hpq).2
    refine pairUp_inj (level_length_congr Tree.node ?_ k) (hinj.list_map h)
    rw [List.length_map, List.length_map, hlen]

theorem top_length {l : List α} (h : l ≠ []) : (top join l).length = 1 := by
  have hmain : ∀ n, ∀ l : List α, l.length = n → l ≠ [] → (top join l).length = 1 := by
    intro n
    induction n using Nat.strong_induction_on with
    | _ n ih =>
      intro l hlen hne
      by_cases hlong : 1 < l.length
      · have hparents := parents_length join l
        have hne' : parents join l ≠ [] := by
          intro hnil
          rw [hnil, List.length_nil] at hparents
          omega
        have hrec := ih (parents join l).length (by omega) _ rfl hne'
        rw [top, level, ← height_parents join hlong, Function.iterate_succ_apply]
        exact hrec
      · have hshort := height_of_short (not_lt.mp hlong)
        have hpos := List.length_pos_iff.mpr hne
        rw [top, hshort]
        change l.length = 1
        omega
  exact hmain _ l rfl h

theorem top_singleton (x : α) : top join [x] = [x] := by
  rw [top, height_of_short (le_refl 1)]
  rfl

theorem top_pair (x y : α) : top join [x, y] = [join x y] := by
  have hheight : height [x, y] = 1 := by
    have hlong : 1 < [x, y].length := by simp
    rw [← height_parents join hlong, height_of_short (by rw [parents_length]; simp)]
  rw [top, hheight]
  rfl

/-- A list that is not empty stands for one tree, which evaluates to the root. -/
theorem treeOf_singleton {l : List α} (h : l ≠ []) :
    ∃ t, treeOf l = [t] ∧ top join l = [t.eval join] := by
  have heval : (treeOf l).map (Tree.eval join) = top join l := forest_eval join (height l) l
  have hlength := top_length join h
  rw [← heval, List.length_map] at hlength
  obtain ⟨t, ht⟩ := List.length_eq_one_iff.mp hlength
  rw [ht] at heval
  exact ⟨t, ht, heval.symm⟩

end Forest

section Binding
variable {join : α → α → α} {l m : List α}

/-- Lists of one height have the same root exactly when they stand for the same tree. -/
theorem top_eq_iff_of_height (hinj : Set.InjOn (fun p : α × α => join p.1 p.2)
      {p | p ∈ joined join l ∨ p ∈ joined join m}) (hl : l ≠ []) (hm : m ≠ [])
    (hheight : height l = height m) : top join l = top join m ↔ treeOf l = treeOf m := by
  obtain ⟨s, hs, hsroot⟩ := treeOf_singleton join hl
  obtain ⟨t, ht, htroot⟩ := treeOf_singleton join hm
  have hsmem : s ∈ treeOf l := hs ▸ List.mem_singleton_self s
  have htmem : t ∈ treeOf m := ht ▸ List.mem_singleton_self t
  rw [hsroot, htroot, hs, ht, List.singleton_inj, List.singleton_inj]
  constructor
  · intro h
    have hperfect := forest_perfect (height m) m t htmem
    rw [← hheight] at hperfect
    exact Tree.eq_of_eval_eq hinj (forest_perfect (height l) l s hsmem) hperfect
      (fun p hp => Or.inl (treeOf_pairs join l s hsmem p hp))
      (fun p hp => Or.inr (treeOf_pairs join m t htmem p hp)) h
  · exact congrArg (Tree.eval join)

variable (join) in
theorem height_level {k : ℕ} {l : List α} (hk : k ≤ height l) :
    height (level join k l) + k = height l := by
  induction k with
  | zero => rfl
  | succ k ih =>
    have hrec := ih (Nat.le_of_succ_le hk)
    have hlong : 1 < (level join k l).length := by
      by_contra hshort
      rw [height_of_short (not_lt.mp hshort)] at hrec
      omega
    have hparents := height_parents join hlong
    rw [level_succ]
    omega

variable (join) in
theorem top_level {k : ℕ} {l : List α} (hk : k ≤ height l) : top join (level join k l) = top join l := by
  rw [top, level_level, height_level join hk, top]

variable (join) in
theorem joined_level {k : ℕ} {l : List α} (hk : k ≤ height l) :
    joined join (level join k l) ⊆ joined join l := by
  intro p hp
  obtain ⟨i, hi, hpair⟩ := List.mem_flatMap.mp hp
  have hheight := height_level join hk
  have hlt := List.mem_range.mp hi
  rw [level_level] at hpair
  exact List.mem_flatMap.mpr ⟨i + k, List.mem_range.mpr (by omega), hpair⟩

variable (join) in
theorem level_ne_nil {l : List α} (h : l ≠ []) (k : ℕ) : level join k l ≠ [] := by
  induction k with
  | zero => exact h
  | succ k ih =>
    have hpos := List.length_pos_iff.mpr ih
    have hparents := parents_length join (level join k l)
    rw [level_succ]
    intro hnil
    rw [hnil, List.length_nil] at hparents
    omega

variable (join l m) in
/-- The two lists, the longer one raised to the height of the other, stand for one tree. -/
def SameTree : Prop :=
  treeOf (level join (height l - height m) l) = treeOf (level join (height m - height l) m)

theorem top_eq_iff (hinj : Set.InjOn (fun p : α × α => join p.1 p.2)
      {p | p ∈ joined join l ∨ p ∈ joined join m}) (hl : l ≠ []) (hm : m ≠ []) :
    top join l = top join m ↔ SameTree join l m := by
  have hkl : height l - height m ≤ height l := Nat.sub_le _ _
  have hkm : height m - height l ≤ height m := Nat.sub_le _ _
  have hheight : height (level join (height l - height m) l) =
      height (level join (height m - height l) m) := by
    have hl' := height_level join hkl
    have hm' := height_level join hkm
    omega
  rw [SameTree, ← top_level join hkl, ← top_level join hkm]
  refine top_eq_iff_of_height (hinj.mono ?_) (level_ne_nil join hl _) (level_ne_nil join hm _) hheight
  exact fun p hp => hp.imp (fun h => joined_level join hkl h) fun h => joined_level join hkm h

/-- Equal roots mean equal lists exactly for lists of one length and for lists that stand for
different trees. -/
theorem eq_of_top_eq_iff (hinj : Set.InjOn (fun p : α × α => join p.1 p.2)
      {p | p ∈ joined join l ∨ p ∈ joined join m}) (hl : l ≠ []) (hm : m ≠ []) :
    (top join l = top join m → l = m) ↔ l.length = m.length ∨ ¬ SameTree join l m := by
  rw [top_eq_iff hinj hl hm]
  by_cases hlen : l.length = m.length
  · refine iff_of_true (fun hsame => ?_) (Or.inl hlen)
    have hheight : height l = height m := by rw [height, height, hlen]
    rw [SameTree, hheight, Nat.sub_self] at hsame
    have hforest : forest (height l) l = forest (height m) m := hsame
    rw [hheight] at hforest
    exact forest_inj hlen hforest
  · have hne : l ≠ m := fun heq => hlen (congrArg List.length heq)
    constructor
    · exact fun h => Or.inr fun hsame => hne (h hsame)
    · exact fun h hsame => absurd hsame (h.resolve_left hlen)

end Binding

section Paths
variable {join : α → α → α} {joinβ : β → β → β} {g : α → β}

/-- The value that a path of siblings from the root makes of a value at its end; true where
the value stands on the right. -/
def recompute (join : α → α → α) (c : α) : List (Bool × α) → α
  | [] => c
  | (side, sibling) :: path =>
    if side then join sibling (recompute join c path) else join (recompute join c path) sibling

/-- The pairs that are joined on the way up. -/
def pathPairs (join : α → α → α) (c : α) : List (Bool × α) → List (α × α)
  | [] => []
  | (side, sibling) :: path =>
    (if side then (sibling, recompute join c path) else (recompute join c path, sibling)) ::
      pathPairs join c path

theorem recompute_concat (join : α → α → α) (c : α) (path : List (Bool × α)) (side : Bool)
    (sibling : α) : recompute join c (path ++ [(side, sibling)]) =
      recompute join (if side then join sibling c else join c sibling) path := by
  induction path with
  | nil => rfl
  | cons step path ih => rw [List.cons_append, recompute, ih, recompute]

theorem pathPairs_concat (join : α → α → α) (c : α) (path : List (Bool × α)) (side : Bool)
    (sibling : α) : pathPairs join c (path ++ [(side, sibling)]) =
      pathPairs join (if side then join sibling c else join c sibling) path ++
        [if side then (sibling, c) else (c, sibling)] := by
  induction path with
  | nil => rfl
  | cons step path ih =>
    rw [List.cons_append, pathPairs, recompute_concat, ih, pathPairs, List.cons_append]

/-- A path over the values of a tree that makes its root, where no pair of the path has the
value of another pair of the tree, runs along the tree: a leaf it ends at has the value it
started from. -/
theorem eq_of_descend (hg : ∀ x y, g (join x y) = joinβ (g x) (g y)) {c : β} {x : α}
    {path : List (Bool × β)} {t : Tree α}
    (hcross : ∀ p ∈ t.pairs join, ∀ q ∈ pathPairs joinβ c path,
      joinβ (g p.1) (g p.2) = joinβ q.1 q.2 → (g p.1, g p.2) = q)
    (h : g (t.eval join) = recompute joinβ c path)
    (hdescend : t.descend (path.map Prod.fst) = some x) : g x = c := by
  induction path generalizing t with
  | nil =>
    cases t with
    | leaf y =>
      cases hdescend
      exact h
    | node l r => cases hdescend
  | cons step path ih =>
    obtain ⟨side, sibling⟩ := step
    cases t with
    | leaf y => cases hdescend
    | node l r =>
      simp only [Tree.pairs, pathPairs, List.forall_mem_cons, List.forall_mem_append] at hcross
      rw [Tree.eval, hg] at h
      cases side with
      | true =>
        have hpair := hcross.1.1 h
        exact ih (fun p hp => (hcross.2.2 p hp).2) (congrArg Prod.snd hpair) hdescend
      | false =>
        have hpair := hcross.1.1 h
        exact ih (fun p hp => (hcross.2.1 p hp).2) (congrArg Prod.fst hpair) hdescend

/-- Where moreover no pair of the tree makes the value the path starts from and no pair of the
path makes a leaf, the path ends at a leaf. -/
theorem descend_of_eval (hg : ∀ x y, g (join x y) = joinβ (g x) (g y)) {c : β}
    {path : List (Bool × β)} {t : Tree α}
    (hcross : ∀ p ∈ t.pairs join, ∀ q ∈ pathPairs joinβ c path,
      joinβ (g p.1) (g p.2) = joinβ q.1 q.2 → (g p.1, g p.2) = q)
    (h : g (t.eval join) = recompute joinβ c path)
    (hstart : ∀ p ∈ t.pairs join, g (join p.1 p.2) ≠ c)
    (hinner : ∀ q ∈ pathPairs joinβ c path, ∀ x ∈ t.leaves, joinβ q.1 q.2 ≠ g x) :
    ∃ x, t.descend (path.map Prod.fst) = some x := by
  induction path generalizing t with
  | nil =>
    cases t with
    | leaf y => exact ⟨y, rfl⟩
    | node l r => exact absurd h (hstart _ List.mem_cons_self)
  | cons step path ih =>
    obtain ⟨side, sibling⟩ := step
    rw [pathPairs, List.forall_mem_cons] at hinner
    cases t with
    | leaf y =>
      refine absurd h.symm ?_
      have hne := hinner.1 y (List.mem_singleton_self y)
      cases side <;> exact hne
    | node l r =>
      simp only [Tree.pairs, pathPairs, List.forall_mem_cons, List.forall_mem_append]
        at hcross hstart
      simp only [Tree.leaves, List.forall_mem_append] at hinner
      rw [Tree.eval, hg] at h
      cases side with
      | true =>
        have hpair := hcross.1.1 h
        exact ih (fun p hp => (hcross.2.2 p hp).2) (congrArg Prod.snd hpair) hstart.2.2
          fun q hq => (hinner.2 q hq).2
      | false =>
        have hpair := hcross.1.1 h
        exact ih (fun p hp => (hcross.2.1 p hp).2) (congrArg Prod.fst hpair) hstart.2.1
          fun q hq => (hinner.2 q hq).1

/-- The leaves of the trees come from the list. -/
theorem forest_leaves (k : ℕ) (l : List α) : ∀ t ∈ forest k l, ∀ x ∈ t.leaves, x ∈ l := by
  induction k with
  | zero =>
    intro t ht x hx
    obtain ⟨y, hy, rfl⟩ := List.mem_map.mp ht
    rw [List.mem_singleton.mp hx]
    exact hy
  | succ k ih =>
    intro t ht x hx
    rw [forest, level_succ, parents, List.mem_map] at ht
    obtain ⟨p, hp, rfl⟩ := ht
    have hmem := mem_of_mem_pairUp hp
    cases List.mem_append.mp hx with
    | inl hleft => exact ih _ hmem.1 x hleft
    | inr hright => exact ih _ hmem.2 x hright

end Paths

end ContinuityOS.Library.MerkleTree
