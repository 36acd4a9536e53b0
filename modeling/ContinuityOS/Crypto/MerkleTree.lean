import ContinuityOS.Library.MerkleTree
import ContinuityOS.Library.Sha256

/-! # The Merkle tree of a ledger

Hashes are hexadecimal text; joining two of them hashes their bytes one after the other. For
hashes of 32 bytes the levels of the tree are the levels of the list of digests.
-/
namespace ContinuityOS.Crypto
open Library

/-- A hash as its 32 bytes. -/
abbrev Digest := {bytes : List UInt8 // bytes.length = 32}

namespace Digest

def of (message : List UInt8) : Digest := ⟨sha256 message, sha256_length message⟩

def hex (d : Digest) : String := String.ofList (hexEncode d.val)

def join (x y : Digest) : Digest := of (x.val ++ y.val)

theorem hexDecode_hex (d : Digest) : hexDecode d.hex.toList = some d.val := by
  rw [hex, String.toList_ofList, hexDecode_hexEncode]

theorem hex_injective : Function.Injective hex := by
  intro x y h
  have hdecoded := congrArg (fun s : String => hexDecode s.toList) h
  simp only [hexDecode_hex, Option.some.injEq] at hdecoded
  exact Subtype.ext hdecoded

theorem hex_length (d : Digest) : d.hex.toList.length = 64 := by
  rw [hex, String.toList_ofList, hexEncode_length, d.property]

/-- Digests that follow each other are told apart. -/
theorem append_inj {p q : Digest × Digest} (h : p.1.val ++ p.2.val = q.1.val ++ q.2.val) : p = q := by
  have hparts := List.append_inj h (p.1.property.trans q.1.property.symm)
  exact Prod.ext (Subtype.ext hparts.1) (Subtype.ext hparts.2)

theorem flatMap_hex_length (l : List Digest) :
    (l.flatMap fun d => d.hex.toList).length = 64 * l.length := by
  induction l with
  | nil => rfl
  | cons d l ih =>
    rw [List.flatMap_cons, List.length_append, ih, hex_length, List.length_cons]
    omega

/-- Texts of digests are told apart when they are written one after the other. -/
theorem flatMap_hex_inj {l m : List Digest}
    (h : l.flatMap (fun d => d.hex.toList) = m.flatMap fun d => d.hex.toList) : l = m := by
  have hnil : ∀ (d : Digest) (m : List Digest),
      (d :: m).flatMap (fun d => d.hex.toList) ≠ [] := by
    intro d m hempty
    have hlength := congrArg List.length hempty
    rw [flatMap_hex_length, List.length_cons, List.length_nil] at hlength
    omega
  induction l generalizing m with
  | nil =>
    cases m with
    | nil => rfl
    | cons d m => exact absurd h.symm (hnil d m)
  | cons c l ih =>
    cases m with
    | nil => exact absurd h (hnil c l)
    | cons d m =>
      obtain ⟨hfirst, hrest⟩ := List.append_inj h (c.hex_length.trans d.hex_length.symm)
      rw [hex_injective (String.toList_inj.mp hfirst), ih hrest]

end Digest

def hexdigest (message : List UInt8) : String := (Digest.of message).hex

/-- No hash where one of the two is not hexadecimal. -/
def combine (left right : String) : Option String := do
  let l ← hexDecode left.toList
  let r ← hexDecode right.toList
  return hexdigest (l ++ r)

theorem combine_eq_some_iff {left right parent : String} : combine left right = some parent ↔
    ∃ l r, hexDecode left.toList = some l ∧ hexDecode right.toList = some r ∧
      hexdigest (l ++ r) = parent := by
  simp only [combine, Option.bind_eq_bind, Option.bind_eq_some_iff, Option.pure_def,
    Option.some.injEq]
  constructor
  · rintro ⟨l, hl, r, hr, h⟩
    exact ⟨l, r, hl, hr, h⟩
  · rintro ⟨l, r, hl, hr, h⟩
    exact ⟨l, hl, r, hr, h⟩

def nextLevel : List String → Option (List String)
  | [] => some []
  | [left] => do
    let parent ← combine left left
    return [parent]
  | left :: right :: rest => do
    let parent ← combine left right
    let parents ← nextLevel rest
    return parent :: parents

/-- The last node of an odd level is hashed with itself. -/
theorem nextLevel_single_iff {left : String} {next : List String} :
    nextLevel [left] = some next ↔ ∃ parent, combine left left = some parent ∧ [parent] = next := by
  simp only [nextLevel, Option.bind_eq_bind, Option.bind_eq_some_iff, Option.pure_def,
    Option.some.injEq]

theorem nextLevel_pair_iff {left right : String} {rest next : List String} :
    nextLevel (left :: right :: rest) = some next ↔ ∃ parent, combine left right = some parent ∧
      ∃ parents, nextLevel rest = some parents ∧ parent :: parents = next := by
  simp only [nextLevel, Option.bind_eq_bind, Option.bind_eq_some_iff, Option.pure_def,
    Option.some.injEq]

theorem nextLevel_length {current next : List String} (h : nextLevel current = some next) :
    next.length = (current.length + 1) / 2 := by
  induction current using nextLevel.induct generalizing next with
  | case1 =>
    cases h
    rfl
  | case2 left =>
    obtain ⟨parent, -, rfl⟩ := nextLevel_single_iff.mp h
    simp
  | case3 left right rest ih =>
    obtain ⟨parent, -, parents, hrest, rfl⟩ := nextLevel_pair_iff.mp h
    rw [List.length_cons, ih hrest, List.length_cons, List.length_cons]
    omega

def buildTree (current : List String) : Option (List (List String)) :=
  if _hlong : 1 < current.length then
    match _hnext : nextLevel current with
    | none => none
    | some next => (buildTree next).map (current :: ·)
  else some [current]
termination_by current.length
decreasing_by
  have hlen := nextLevel_length _hnext
  omega

theorem buildTree_of_long {current next : List String} (hlong : 1 < current.length)
    (hnext : nextLevel current = some next) :
    buildTree current = (buildTree next).map (current :: ·) := by
  rw [buildTree, dif_pos hlong]
  split
  next hnone =>
    rw [hnext] at hnone
    cases hnone
  next next' hnext' =>
    rw [hnext, Option.some.injEq] at hnext'
    rw [hnext']

theorem buildTree_of_short {current : List String} (hshort : ¬ 1 < current.length) :
    buildTree current = some [current] := by
  rw [buildTree, dif_neg hshort]

inductive MerkleError where
  | noLeaves
  | notHexadecimal
  | indexOutOfBounds
deriving DecidableEq

def MerkleError.detail : MerkleError → String
  | noLeaves => "MerkleTree requires at least one leaf hash"
  | notHexadecimal => "non-hexadecimal number found in fromhex() arg"
  | indexOutOfBounds => "Leaf index out of bounds"

structure MerkleTree where
  leafHashes : List String
  levels : List (List String)

namespace MerkleTree

def new (leafHashes : List String) : Except MerkleError MerkleTree :=
  if leafHashes = [] then .error .noLeaves
  else match buildTree leafHashes with
    | none => .error .notHexadecimal
    | some levels => .ok ⟨leafHashes, levels⟩

def rootHash (tree : MerkleTree) : Option String := tree.levels.getLast?.bind List.head?

end MerkleTree

/-- The root of the tree of a list of hashes, if there is a tree. -/
def rootOf (leafHashes : List String) : Option String :=
  match MerkleTree.new leafHashes with
  | .ok tree => tree.rootHash
  | .error _ => none

section Digests
open Library.MerkleTree

theorem combine_hex (x y : Digest) : combine x.hex y.hex = some (x.join y).hex := by
  rw [combine, Digest.hexDecode_hex, Digest.hexDecode_hex]
  rfl

theorem nextLevel_hex (l : List Digest) :
    nextLevel (l.map Digest.hex) = some ((parents Digest.join l).map Digest.hex) := by
  induction l using pairUp.induct with
  | case1 => rfl
  | case2 x =>
    rw [List.map_cons, List.map_nil, nextLevel, combine_hex]
    rfl
  | case3 x y l ih =>
    rw [List.map_cons, List.map_cons, nextLevel, combine_hex, ih]
    rfl

/-- The levels of the tree, from the leaves to the root. -/
def digestLevels (l : List Digest) : List (List String) :=
  (List.range (height l + 1)).map fun k => (level Digest.join k l).map Digest.hex

theorem digestLevels_of_long {l : List Digest} (h : 1 < l.length) :
    digestLevels l = l.map Digest.hex :: digestLevels (parents Digest.join l) := by
  rw [digestLevels, ← height_parents Digest.join h, List.range_succ_eq_map, List.map_cons,
    List.map_map]
  rfl

theorem buildTree_hex (l : List Digest) : buildTree (l.map Digest.hex) = some (digestLevels l) := by
  have hmain : ∀ n, ∀ l : List Digest, l.length = n →
      buildTree (l.map Digest.hex) = some (digestLevels l) := by
    intro n
    induction n using Nat.strong_induction_on with
    | _ n ih =>
      intro l hlen
      by_cases hlong : 1 < l.length
      · have hshorter := parents_length Digest.join l
        rw [buildTree_of_long (by simpa using hlong) (nextLevel_hex l),
          ih (parents Digest.join l).length (by omega) _ rfl, digestLevels_of_long hlong]
        rfl
      · rw [buildTree_of_short (by simpa using hlong), digestLevels,
          height_of_short (not_lt.mp hlong)]
        rfl
  exact hmain _ l rfl

/-- A tree of digests is always built. -/
theorem new_hex {l : List Digest} (h : l ≠ []) :
    MerkleTree.new (l.map Digest.hex) = .ok ⟨l.map Digest.hex, digestLevels l⟩ := by
  rw [MerkleTree.new, if_neg fun hnil => h (List.map_eq_nil_iff.mp hnil), buildTree_hex]

theorem rootOf_hex {l : List Digest} (h : l ≠ []) :
    rootOf (l.map Digest.hex) = (top Digest.join l).head?.map Digest.hex := by
  have hlast : (digestLevels l).getLast? = some ((top Digest.join l).map Digest.hex) := by
    rw [digestLevels, List.range_succ, List.map_append, List.map_singleton,
      List.getLast?_append_of_ne_nil _ (List.cons_ne_nil _ _)]
    rfl
  rw [rootOf, new_hex h]
  change (digestLevels l).getLast?.bind List.head? = _
  rw [hlast, Option.bind_some, List.head?_map]

theorem rootOf_eq_iff {a b : List Digest} (ha : a ≠ []) (hb : b ≠ []) :
    rootOf (a.map Digest.hex) = rootOf (b.map Digest.hex) ↔
      top Digest.join a = top Digest.join b := by
  rw [rootOf_hex ha, rootOf_hex hb]
  obtain ⟨x, hx⟩ := List.length_eq_one_iff.mp (top_length Digest.join ha)
  obtain ⟨y, hy⟩ := List.length_eq_one_iff.mp (top_length Digest.join hb)
  rw [hx, hy, List.head?_cons, List.head?_cons, Option.map_some, Option.map_some,
    Option.some.injEq, List.singleton_inj]
  exact Digest.hex_injective.eq_iff

/-- The messages that are hashed to build the tree. -/
def hashedMessages (l : List Digest) : List (List UInt8) :=
  (joined Digest.join l).map fun p => p.1.val ++ p.2.val

theorem join_injOn {P : Set (Digest × Digest)} {M : Set (List UInt8)} (hinj : Set.InjOn sha256 M)
    (hP : ∀ p ∈ P, p.1.val ++ p.2.val ∈ M) :
    Set.InjOn (fun p : Digest × Digest => p.1.join p.2) P := by
  intro p hp q hq h
  exact Digest.append_inj (hinj (hP p hp) (hP q hq) (congrArg Subtype.val h))

/-- Where the hashes at hand do not collide, equal roots mean equal lists exactly for lists of
one length and for lists that stand for different trees. -/
theorem rootOf_binding_iff (a b : List Digest) (ha : a ≠ []) (hb : b ≠ [])
    (hinj : Set.InjOn sha256 {m | m ∈ hashedMessages a ∨ m ∈ hashedMessages b}) :
    (rootOf (a.map Digest.hex) = rootOf (b.map Digest.hex) → a = b) ↔
      a.length = b.length ∨ ¬ SameTree Digest.join a b := by
  rw [rootOf_eq_iff ha hb]
  refine eq_of_top_eq_iff (join_injOn hinj fun p hp => ?_) ha hb
  exact hp.imp (fun h => List.mem_map_of_mem h) fun h => List.mem_map_of_mem h

section Sample

def sampleLeaf (b : UInt8) : Digest := ⟨List.replicate 32 b, List.length_replicate⟩

/-- A list of one hash that is the root of two others. -/
def innerLeaf : Digest := (sampleLeaf 1).join (sampleLeaf 2)

theorem innerLeaf_messages : Set.InjOn sha256
    {m | m ∈ hashedMessages [innerLeaf] ∨ m ∈ hashedMessages [sampleLeaf 1, sampleLeaf 2]} := by
  have hnone : hashedMessages [innerLeaf] = [] := rfl
  have hone : hashedMessages [sampleLeaf 1, sampleLeaf 2] =
      [(sampleLeaf 1).val ++ (sampleLeaf 2).val] := rfl
  rw [hnone, hone]
  intro m hm m' hm' _
  simp only [List.not_mem_nil, List.mem_singleton, false_or, Set.mem_ofPred_eq] at hm hm'
  rw [hm, hm']

theorem rootOf_binding_sample :
    (rootOf ([innerLeaf].map Digest.hex) = rootOf ([sampleLeaf 1, sampleLeaf 2].map Digest.hex) →
      [innerLeaf] = [sampleLeaf 1, sampleLeaf 2]) ↔
      [innerLeaf].length = [sampleLeaf 1, sampleLeaf 2].length ∨
        ¬ SameTree Digest.join [innerLeaf] [sampleLeaf 1, sampleLeaf 2] :=
  rootOf_binding_iff [innerLeaf] [sampleLeaf 1, sampleLeaf 2] (List.cons_ne_nil _ _)
    (List.cons_ne_nil _ _) innerLeaf_messages

/-- The root of two hashes is also the root of the list of that root alone. -/
theorem not_rootOf_binding :
    ¬ ∀ a b : List Digest, a ≠ [] → b ≠ [] →
      Set.InjOn sha256 {m | m ∈ hashedMessages a ∨ m ∈ hashedMessages b} →
      rootOf (a.map Digest.hex) = rootOf (b.map Digest.hex) → a = b := by
  intro h
  have hroot : rootOf ([innerLeaf].map Digest.hex) =
      rootOf ([sampleLeaf 1, sampleLeaf 2].map Digest.hex) := by
    rw [rootOf_eq_iff (List.cons_ne_nil _ _) (List.cons_ne_nil _ _), top_singleton, top_pair]
    rfl
  have heq := h [innerLeaf] [sampleLeaf 1, sampleLeaf 2] (List.cons_ne_nil _ _)
    (List.cons_ne_nil _ _) innerLeaf_messages hroot
  exact absurd (congrArg List.length heq) (by decide)

end Sample

end Digests

end ContinuityOS.Crypto
