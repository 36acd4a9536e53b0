import ContinuityOS.Crypto.MerkleTree
import ContinuityOS.Evidence.Record

/-! # Inclusion proofs

A proof is climbed from its leaf hash to the root. Nothing compares the claimed index with the
directions of the path, or the length of the path with the height of the tree.
-/
namespace ContinuityOS.Crypto
open Library Library.MerkleTree Evidence

structure MerkleAuditPathNode where
  hashHex : String
  direction : String

structure MerkleInclusionProof where
  recordIndex : ℤ
  leafHash : String
  rootHash : String
  auditPath : List MerkleAuditPathNode

namespace MerkleAuditPathNode

/-- Whether the hash that is climbed stands on the right. -/
def onRight (node : MerkleAuditPathNode) : Bool := node.direction = "left"

def combined (node : MerkleAuditPathNode) (currentHash : String) : Option (List UInt8) := do
  let sibling ← hexDecode node.hashHex.toList
  let current ← hexDecode currentHash.toList
  return if node.onRight then sibling ++ current else current ++ sibling

end MerkleAuditPathNode

def lower (s : String) : String := String.ofList (s.toList.map Char.toLower)

/-- No hash where a hash on the way is not hexadecimal. -/
def climb (currentHash : String) : List MerkleAuditPathNode → Option String
  | [] => some currentHash
  | node :: path => do
    let message ← node.combined currentHash
    climb (hexdigest message) path

/-- The messages that are hashed on the way. -/
def climbedMessages (currentHash : String) : List MerkleAuditPathNode → List (List UInt8)
  | [] => []
  | node :: path =>
    match node.combined currentHash with
    | none => []
    | some message => message :: climbedMessages (hexdigest message) path

namespace MerkleInclusionProof

def verify (p : MerkleInclusionProof) : Option Bool := do
  let currentHash ← climb p.leafHash p.auditPath
  return lower currentHash = lower p.rootHash

end MerkleInclusionProof

namespace MerkleTree

def siblingAt (level : List String) (index : ℕ) : Option MerkleAuditPathNode :=
  if index % 2 = 1 then do
    let hashHex ← level[index - 1]?
    return { hashHex := hashHex, direction := "left" }
  else do
    let hashHex ← level[if index + 1 < level.length then index + 1 else index]?
    return { hashHex := hashHex, direction := "right" }

def auditPathOf (index : ℕ) : List (List String) → Option (List MerkleAuditPathNode)
  | [] => some []
  | level :: levels => do
    let node ← siblingAt level index
    let path ← auditPathOf (index / 2) levels
    return node :: path

def generateInclusionProof (tree : MerkleTree) (index : ℤ) :
    Except MerkleError MerkleInclusionProof :=
  if 0 ≤ index ∧ index < tree.leafHashes.length then
    match auditPathOf index.toNat tree.levels.dropLast, tree.leafHashes[index.toNat]?,
      tree.rootHash with
    | some auditPath, some leafHash, some rootHash => .ok
      { recordIndex := index, leafHash := leafHash, rootHash := rootHash, auditPath := auditPath }
    | _, _, _ => .error .indexOutOfBounds
  else .error .indexOutOfBounds

end MerkleTree

/-- The leaves of the tree over some records, given as bytes. -/
def leafDigests (records : List (List UInt8)) : List Digest := records.map Digest.of

theorem leafDigests_hex (records : List (List UInt8)) :
    (leafDigests records).map Digest.hex = records.map hexdigest := by
  rw [leafDigests, List.map_map]
  rfl

namespace MerkleInclusionProof

/-- The index is one of the leaves, and this leaf has the hash. -/
def NamesLeaf (p : MerkleInclusionProof) (leafHashes : List String) : Prop :=
  0 ≤ p.recordIndex ∧ leafHashes[p.recordIndex.toNat]? = some p.leafHash

/-- The leaf hash is lower case, and the directions, read from the root of the tree, lead to a
leaf that equals the one at the index. -/
def FollowsIndex (p : MerkleInclusionProof) (leaves : List Digest) : Prop :=
  (∃ d : Digest, p.leafHash = d.hex) ∧ 0 ≤ p.recordIndex ∧
    ∃ t ∈ treeOf leaves, ∃ x,
      t.descend (p.auditPath.reverse.map MerkleAuditPathNode.onRight) = some x ∧
      leaves[p.recordIndex.toNat]? = some x

/-- Every sibling is a hash of 32 bytes. -/
def SiblingsAreDigests (p : MerkleInclusionProof) : Prop :=
  ∀ node ∈ p.auditPath, ∃ d : Digest, hexDecode node.hashHex.toList = some d.val

end MerkleInclusionProof

section Hex

theorem toLower_hexEncode (bytes : List UInt8) :
    (hexEncode bytes).map Char.toLower = hexEncode bytes := by
  have hdigit : ∀ n < 16, (hexDigit n).toLower = hexDigit n := by
    intro n hn
    interval_cases n <;> rfl
  induction bytes with
  | nil => rfl
  | cons b bytes ih =>
    have hcons : hexEncode (b :: bytes)
        = hexDigit (b.toNat / 16) :: hexDigit (b.toNat % 16) :: hexEncode bytes := rfl
    have hbyte := b.toNat_lt
    rw [hcons, List.map_cons, List.map_cons, ih, hdigit _ (by omega), hdigit _ (by omega)]

theorem lower_hex (d : Digest) : lower d.hex = d.hex := by
  rw [lower, Digest.hex, String.toList_ofList, toLower_hexEncode]

end Hex

section Climb

def joinBytes (x y : List UInt8) : List UInt8 := sha256 (x ++ y)

theorem recompute_length {c : List UInt8} (hc : c.length = 32) (path : List (Bool × List UInt8)) :
    (recompute joinBytes c path).length = 32 := by
  cases path with
  | nil => exact hc
  | cons step path =>
    rw [recompute]
    split_ifs <;> exact sha256_length _

/-- One of the two that are joined is the hash that is climbed. -/
theorem pathPairs_length {c : List UInt8} (hc : c.length = 32) (path : List (Bool × List UInt8)) :
    ∀ q ∈ pathPairs joinBytes c path, q.1.length = 32 ∨ q.2.length = 32 := by
  induction path with
  | nil => exact List.forall_mem_nil _
  | cons step path ih =>
    rw [pathPairs, List.forall_mem_cons]
    refine ⟨?_, ih⟩
    split_ifs
    · exact Or.inr (recompute_length hc path)
    · exact Or.inl (recompute_length hc path)

theorem pathPairs_length_of_digests {c : List UInt8} (hc : c.length = 32)
    {path : List (Bool × List UInt8)} (hpath : ∀ step ∈ path, step.2.length = 32) :
    ∀ q ∈ pathPairs joinBytes c path, (q.1 ++ q.2).length = 64 := by
  induction path with
  | nil => exact List.forall_mem_nil _
  | cons step path ih =>
    rw [List.forall_mem_cons] at hpath
    rw [pathPairs, List.forall_mem_cons]
    refine ⟨?_, ih hpath.2⟩
    have hrest := recompute_length hc path
    split_ifs
    · rw [List.length_append, hpath.1, hrest]
    · rw [List.length_append, hpath.1, hrest]

/-- A climb that ends recomputes the value of its path. -/
theorem climb_steps {path : List MerkleAuditPathNode} {leafHash top : String} {c : List UInt8}
    (hleaf : hexDecode leafHash.toList = some c) (hclimb : climb leafHash path = some top) :
    ∃ steps : List (Bool × List UInt8),
      steps.map Prod.fst = path.map MerkleAuditPathNode.onRight ∧
      hexDecode top.toList = some (recompute joinBytes c steps.reverse) ∧
      (∀ q ∈ pathPairs joinBytes c steps.reverse, q.1 ++ q.2 ∈ climbedMessages leafHash path) ∧
      ∀ step ∈ steps, ∃ node ∈ path, hexDecode node.hashHex.toList = some step.2 := by
  induction path generalizing leafHash c with
  | nil =>
    cases hclimb
    exact ⟨[], rfl, hleaf, List.forall_mem_nil _, List.forall_mem_nil _⟩
  | cons node path ih =>
    rw [climb, Option.bind_eq_bind, Option.bind_eq_some_iff] at hclimb
    obtain ⟨message, hmessage, hclimb⟩ := hclimb
    obtain ⟨steps, hsides, htop, hpairs, hsteps⟩ := ih (Digest.hexDecode_hex _) hclimb
    have hcombined := hmessage
    simp only [MerkleAuditPathNode.combined, hleaf, Option.bind_eq_bind, Option.bind_eq_some_iff,
      Option.pure_def, Option.some.injEq, exists_eq_left'] at hcombined
    obtain ⟨sibling, hsibling, hjoined⟩ := hcombined
    have hvalue : (if node.onRight then joinBytes sibling c else joinBytes c sibling) =
        sha256 message := by
      rw [← hjoined]
      split_ifs <;> rfl
    have hpair : (if node.onRight then (sibling, c) else (c, sibling)).1 ++
        (if node.onRight then (sibling, c) else (c, sibling)).2 = message := by
      rw [← hjoined]
      split_ifs <;> rfl
    refine ⟨(node.onRight, sibling) :: steps, ?_, ?_, ?_, ?_⟩
    · rw [List.map_cons, List.map_cons, hsides]
    · rw [List.reverse_cons, recompute_concat, hvalue]
      exact htop
    · intro q hq
      rw [List.reverse_cons, pathPairs_concat, hvalue, List.mem_append, List.mem_singleton] at hq
      rw [climbedMessages, hmessage]
      cases hq with
      | inl hmem => exact List.mem_cons_of_mem _ (hpairs q hmem)
      | inr heq =>
        rw [heq, hpair]
        exact List.mem_cons_self
    · rw [List.forall_mem_cons]
      refine ⟨⟨node, List.mem_cons_self, hsibling⟩, fun step hstep => ?_⟩
      obtain ⟨found, hfound, hdecode⟩ := hsteps step hstep
      exact ⟨found, List.mem_cons_of_mem _ hfound, hdecode⟩

/-- A climb from a digest ends at a digest. -/
theorem climb_hex {path : List MerkleAuditPathNode} {d : Digest} {top : String}
    (h : climb d.hex path = some top) : ∃ d' : Digest, top = d'.hex := by
  induction path generalizing d with
  | nil =>
    cases h
    exact ⟨d, rfl⟩
  | cons node path ih =>
    rw [climb, Option.bind_eq_bind, Option.bind_eq_some_iff] at h
    obtain ⟨message, -, h⟩ := h
    exact ih h

end Climb

section Soundness
variable {records : List (List UInt8)} {p : MerkleInclusionProof}

/-- An accepted proof from a digest is a path of the tree's value. -/
theorem verify_steps {d : Digest} {t : Library.MerkleTree.Tree Digest} (hleaf : p.leafHash = d.hex)
    (hroot : p.rootHash = (t.eval Digest.join).hex) (hverify : p.verify = some true) :
    ∃ steps : List (Bool × List UInt8),
      steps.map Prod.fst = p.auditPath.map MerkleAuditPathNode.onRight ∧
      (t.eval Digest.join).val = recompute joinBytes d.val steps.reverse ∧
      (∀ q ∈ pathPairs joinBytes d.val steps.reverse,
        q.1 ++ q.2 ∈ climbedMessages p.leafHash p.auditPath) ∧
      ∀ step ∈ steps, ∃ node ∈ p.auditPath, hexDecode node.hashHex.toList = some step.2 := by
  rw [MerkleInclusionProof.verify, Option.bind_eq_bind, Option.bind_eq_some_iff] at hverify
  obtain ⟨top, hclimb, hsame⟩ := hverify
  have hlower : lower top = lower p.rootHash := of_decide_eq_true (Option.some.inj hsame)
  have hdecode : hexDecode p.leafHash.toList = some d.val := by rw [hleaf, Digest.hexDecode_hex]
  obtain ⟨steps, hsides, htop, hpairs, hsteps⟩ := climb_steps hdecode hclimb
  rw [hleaf] at hclimb
  obtain ⟨d', rfl⟩ := climb_hex hclimb
  rw [hroot, lower_hex, lower_hex] at hlower
  rw [hlower, Digest.hexDecode_hex] at htop
  exact ⟨steps, hsides, Option.some.inj htop, hpairs, hsteps⟩

/-- The messages that building the tree and climbing the proof hash, with the records. -/
def messagesAtHand (records : List (List UInt8)) (p : MerkleInclusionProof) : Set (List UInt8) :=
  {m | m ∈ records ∨ m ∈ hashedMessages (leafDigests records) ∨
    m ∈ climbedMessages p.leafHash p.auditPath}

variable (hinj : Set.InjOn sha256 (messagesAtHand records p)) {t : Library.MerkleTree.Tree Digest}
  (ht : t ∈ treeOf (leafDigests records)) {d : Digest} (hd : p.leafHash = d.hex)
  (hroot : p.rootHash = (t.eval Digest.join).hex) (hverify : p.verify = some true)

theorem pairs_hashed {t : Library.MerkleTree.Tree Digest} (ht : t ∈ treeOf (leafDigests records)) :
    ∀ q ∈ t.pairs Digest.join, q.1.val ++ q.2.val ∈ hashedMessages (leafDigests records) :=
  fun q hq => List.mem_map_of_mem (treeOf_pairs Digest.join _ t ht q hq)

include hinj ht in
/-- A pair of the tree and a pair of the path with one value are the same pair. -/
theorem pairs_cross {path : List (Bool × List UInt8)}
    (hpath : ∀ q ∈ pathPairs joinBytes d.val path,
      q.1 ++ q.2 ∈ climbedMessages p.leafHash p.auditPath) :
    ∀ r ∈ t.pairs Digest.join, ∀ q ∈ pathPairs joinBytes d.val path,
      joinBytes r.1.val r.2.val = joinBytes q.1 q.2 → (r.1.val, r.2.val) = q := by
  intro r hr q hq hsame
  have hmessage : r.1.val ++ r.2.val = q.1 ++ q.2 :=
    hinj (Or.inr (Or.inl (pairs_hashed ht r hr))) (Or.inr (Or.inr (hpath q hq))) hsame
  have hlength := congrArg List.length hmessage
  have hlengths := pathPairs_length d.property path q hq
  have hfirst := r.1.property
  have hsecond := r.2.property
  rw [List.length_append, List.length_append] at hlength
  obtain ⟨hleft, hright⟩ := List.append_inj hmessage (by omega)
  exact Prod.ext hleft hright

include hinj ht hd hroot hverify

/-- The leaf that the directions lead to is the one the proof starts from. -/
theorem leaf_of_descend {x : Digest}
    (hdescend : t.descend (p.auditPath.reverse.map MerkleAuditPathNode.onRight) = some x) :
    x = d := by
  obtain ⟨steps, hsides, hvalue, hclimbed, -⟩ := verify_steps hd hroot hverify
  rw [List.map_reverse, ← hsides, ← List.map_reverse] at hdescend
  exact Subtype.ext
    (eq_of_descend (fun _ _ => rfl) (pairs_cross hinj ht hclimbed) hvalue hdescend)

/-- Where the proof starts from the hash of a record and records are not as long as two digests,
the directions lead to a leaf. -/
theorem exists_descend (hlengths : ∀ m ∈ records, m.length ≠ 64) (hsiblings : p.SiblingsAreDigests)
    (hleaf : d ∈ leafDigests records) :
    ∃ x, t.descend (p.auditPath.reverse.map MerkleAuditPathNode.onRight) = some x := by
  obtain ⟨steps, hsides, hvalue, hclimbed, hsteps⟩ := verify_steps hd hroot hverify
  have hdigests : ∀ step ∈ steps.reverse, step.2.length = 32 := by
    intro step hstep
    obtain ⟨node, hnode, hdecode⟩ := hsteps step (List.mem_reverse.mp hstep)
    obtain ⟨sibling, hsibling⟩ := hsiblings node hnode
    rw [Option.some.inj (hdecode.symm.trans hsibling)]
    exact sibling.property
  have hstart : ∀ q ∈ t.pairs Digest.join, (q.1.join q.2).val ≠ d.val := by
    intro q hq hsame
    obtain ⟨m, hm, rfl⟩ := List.mem_map.mp hleaf
    have hmessage : q.1.val ++ q.2.val = m :=
      hinj (Or.inr (Or.inl (pairs_hashed ht q hq))) (Or.inl hm) hsame
    apply hlengths m hm
    rw [← hmessage, List.length_append, q.1.property, q.2.property]
  have hinner : ∀ q ∈ pathPairs joinBytes d.val steps.reverse, ∀ x ∈ t.leaves,
      joinBytes q.1 q.2 ≠ x.val := by
    intro q hq x hx hsame
    obtain ⟨m, hm, rfl⟩ := List.mem_map.mp (forest_leaves _ _ t ht x hx)
    have hmessage : q.1 ++ q.2 = m :=
      hinj (Or.inr (Or.inr (hclimbed q hq))) (Or.inl hm) hsame
    apply hlengths m hm
    rw [← hmessage, pathPairs_length_of_digests d.property hdigests q hq]
  rw [List.map_reverse, ← hsides, ← List.map_reverse]
  exact descend_of_eval (fun _ _ => rfl) (pairs_cross hinj ht hclimbed) hvalue hstart hinner

omit hinj ht hd hroot hverify

/-- Where the messages at hand do not collide, an accepted proof names a leaf by its index when
the directions of its path lead to an equal leaf; and where its siblings are digests and no
record is as long as two of them, only then. -/
theorem verify_sound_iff (records : List (List UInt8)) (p : MerkleInclusionProof)
    (hne : records ≠ []) (hinj : Set.InjOn sha256 (messagesAtHand records p))
    (hroot : rootOf (records.map hexdigest) = some p.rootHash) (hverify : p.verify = some true) :
    (p.FollowsIndex (leafDigests records) → p.NamesLeaf (records.map hexdigest)) ∧
      (p.SiblingsAreDigests → (∀ m ∈ records, m.length ≠ 64) →
        p.NamesLeaf (records.map hexdigest) → p.FollowsIndex (leafDigests records)) := by
  have hleaves : leafDigests records ≠ [] := fun hnil => hne (List.map_eq_nil_iff.mp hnil)
  obtain ⟨t, ht, htop⟩ := treeOf_singleton Digest.join hleaves
  have htmem : t ∈ treeOf (leafDigests records) := ht ▸ List.mem_singleton_self t
  have hrootHash : p.rootHash = (t.eval Digest.join).hex := by
    rw [← leafDigests_hex, rootOf_hex hleaves, htop] at hroot
    exact (Option.some.inj hroot).symm
  constructor
  · rintro ⟨⟨d, hd⟩, hnonneg, t', ht', x, hdescend, hindex⟩
    rw [ht, List.mem_singleton] at ht'
    subst ht'
    refine ⟨hnonneg, ?_⟩
    rw [← leafDigests_hex, List.getElem?_map, hindex, hd,
      leaf_of_descend hinj htmem hd hrootHash hverify hdescend]
    rfl
  · rintro hsiblings hlengths ⟨hnonneg, hindex⟩
    rw [← leafDigests_hex, List.getElem?_map, Option.map_eq_some_iff] at hindex
    obtain ⟨d, hd, hhex⟩ := hindex
    obtain ⟨x, hdescend⟩ := exists_descend hinj htmem hhex.symm hrootHash hverify hlengths
      hsiblings (List.mem_of_getElem? hd)
    have hx := leaf_of_descend hinj htmem hhex.symm hrootHash hverify hdescend
    exact ⟨⟨d, hhex.symm⟩, hnonneg, t, htmem, x, hdescend, hd.trans (congrArg some hx.symm)⟩

end Soundness

section Sample

def sampleRecord : UnsignedRecord where
  recordId := "r1"
  createdAt := "2026-07-23T00:00:00+00:00"
  recordType := "observation"
  subjectId := "asset-a"
  payload := []
  previousHash := genesis

/-- The leaf of a ledger of one record as its root, under any index. -/
def sampleProof (index : ℤ) : MerkleInclusionProof where
  recordIndex := index
  leafHash := sampleRecord.hash
  rootHash := sampleRecord.hash
  auditPath := []

theorem sampleProof_messages (index : ℤ) :
    Set.InjOn sha256 (messagesAtHand [sampleRecord.canonical] (sampleProof index)) := by
  have hone : ∀ m ∈ messagesAtHand [sampleRecord.canonical] (sampleProof index),
      m = sampleRecord.canonical := by
    rintro m (hm | hm | hm)
    · exact List.mem_singleton.mp hm
    · cases hm
    · cases hm
  intro m hm m' hm' _
  rw [hone m hm, hone m' hm']

theorem sampleProof_root (index : ℤ) :
    rootOf ([sampleRecord.canonical].map hexdigest) = some (sampleProof index).rootHash := by
  rw [← leafDigests_hex, rootOf_hex (l := leafDigests [sampleRecord.canonical]) (List.cons_ne_nil _ _)]
  change (top Digest.join [Digest.of sampleRecord.canonical]).head?.map Digest.hex = _
  rw [top_singleton]
  rfl

theorem sampleProof_verify (index : ℤ) : (sampleProof index).verify = some true :=
  congrArg some (decide_eq_true rfl)

/-- The last of three leaves, which is hashed with itself. -/
def thirdRecords : List (List UInt8) := [[97], [98], [99]]

def leafOf (byte : UInt8) : Digest := Digest.of [byte]

def firstPair : Digest := (leafOf 97).join (leafOf 98)

def lastPair : Digest := (leafOf 99).join (leafOf 99)

def thirdTree : MerkleTree where
  leafHashes := [(leafOf 97).hex, (leafOf 98).hex, (leafOf 99).hex]
  levels := [[(leafOf 97).hex, (leafOf 98).hex, (leafOf 99).hex], [firstPair.hex, lastPair.hex],
    [(firstPair.join lastPair).hex]]

def thirdProof : MerkleInclusionProof where
  recordIndex := 2
  leafHash := (leafOf 99).hex
  rootHash := (firstPair.join lastPair).hex
  auditPath := [⟨(leafOf 99).hex, "right"⟩, ⟨firstPair.hex, "left"⟩]

theorem thirdRecords_height : height (leafDigests thirdRecords) = 2 := by decide

theorem thirdRecords_hashed : hashedMessages (leafDigests thirdRecords) =
    [(leafOf 97).val ++ (leafOf 98).val, (leafOf 99).val ++ (leafOf 99).val,
      firstPair.val ++ lastPair.val] := by
  rw [hashedMessages, joined, thirdRecords_height]
  rfl

theorem thirdProof_combined :
    (⟨(leafOf 99).hex, "right"⟩ : MerkleAuditPathNode).combined (leafOf 99).hex =
        some ((leafOf 99).val ++ (leafOf 99).val) ∧
      (⟨firstPair.hex, "left"⟩ : MerkleAuditPathNode).combined lastPair.hex =
        some (firstPair.val ++ lastPair.val) := by
  constructor <;>
    simp [MerkleAuditPathNode.combined, MerkleAuditPathNode.onRight, Digest.hexDecode_hex]

theorem thirdProof_verify : thirdProof.verify = some true := by
  have hclimb : climb thirdProof.leafHash thirdProof.auditPath = some thirdProof.rootHash := by
    simp only [thirdProof, climb, thirdProof_combined.1, Option.bind_eq_bind, Option.bind_some]
    change (MerkleAuditPathNode.combined _ lastPair.hex).bind _ = _
    rw [thirdProof_combined.2]
    rfl
  rw [MerkleInclusionProof.verify, hclimb]
  exact congrArg some (decide_eq_true rfl)

theorem thirdProof_climbed : climbedMessages thirdProof.leafHash thirdProof.auditPath =
    [(leafOf 99).val ++ (leafOf 99).val, firstPair.val ++ lastPair.val] := by
  simp only [thirdProof, climbedMessages, thirdProof_combined.1]
  rw [show hexdigest ((leafOf 99).val ++ (leafOf 99).val) = lastPair.hex from rfl,
    thirdProof_combined.2]

theorem thirdProof_messages : Set.InjOn sha256 (messagesAtHand thirdRecords thirdProof) := by
  have hnodup : ((thirdRecords ++ [(leafOf 97).val ++ (leafOf 98).val,
      (leafOf 99).val ++ (leafOf 99).val, firstPair.val ++ lastPair.val]).map sha256).Nodup := by
    decide +kernel
  rw [← thirdRecords_hashed] at hnodup
  have hmem : ∀ m ∈ messagesAtHand thirdRecords thirdProof,
      m ∈ thirdRecords ++ hashedMessages (leafDigests thirdRecords) := by
    rintro m (hm | hm | hm)
    · exact List.mem_append_left _ hm
    · exact List.mem_append_right _ hm
    · rw [thirdProof_climbed] at hm
      rw [thirdRecords_hashed]
      exact List.mem_append_right _ (List.mem_cons_of_mem _ hm)
  exact fun m hm m' hm' h => List.inj_on_of_nodup_map hnodup (hmem m hm) (hmem m' hm') h

theorem thirdProof_root : rootOf (thirdRecords.map hexdigest) = some thirdProof.rootHash := by
  have hne : leafDigests thirdRecords ≠ [] := List.cons_ne_nil _ _
  rw [← leafDigests_hex, rootOf_hex hne, top, thirdRecords_height]
  rfl

theorem verify_sound_third :
    thirdTree.generateInclusionProof 2 = .ok thirdProof ∧ thirdProof.SiblingsAreDigests ∧
      (thirdProof.FollowsIndex (leafDigests thirdRecords) ↔
        thirdProof.NamesLeaf (thirdRecords.map hexdigest)) := by
  have hsound := verify_sound_iff thirdRecords thirdProof (List.cons_ne_nil _ _)
    thirdProof_messages thirdProof_root thirdProof_verify
  have hsiblings : thirdProof.SiblingsAreDigests := by
    rw [MerkleInclusionProof.SiblingsAreDigests, thirdProof, List.forall_mem_cons,
      List.forall_mem_singleton]
    exact ⟨⟨leafOf 99, Digest.hexDecode_hex _⟩, firstPair, Digest.hexDecode_hex _⟩
  have hlengths : ∀ m ∈ thirdRecords, m.length ≠ 64 := by decide
  exact ⟨rfl, hsiblings, hsound.1, hsound.2 hsiblings hlengths⟩

/-- The index of an accepted proof may be out of range. -/
theorem verify_not_sound :
    ¬ ∀ (records : List (List UInt8)) (p : MerkleInclusionProof), records ≠ [] →
      Set.InjOn sha256 (messagesAtHand records p) →
      rootOf (records.map hexdigest) = some p.rootHash → p.verify = some true →
      p.NamesLeaf (records.map hexdigest) := by
  intro h
  have hnames := h [sampleRecord.canonical] (sampleProof 1) (List.cons_ne_nil _ _)
    (sampleProof_messages 1) (sampleProof_root 1) (sampleProof_verify 1)
  cases hnames.2

end Sample

end ContinuityOS.Crypto
