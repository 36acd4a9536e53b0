import ContinuityOS.Crypto.MerkleProofs

/-! # Every leaf has a proof

On each level the sibling of a node, or the node itself where it stands alone, hashes
with it to the node above, at half its index. So a climb from a leaf along the levels
ends at the root.
-/
namespace ContinuityOS.Crypto
open Library

def IsHex (s : String) : Prop := ∃ bytes, hexDecode s.toList = some bytes

theorem isHex_hexdigest (message : List UInt8) : IsHex (hexdigest message) :=
  ⟨_, Digest.hexDecode_hex _⟩

theorem combine_of_isHex {left right : String} (hl : IsHex left) (hr : IsHex right) :
    ∃ message, combine left right = some (hexdigest message) := by
  obtain ⟨l, hl⟩ := hl
  obtain ⟨r, hr⟩ := hr
  exact ⟨l ++ r, combine_eq_some_iff.mpr ⟨l, r, hl, hr, rfl⟩⟩

section Levels
variable {current next : List String}

/-- A level of hexadecimal hashes has a level above it, of hexadecimal hashes. -/
theorem exists_nextLevel (h : ∀ s ∈ current, IsHex s) :
    ∃ next, nextLevel current = some next ∧ ∀ s ∈ next, IsHex s := by
  induction current using nextLevel.induct with
  | case1 => exact ⟨[], rfl, List.forall_mem_nil _⟩
  | case2 left =>
    have hleft := List.forall_mem_singleton.mp h
    obtain ⟨message, hcombine⟩ := combine_of_isHex hleft hleft
    refine ⟨[hexdigest message], nextLevel_single_iff.mpr ⟨_, hcombine, rfl⟩, ?_⟩
    exact List.forall_mem_singleton.mpr (isHex_hexdigest message)
  | case3 left right rest ih =>
    rw [List.forall_mem_cons, List.forall_mem_cons] at h
    obtain ⟨hleft, hright, hrest⟩ := h
    obtain ⟨message, hcombine⟩ := combine_of_isHex hleft hright
    obtain ⟨parents, hparents, hhex⟩ := ih hrest
    refine ⟨hexdigest message :: parents,
      nextLevel_pair_iff.mpr ⟨_, hcombine, parents, hparents, rfl⟩, ?_⟩
    exact List.forall_mem_cons.mpr ⟨isHex_hexdigest message, hhex⟩

theorem siblingAt_add_two (left right : String) (rest : List String) (index : ℕ) :
    MerkleTree.siblingAt (left :: right :: rest) (index + 2) =
      MerkleTree.siblingAt rest index := by
  unfold MerkleTree.siblingAt
  rw [Nat.add_mod_right]
  split_ifs with hodd hlong hlong' hlong'
  · have hindex : index + 2 - 1 = index - 1 + 2 := by omega
    rw [hindex]
    rfl
  · rfl
  · simp at hlong
    omega
  · simp at hlong
    omega
  · rfl

/-- What the node at an index is hashed with: its sibling and the node above it. -/
theorem siblingAt_spec {index : ℕ} {hash : String} (hnext : nextLevel current = some next)
    (hhash : current[index]? = some hash) :
    ∃ node message, MerkleTree.siblingAt current index = some node ∧
      node.combined hash = some message ∧ next[index / 2]? = some (hexdigest message) := by
  induction current using nextLevel.induct generalizing next index with
  | case1 => cases hhash
  | case2 left =>
    obtain ⟨parent, hcombine, rfl⟩ := nextLevel_single_iff.mp hnext
    obtain ⟨l, r, hl, hr, rfl⟩ := combine_eq_some_iff.mp hcombine
    cases index with
    | zero =>
      cases hhash
      refine ⟨⟨hash, "right"⟩, l ++ r, rfl, ?_, rfl⟩
      rw [MerkleAuditPathNode.combined, hl]
      cases hl.symm.trans hr
      rfl
    | succ index => cases hhash
  | case3 left right rest ih =>
    obtain ⟨parent, hcombine, parents, hrest, rfl⟩ := nextLevel_pair_iff.mp hnext
    obtain ⟨l, r, hl, hr, rfl⟩ := combine_eq_some_iff.mp hcombine
    rcases index with _ | _ | index
    · cases hhash
      refine ⟨⟨right, "right"⟩, l ++ r, rfl, ?_, rfl⟩
      rw [MerkleAuditPathNode.combined, hl, hr]
      rfl
    · cases hhash
      refine ⟨⟨left, "left"⟩, l ++ r, rfl, ?_, rfl⟩
      rw [MerkleAuditPathNode.combined, hl, hr]
      rfl
    · obtain ⟨node, message, hsibling, hcombined, habove⟩ := ih hrest hhash
      refine ⟨node, message, by rw [siblingAt_add_two, hsibling], hcombined, ?_⟩
      have hhalf : (index + 1 + 1) / 2 = index / 2 + 1 := Nat.add_div_right index two_pos
      rw [hhalf, List.getElem?_cons_succ, habove]

end Levels

section Climbing
variable {current : List String}

/-- The levels over hexadecimal hashes are built, and the audit path of a node of the
lowest one climbs from it to the root. -/
theorem exists_climb (hhex : ∀ s ∈ current, IsHex s) {index : ℕ} {hash : String}
    (hhash : current[index]? = some hash) :
    ∃ levels path root, buildTree current = some levels ∧
      MerkleTree.auditPathOf index levels.dropLast = some path ∧
      levels.getLast?.bind List.head? = some root ∧ climb hash path = some root := by
  induction hlen : current.length using Nat.strong_induction_on generalizing current index hash with
  | _ n ih =>
    by_cases hlong : 1 < current.length
    · obtain ⟨next, hnext, hhex'⟩ := exists_nextLevel hhex
      obtain ⟨node, message, hsibling, hcombined, habove⟩ := siblingAt_spec hnext hhash
      have hshorter := nextLevel_length hnext
      obtain ⟨levels, path, root, hbuild, hpath, hroot, hclimb⟩ :=
        ih next.length (by omega) hhex' habove rfl
      have hne : levels ≠ [] := by
        rintro rfl
        cases hroot
      refine ⟨current :: levels, node :: path, root, ?_, ?_, ?_, ?_⟩
      · rw [buildTree_of_long hlong hnext, hbuild]
        rfl
      · rw [List.dropLast_cons_of_ne_nil hne, MerkleTree.auditPathOf, hsibling, hpath]
        rfl
      · rwa [List.getLast?_cons_of_ne_nil hne]
      · rw [climb, hcombined]
        exact hclimb
    · -- a single node is the root, and its path is empty
      have hindex := (List.getElem?_eq_some_iff.mp hhash).1
      have hzero : index = 0 := by omega
      subst hzero
      refine ⟨[current], [], hash, buildTree_of_short hlong, rfl, ?_, rfl⟩
      rw [List.getLast?_singleton, Option.bind_some, List.head?_eq_getElem?, hhash]

end Climbing

/-- For every leaf the tree gives a proof that names it and its root and verifies. -/
theorem inclusion_proof_complete (leafHashes : List String) (hne : leafHashes ≠ [])
    (hhex : ∀ s ∈ leafHashes, IsHex s) (index : ℤ) (hnonneg : 0 ≤ index)
    (hindex : index < leafHashes.length) :
    ∃ tree p, MerkleTree.new leafHashes = .ok tree ∧
      tree.generateInclusionProof index = .ok p ∧ p.recordIndex = index ∧
      tree.rootHash = some p.rootHash ∧ leafHashes[index.toNat]? = some p.leafHash ∧
      p.verify = some true := by
  obtain ⟨hash, hhash⟩ : ∃ hash, leafHashes[index.toNat]? = some hash :=
    ⟨_, List.getElem?_eq_getElem (by omega)⟩
  obtain ⟨levels, path, root, hbuild, hpath, hroot, hclimb⟩ := exists_climb hhex hhash
  refine ⟨⟨leafHashes, levels⟩, ⟨index, hash, root, path⟩, ?_, ?_, rfl, hroot, hhash, ?_⟩
  · rw [MerkleTree.new, if_neg hne, hbuild]
  · rw [MerkleTree.generateInclusionProof, if_pos ⟨hnonneg, hindex⟩, hpath, hhash,
      MerkleTree.rootHash, hroot]
  · rw [MerkleInclusionProof.verify, hclimb]
    exact congrArg some (decide_eq_true rfl)

theorem inclusion_proof_complete_three :
    ∃ tree p, MerkleTree.new ["aa", "bb", "cc"] = .ok tree ∧
      tree.generateInclusionProof 2 = .ok p ∧ p.leafHash = "cc" ∧ p.verify = some true := by
  obtain ⟨tree, p, htree, hp, -, -, hleaf, hverify⟩ := inclusion_proof_complete
    ["aa", "bb", "cc"] (List.cons_ne_nil _ _)
    (by simpa using ⟨⟨[0xaa], by decide⟩, ⟨[0xbb], by decide⟩, ⟨[0xcc], by decide⟩⟩) 2
    (by decide) (by decide)
  exact ⟨tree, p, htree, hp, (Option.some.inj hleaf).symm, hverify⟩

end ContinuityOS.Crypto
