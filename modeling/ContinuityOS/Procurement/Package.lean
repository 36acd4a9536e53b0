import ContinuityOS.Crypto.MerkleTree
import ContinuityOS.Evidence.Record
import ContinuityOS.Library.Dict
import ContinuityOS.Library.Text

/-! # Sealed procurement packages

The manifest of a package lists the digest of every file, and its root is signed. Verification
takes the list of files, their digests, the root and the presence of a signature from the
manifest that lies in the directory. A signature fixes which digests are listed, but not which
file each of them stands for.
-/
namespace ContinuityOS.Procurement
open Library Crypto Evidence

/-- What stands in the file of the manifest. -/
inductive ManifestFile where
  | missing
  | unreadable
  | readable (value : Json)

/-- A directory: the content of the file at a path, and the manifest. -/
structure PackDir where
  files : String → Option (List UInt8)
  manifest : ManifestFile

def manifestName : String := "SEALED_EVIDENCE_DIGEST.json"

variable {ed : Ed25519}

/-- What the root is the digest of: the digests in order of their text. -/
def rootMessage (digests : List String) : List UInt8 :=
  encodeUtf8 ((sortedBy id digests).flatMap String.toList)

def packageRoot (digests : List String) : String := hexdigest (rootMessage digests)

section Seal

/-- The files that are sealed, by name. -/
def sealedFiles (files : Dict String (List UInt8)) : List (String × List UInt8) :=
  (sortedBy Prod.fst files.entries).filter fun item => item.1 ≠ manifestName

def fileHashes (files : Dict String (List UInt8)) : Dict String String :=
  .ofBindings ((sealedFiles files).map fun item => (item.1, hexdigest item.2))

/-- The digests of the files that are sealed. -/
def sealedDigests (files : Dict String (List UInt8)) : List String :=
  (fileHashes files).entries.map Prod.snd

/-- The seal of a directory with the files, at the end of the compilation. -/
def sealManifest (files : Dict String (List UInt8)) (privateKey : Option ed.PrivateKey)
    (timestamp : String) : Json :=
  let combinedHash := packageRoot (sealedDigests files)
  let signatureHex : Json := match privateKey with
    | none => .null
    | some key => .string (String.ofList (hexEncode (ed.sign key (encodeUtf8 combinedHash.toList))))
  .object [("package", .string "ContinuityOS Government Adoption & Procurement Suite"),
    ("version", .string "1.0.0"),
    ("sealed_at", .string timestamp),
    ("merkle_root_sha256", .string combinedHash),
    ("file_digests", .object ((fileHashes files).entries.map fun item => (item.1, .string item.2))),
    ("ed25519_signature", signatureHex),
    ("verified", .bool true)]

/-- The directory as it is left, with the text of the manifest beside the files. -/
def sealedDir (files : Dict String (List UInt8)) (privateKey : Option ed.PrivateKey)
    (timestamp : String) (manifestText : List UInt8) : PackDir where
  files name := if name = manifestName then some manifestText else files.get? name
  manifest := .readable (sealManifest files privateKey timestamp)

end Seal

section Verify

/-- `none` where a value is not a dictionary. -/
def asDict : Json → Option (Dict String Json)
  | .object members => some (.ofBindings members)
  | _ => none

def isText (text : String) : Json → Bool
  | .string s => s = text
  | _ => false

/-- What counts as true; a number with a fraction has the text of its value. -/
def truthy : Json → Bool
  | .null => false
  | .bool b => b
  | .int n => n ≠ 0
  | .float literal => literal ≠ "0.0" ∧ literal ≠ "-0.0"
  | .string s => s ≠ ""
  | .array items => !items.isEmpty
  | .object members => !members.isEmpty

/-- The digests of the listed files, unless one is missing or has another digest. -/
def recompute (files : String → Option (List UInt8)) : List (String × Json) → Option (List String)
  | [] => some []
  | (filename, expectedHash) :: digests =>
    match files filename with
    | none => none
    | some content =>
      if isText (hexdigest content) expectedHash then
        (recompute files digests).map (hexdigest content :: ·)
      else none

/-- A signature that is left out or empty is not checked. -/
def signaturePasses (publicKey : Option ed.PublicKey) (signature : Option Json)
    (actualRoot : String) : Bool :=
  match publicKey, signature with
  | some key, some value =>
    if truthy value then
      match value with
      | .string sigHex =>
        match hexDecode sigHex.toList with
        | some bytes => ed.verify key bytes (encodeUtf8 actualRoot.toList)
        | none => false
      | _ => false
    else true
  | _, _ => true

/-- `none` is an exception. -/
def verifyProcurementPack (packDir : PackDir) (publicKey : Option ed.PublicKey) : Option Bool :=
  match packDir.manifest with
  | .missing => some false
  | .unreadable => none
  | .readable value => do
    let manifest ← asDict value
    let fileDigests ← asDict ((manifest.get? "file_digests").getD (.object []))
    match recompute packDir.files fileDigests.entries with
    | none => return false
    | some recomputed =>
      let actualRoot := packageRoot recomputed
      if ¬ (manifest.get? "merkle_root_sha256").any (isText actualRoot) then return false
      else return signaturePasses publicKey (manifest.get? "ed25519_signature") actualRoot

end Verify

section Condition

/-- The digests that the manifest lists. -/
def listedDigests (packDir : PackDir) : Option (Dict String Json) :=
  match packDir.manifest with
  | .readable value => do
    let manifest ← asDict value
    asDict ((manifest.get? "file_digests").getD (.object []))
  | _ => none

/-- What the manifest lists for a file. -/
def listed (packDir : PackDir) (filename : String) : Option Json :=
  (listedDigests packDir).bind fun fileDigests => fileDigests.get? filename

def texts (digests : List (String × Json)) : List String :=
  digests.filterMap fun item => match item.2 with
    | .string text => some text
    | _ => none

/-- Listed files have their listed digests, the stored root is that of the listed digests, and
a signature that is stored and not empty verifies. -/
structure ConsistentWith (packDir : PackDir) (publicKey : Option ed.PublicKey)
    (manifest fileDigests : Dict String Json) : Prop where
  readable : ∃ value, packDir.manifest = .readable value ∧ asDict value = some manifest
  lists : asDict ((manifest.get? "file_digests").getD (.object [])) = some fileDigests
  digests : ∀ item ∈ fileDigests.entries, ∃ content, packDir.files item.1 = some content ∧
    item.2 = .string (hexdigest content)
  root : manifest.get? "merkle_root_sha256" =
    some (.string (packageRoot (texts fileDigests.entries)))
  signature : signaturePasses publicKey (manifest.get? "ed25519_signature")
    (packageRoot (texts fileDigests.entries)) = true

def Consistent (packDir : PackDir) (publicKey : Option ed.PublicKey) : Prop :=
  ∃ manifest fileDigests, ConsistentWith packDir publicKey manifest fileDigests

theorem isText_iff {text : String} {j : Json} : isText text j = true ↔ j = .string text := by
  cases j with
  | string s => simp [isText]
  | _ => simp [isText]

theorem recompute_eq_some_iff {files : String → Option (List UInt8)}
    {digests : List (String × Json)} {recomputed : List String} :
    recompute files digests = some recomputed ↔
      (∀ item ∈ digests, ∃ content, files item.1 = some content ∧
        item.2 = .string (hexdigest content)) ∧ texts digests = recomputed := by
  induction digests generalizing recomputed with
  | nil => simp [recompute, texts]
  | cons item digests ih =>
    rw [List.forall_mem_cons, recompute]
    cases hfile : files item.1 with
    | none => simp
    | some content =>
      by_cases htext : isText (hexdigest content) item.2 = true
      · have hitem := isText_iff.mp htext
        have htexts : texts (item :: digests) = hexdigest content :: texts digests := by
          rw [texts, List.filterMap_cons, hitem]
          rfl
        rw [htexts]
        simp only [if_pos htext, Option.map_eq_some_iff, ih]
        constructor
        · rintro ⟨rest, ⟨hrest, rfl⟩, rfl⟩
          exact ⟨⟨⟨content, rfl, hitem⟩, hrest⟩, rfl⟩
        · rintro ⟨⟨-, hrest⟩, rfl⟩
          exact ⟨_, ⟨hrest, rfl⟩, rfl⟩
      · refine iff_of_false (by simp [htext]) ?_
        rintro ⟨⟨⟨content', hcontent', hitem⟩, -⟩, -⟩
        rw [Option.some.injEq] at hcontent'
        exact htext (isText_iff.mpr (hcontent' ▸ hitem))

theorem any_isText_iff {text : String} {stored : Option Json} :
    stored.any (isText text) = true ↔ stored = some (.string text) := by
  cases stored with
  | none => simp
  | some value => rw [Option.any_some, isText_iff, Option.some.injEq]

theorem verifyProcurementPack_eq_true_iff {packDir : PackDir} {publicKey : Option ed.PublicKey} :
    verifyProcurementPack packDir publicKey = some true ↔ Consistent packDir publicKey := by
  constructor
  · intro h
    rw [verifyProcurementPack] at h
    cases hfile : packDir.manifest with
    | missing => rw [hfile] at h; cases h
    | unreadable => rw [hfile] at h; cases h
    | readable value =>
      rw [hfile] at h
      simp only [Option.bind_eq_bind, Option.bind_eq_some_iff] at h
      obtain ⟨manifest, hmanifest, fileDigests, hlists, h⟩ := h
      cases hrecomputed : recompute packDir.files fileDigests.entries with
      | none => rw [hrecomputed] at h; cases h
      | some recomputed =>
        rw [hrecomputed] at h
        obtain ⟨hdigests, rfl⟩ := recompute_eq_some_iff.mp hrecomputed
        simp only at h
        split_ifs at h with hroot
        · exact ⟨manifest, fileDigests, ⟨value, hfile, hmanifest⟩, hlists, hdigests,
            any_isText_iff.mp hroot, Option.some.inj h⟩
        · cases h
  · rintro ⟨manifest, fileDigests, ⟨value, hfile, hmanifest⟩, hlists, hdigests, hroot, hsignature⟩
    have hrecomputed := recompute_eq_some_iff.mpr ⟨hdigests, rfl⟩
    simp only [verifyProcurementPack, hfile, hmanifest, hlists, hrecomputed, Option.bind_eq_bind,
      Option.bind_some, any_isText_iff.mpr hroot, not_true_eq_false, if_false, hsignature]
    rfl

theorem ConsistentWith.listed {packDir : PackDir} {publicKey : Option ed.PublicKey}
    {manifest fileDigests : Dict String Json}
    (h : ConsistentWith packDir publicKey manifest fileDigests) (filename : String) :
    Procurement.listed packDir filename = fileDigests.get? filename := by
  obtain ⟨value, hfile, hmanifest⟩ := h.readable
  rw [Procurement.listed, listedDigests, hfile]
  simp only [hmanifest, h.lists, Option.bind_eq_bind, Option.bind_some]

end Condition

section Seal
variable {files : Dict String (List UInt8)}

theorem sealedFiles_nodup (files : Dict String (List UInt8)) :
    ((sealedFiles files).map Prod.fst).Nodup := by
  have hsorted : ((sortedBy Prod.fst files.entries).map Prod.fst).Nodup :=
    ((sortedBy_perm Prod.fst files.entries).map Prod.fst).nodup_iff.mpr files.nodup
  exact (List.filter_sublist.map Prod.fst).nodup hsorted

theorem mem_sealedFiles {item : String × List UInt8} :
    item ∈ sealedFiles files ↔ files.get? item.1 = some item.2 ∧ item.1 ≠ manifestName := by
  rw [sealedFiles, List.mem_filter, mem_sortedBy, decide_eq_true_eq, Dict.mem_entries]

/-- The digests that a seal lists, with their file names. -/
theorem entries_fileHashes (files : Dict String (List UInt8)) : (fileHashes files).entries =
    (sealedFiles files).map fun item => (item.1, hexdigest item.2) := by
  refine Dict.entries_ofBindings ?_
  rw [List.map_map]
  exact sealedFiles_nodup files

theorem texts_strings (digests : List (String × String)) :
    texts (digests.map fun item => (item.1, .string item.2)) = digests.map Prod.snd := by
  induction digests with
  | nil => rfl
  | cons item digests ih =>
    rw [List.map_cons, List.map_cons, ← ih]
    rfl

/-- A signature under the matching key passes, and an empty one is not looked at. -/
theorem signaturePasses_sign (hed : ed.Correct) (key : ed.PrivateKey) (root : String) :
    signaturePasses (some (ed.publicKey key))
      (some (.string (String.ofList (hexEncode (ed.sign key (encodeUtf8 root.toList)))))) root =
        true := by
  rw [signaturePasses]
  split_ifs with htruthy
  · simp only [String.toList_ofList, hexDecode_hexEncode]
    exact hed key _
  · rfl

/-- The digests as the manifest lists them. -/
def manifestDigests (files : Dict String (List UInt8)) : Dict String Json :=
  .ofBindings ((fileHashes files).entries.map fun item => (item.1, .string item.2))

theorem entries_manifestDigests (files : Dict String (List UInt8)) :
    (manifestDigests files).entries =
      (fileHashes files).entries.map fun item => (item.1, .string item.2) := by
  refine Dict.entries_ofBindings ?_
  rw [List.map_map]
  exact (fileHashes files).nodup

theorem texts_manifest (files : Dict String (List UInt8)) :
    texts (manifestDigests files).entries = sealedDigests files := by
  rw [entries_manifestDigests, texts_strings]
  rfl

/-- A directory passes as it was sealed. -/
theorem consistent_sealedDir (hed : ed.Correct) (files : Dict String (List UInt8))
    (key : ed.PrivateKey) (timestamp : String) (manifestText : List UInt8) :
    Consistent (sealedDir files (some key) timestamp manifestText) (some (ed.publicKey key)) := by
  refine ⟨_, manifestDigests files, ⟨_, rfl, rfl⟩, rfl, ?_, ?_, ?_⟩
  · intro item hitem
    rw [entries_manifestDigests, entries_fileHashes, List.map_map] at hitem
    obtain ⟨file, hfile, rfl⟩ := List.mem_map.mp hitem
    obtain ⟨hcontent, hname⟩ := mem_sealedFiles.mp hfile
    exact ⟨file.2, (if_neg hname).trans hcontent, rfl⟩
  · rw [texts_manifest]
    rfl
  · rw [texts_manifest]
    exact signaturePasses_sign hed key _

/-- Every sealed file still has its content. -/
def Intact (files : Dict String (List UInt8)) (packDir : PackDir) : Prop :=
  ∀ file ∈ sealedFiles files, packDir.files file.1 = some file.2

/-- The contents of the sealed files, as they were and as they are found. -/
def comparedContents (files : Dict String (List UInt8)) (packDir : PackDir) : Set (List UInt8) :=
  {content | ∃ file ∈ sealedFiles files, content = file.2 ∨ packDir.files file.1 = some content}

/-- What is hashed for the roots of some packages and of a manifest. -/
def rootMessages (packages : Set (Dict String (List UInt8))) (packDir : PackDir) :
    Set (List UInt8) :=
  {message | (∃ package ∈ packages, message = rootMessage (sealedDigests package)) ∨
    ∃ fileDigests, listedDigests packDir = some fileDigests ∧
      message = rootMessage (texts fileDigests.entries)}

/-- What is stored as the signature, unless it is not checked. -/
def storedSignature (packDir : PackDir) : Option Json :=
  match packDir.manifest with
  | .readable value =>
    ((asDict value).bind fun manifest => manifest.get? "ed25519_signature").filter truthy
  | _ => none

/-- What the stored signature verifies for is the root of a package sealed with the key. -/
def Unforged (key : ed.PrivateKey) (packages : Set (Dict String (List UInt8)))
    (packDir : PackDir) : Prop :=
  ∀ sigHex signature message, storedSignature packDir = some (.string sigHex) →
    hexDecode sigHex.toList = some signature →
    ed.verify (ed.publicKey key) signature message = true →
    ∃ package ∈ packages, message = encodeUtf8 (packageRoot (sealedDigests package)).toList

/-- A sealed file that the manifest lists no more is as it was. One that it lists has its sealed
digest where the manifest is not signed, and where it is signed has the digest of no other
content that was sealed with the key. -/
structure KeepsFiles (packages : Set (Dict String (List UInt8)))
    (files : Dict String (List UInt8)) (packDir : PackDir) : Prop where
  unlisted : ∀ file ∈ sealedFiles files, listed packDir file.1 = none →
    packDir.files file.1 = some file.2
  unsigned : storedSignature packDir = none → ∀ file ∈ sealedFiles files, ∀ digest,
    listed packDir file.1 = some digest → digest = .string (hexdigest file.2)
  unswapped : ∀ file ∈ sealedFiles files, ∀ package ∈ packages, ∀ other ∈ sealedFiles package,
    listed packDir file.1 = some (.string (hexdigest other.2)) →
      hexdigest other.2 = hexdigest file.2

/-- Digests that are hashed for a root are told apart, but for their order. -/
theorem perm_of_rootMessage {a b : List String} (ha : ∀ text ∈ a, ∃ d : Digest, d.hex = text)
    (hb : ∀ text ∈ b, ∃ d : Digest, d.hex = text) (h : rootMessage a = rootMessage b) :
    a.Perm b := by
  have hsorted : ∀ l : List String, (∀ text ∈ l, ∃ d : Digest, d.hex = text) →
      ∃ l' : List Digest, l'.map Digest.hex = sortedBy id l := by
    intro l hl
    have hmem : sortedBy id l ∈ Set.range (List.map Digest.hex) := by
      rw [Set.range_list_map]
      exact fun text htext => hl text ((mem_sortedBy id l text).mp htext)
    exact hmem
  obtain ⟨a', ha'⟩ := hsorted a ha
  obtain ⟨b', hb'⟩ := hsorted b hb
  have htexts := encodeUtf8_injective h
  rw [← ha', ← hb', List.flatMap_map, List.flatMap_map] at htexts
  have hsame : sortedBy id a = sortedBy id b := by
    rw [← ha', ← hb', Digest.flatMap_hex_inj htexts]
  have hperm := sortedBy_perm id b
  rw [← hsame] at hperm
  exact (sortedBy_perm id a).symm.trans hperm

theorem sealedDigests_eq (files : Dict String (List UInt8)) :
    sealedDigests files = (sealedFiles files).map fun file => hexdigest file.2 := by
  rw [sealedDigests, entries_fileHashes, List.map_map]
  rfl

section Accepted
variable {altered : PackDir} {key : ed.PrivateKey} {manifest fileDigests : Dict String Json}

theorem ConsistentWith.listedDigests {publicKey : Option ed.PublicKey}
    (h : ConsistentWith altered publicKey manifest fileDigests) :
    Procurement.listedDigests altered = some fileDigests := by
  obtain ⟨value, hfile, hmanifest⟩ := h.readable
  rw [Procurement.listedDigests, hfile]
  simp only [hmanifest, h.lists, Option.bind_eq_bind, Option.bind_some]

/-- What a manifest lists for a file is the digest of what stands there. -/
theorem ConsistentWith.content {publicKey : Option ed.PublicKey}
    (h : ConsistentWith altered publicKey manifest fileDigests) {filename : String} {digest : Json}
    (hlisted : Procurement.listed altered filename = some digest) :
    ∃ content, altered.files filename = some content ∧ digest = .string (hexdigest content) := by
  rw [h.listed] at hlisted
  exact h.digests _ ((Dict.mem_entries fileDigests filename digest).mpr hlisted)

/-- A manifest that is signed lists the digests of a package that was sealed with the key. -/
theorem ConsistentWith.sealed (h : ConsistentWith altered (some (ed.publicKey key)) manifest
      fileDigests) {packages : Set (Dict String (List UInt8))}
    (hunforged : Unforged key packages altered)
    (hinj : Set.InjOn sha256 (rootMessages packages altered))
    (hsigned : storedSignature altered ≠ none) :
    ∃ package ∈ packages, (texts fileDigests.entries).Perm (sealedDigests package) := by
  obtain ⟨signature, hstored⟩ := Option.ne_none_iff_exists'.mp hsigned
  obtain ⟨value, hfile, hmanifest⟩ := h.readable
  have hsignature := hstored
  rw [storedSignature, hfile] at hsignature
  simp only [hmanifest, Option.bind_some, Option.filter_eq_some_iff] at hsignature
  obtain ⟨hget, htruthy⟩ := hsignature
  have hpasses := h.signature
  rw [hget] at hpasses
  unfold signaturePasses at hpasses
  simp only [htruthy, if_true] at hpasses
  cases signature with
  | string sigHex =>
    cases hdecode : hexDecode sigHex.toList with
    | none =>
      simp only [hdecode] at hpasses
      cases hpasses
    | some bytes =>
      simp only [hdecode] at hpasses
      obtain ⟨package, hpackage, hmessage⟩ := hunforged sigHex bytes _ hstored hdecode hpasses
      refine ⟨package, hpackage, perm_of_rootMessage ?_ ?_ ?_⟩
      · intro text htext
        obtain ⟨item, hitem, hsome⟩ := List.mem_filterMap.mp htext
        obtain ⟨content, -, hdigest⟩ := h.digests item hitem
        rw [hdigest] at hsome
        exact ⟨Digest.of content, Option.some.inj hsome⟩
      · rw [sealedDigests_eq]
        exact List.forall_mem_map.mpr fun file _ => ⟨Digest.of file.2, rfl⟩
      · refine hinj (Or.inr ⟨fileDigests, h.listedDigests, rfl⟩) (Or.inl ⟨package, hpackage, rfl⟩) ?_
        have hroot := String.toList_inj.mp (encodeUtf8_injective hmessage)
        exact congrArg Subtype.val (Digest.hex_injective hroot)
  | _ => cases hpasses

end Accepted

/-- A sealed directory passes. One that passes has every sealed file as it was exactly when the
files that its manifest lists no more are as they were and the others are listed with their own
digests: with no other one where nothing is signed, and with no other one that was sealed where
the manifest is signed. -/
theorem verify_intact_iff (hed : ed.Correct) (files : Dict String (List UInt8))
    (key : ed.PrivateKey) (timestamp : String) (manifestText : List UInt8)
    (packages : Set (Dict String (List UInt8))) (altered : PackDir)
    (hunforged : Unforged key packages altered)
    (hinj : Set.InjOn sha256 (comparedContents files altered))
    (hroots : Set.InjOn sha256 (rootMessages packages altered)) :
    verifyProcurementPack (sealedDir files (some key) timestamp manifestText)
      (some (ed.publicKey key)) = some true ∧
    (verifyProcurementPack altered (some (ed.publicKey key)) = some true →
      (Intact files altered ↔ KeepsFiles packages files altered)) := by
  refine ⟨verifyProcurementPack_eq_true_iff.mpr
    (consistent_sealedDir hed files key timestamp manifestText), fun haccepted => ?_⟩
  obtain ⟨manifest, fileDigests, hwith⟩ := verifyProcurementPack_eq_true_iff.mp haccepted
  constructor
  · intro hintact
    have hown : ∀ file ∈ sealedFiles files, ∀ digest, listed altered file.1 = some digest →
        digest = .string (hexdigest file.2) := by
      intro file hfile digest hlisted
      obtain ⟨content, hcontent, rfl⟩ := hwith.content hlisted
      rw [hintact file hfile, Option.some.injEq] at hcontent
      rw [hcontent]
    exact ⟨fun file hfile _ => hintact file hfile, fun _ => hown,
      fun file hfile _ _ other _ hlisted => Json.string.inj (hown file hfile _ hlisted)⟩
  · intro hkeeps file hfile
    cases hlisted : listed altered file.1 with
    | none => exact hkeeps.unlisted file hfile hlisted
    | some digest =>
      obtain ⟨content, hcontent, rfl⟩ := hwith.content hlisted
      have hdigest : hexdigest content = hexdigest file.2 := by
        by_cases hsigned : storedSignature altered = none
        · exact Json.string.inj (hkeeps.unsigned hsigned file hfile _ hlisted)
        · obtain ⟨package, hpackage, hperm⟩ := hwith.sealed hunforged hroots hsigned
          have hentry : (file.1, Json.string (hexdigest content)) ∈ fileDigests.entries := by
            rw [Dict.mem_entries, ← hwith.listed]
            exact hlisted
          have hmem := hperm.mem_iff.mp (List.mem_filterMap.mpr ⟨_, hentry, rfl⟩)
          rw [sealedDigests_eq] at hmem
          obtain ⟨other, hother, hsame⟩ := List.mem_map.mp hmem
          rw [← hsame] at hlisted ⊢
          exact hkeeps.unswapped file hfile package hpackage other hother hlisted
      have hsame := congrArg Subtype.val (Digest.hex_injective hdigest)
      rw [hcontent, hinj ⟨file, hfile, Or.inr hcontent⟩ ⟨file, hfile, Or.inl rfl⟩ hsame]

end Seal

section Sample

/-- A package of one file. -/
def sampleFiles : Dict String (List UInt8) := .ofBindings [("SBOM_SPDX.json", [123, 125])]

/-- The file deleted, its entry and the signature dropped and the root computed again. -/
def emptiedDir : PackDir where
  files _ := none
  manifest := .readable (.object [("merkle_root_sha256", .string (packageRoot [])),
    ("file_digests", .object [])])

/-- A signature is the message after a byte. -/
def sealScheme : Ed25519 where
  PrivateKey := Unit
  PublicKey := Unit
  publicKey _ := ()
  publicBytes _ := []
  sign _ message := 1 :: message
  verify _ signature message := signature = 1 :: message

def sealKey : sealScheme.PrivateKey := ()

theorem sealScheme_correct : sealScheme.Correct := fun _ _ => decide_eq_true rfl

theorem sealScheme_sound : sealScheme.Sound := fun _ _ _ h => ⟨(), rfl, of_decide_eq_true h⟩

theorem emptied_injOn : Set.InjOn sha256 (comparedContents sampleFiles emptiedDir) := by
  have honly : ∀ content ∈ comparedContents sampleFiles emptiedDir, content = [123, 125] := by
    rintro content ⟨file, hfile, hsealed | hfound⟩
    · have hcontent := (Dict.mem_entries _ _ _).mpr (mem_sealedFiles.mp hfile).1
      have hentry : file = ("SBOM_SPDX.json", [123, 125]) := List.mem_singleton.mp hcontent
      rw [hsealed, hentry]
    · cases hfound
  intro content hcontent content' hcontent' _
  rw [honly content hcontent, honly content' hcontent']

/-- Two files, and the contents of each in the other's place. -/
def pairFiles : Dict String (List UInt8) := .ofBindings [("a.json", [1]), ("b.json", [2])]

def swappedFiles : Dict String (List UInt8) := .ofBindings [("a.json", [2]), ("b.json", [1])]

/-- The digests are swapped in the manifest too, and the signature is kept. -/
def swappedDir : PackDir := sealedDir swappedFiles (some sealKey) "2026-01-01T00:00:00+00:00" []

theorem swapped_root : rootMessage (sealedDigests swappedFiles) =
    rootMessage (sealedDigests pairFiles) := by decide +kernel

theorem swapped_signature : storedSignature swappedDir = some (.string (String.ofList (hexEncode
    (1 :: encodeUtf8 (packageRoot (sealedDigests swappedFiles)).toList)))) := by
  have hstored : storedSignature swappedDir = Option.filter truthy (some (.string (String.ofList
      (hexEncode (1 :: encodeUtf8 (packageRoot (sealedDigests swappedFiles)).toList))))) := rfl
  rw [hstored, Option.filter_some, if_pos]
  rw [truthy, decide_eq_true_eq, Ne, ← String.toList_inj, String.toList_ofList]
  exact List.cons_ne_nil _ _

theorem swapped_unforged : Unforged sealKey {pairFiles} swappedDir := by
  intro sigHex signature message hstored hdecode hverify
  rw [swapped_signature, Option.some.injEq, Json.string.injEq] at hstored
  rw [← hstored, String.toList_ofList, hexDecode_hexEncode, Option.some.injEq] at hdecode
  have hmessage : signature = 1 :: message := of_decide_eq_true hverify
  refine ⟨pairFiles, rfl, ?_⟩
  rw [packageRoot, ← swapped_root]
  exact (List.cons.inj (hmessage.symm.trans hdecode.symm)).2

theorem swapped_injOn : Set.InjOn sha256 (comparedContents pairFiles swappedDir) := by
  have hnodup : (([[1], [2]] : List (List UInt8)).map sha256).Nodup := by decide +kernel
  have hmem : ∀ content ∈ comparedContents pairFiles swappedDir,
      content ∈ ([[1], [2]] : List (List UInt8)) := by
    rintro content ⟨file, hfile, hcontent⟩
    have hentry := (Dict.mem_entries _ _ _).mpr (mem_sealedFiles.mp hfile).1
    have hentries : pairFiles.entries = [("a.json", [1]), ("b.json", [2])] := rfl
    have hcases : file = ("a.json", [1]) ∨ file = ("b.json", [2]) := by
      simpa [hentries] using hentry
    rcases hcases with rfl | rfl <;> rcases hcontent with rfl | hfound
    · decide
    · obtain rfl : [2] = content := Option.some.inj hfound
      decide
    · decide
    · obtain rfl : [1] = content := Option.some.inj hfound
      decide
  exact fun m hm m' hm' h => List.inj_on_of_nodup_map hnodup (hmem m hm) (hmem m' hm') h

theorem swapped_roots : Set.InjOn sha256 (rootMessages {pairFiles} swappedDir) := by
  have honly : ∀ message ∈ rootMessages {pairFiles} swappedDir,
      message = rootMessage (sealedDigests pairFiles) := by
    rintro message (⟨package, hpackage, rfl⟩ | ⟨fileDigests, hlisted, rfl⟩)
    · rw [Set.mem_singleton_iff.mp hpackage]
    · rw [← swapped_root]
      obtain rfl : manifestDigests swappedFiles = fileDigests := Option.some.inj hlisted
      rw [texts_manifest]
  intro message hmessage message' hmessage' _
  rw [honly message hmessage, honly message' hmessage']

theorem verify_intact_swapped :
    verifyProcurementPack swappedDir (some (sealScheme.publicKey sealKey)) = some true ∧
    verifyProcurementPack (sealedDir pairFiles (some sealKey) "2026-01-01T00:00:00+00:00" [])
      (some (sealScheme.publicKey sealKey)) = some true ∧
    (verifyProcurementPack swappedDir (some (sealScheme.publicKey sealKey)) = some true →
      (Intact pairFiles swappedDir ↔ KeepsFiles {pairFiles} pairFiles swappedDir)) :=
  ⟨verifyProcurementPack_eq_true_iff.mpr (consistent_sealedDir sealScheme_correct _ sealKey _ _),
    verify_intact_iff sealScheme_correct pairFiles sealKey _ [] {pairFiles} swappedDir
      swapped_unforged swapped_injOn swapped_roots⟩

/-- The emptied directory passes under the public key. -/
theorem not_verify_intact :
    ¬ ∀ (ed : Ed25519) (files : Dict String (List UInt8)) (key : ed.PrivateKey)
      (altered : PackDir), ed.Correct → ed.Sound →
      Set.InjOn sha256 (comparedContents files altered) →
      verifyProcurementPack altered (some (ed.publicKey key)) = some true →
      Intact files altered := by
  intro h
  have hpasses : verifyProcurementPack emptiedDir (some (sealScheme.publicKey sealKey)) =
      some true := by
    refine verifyProcurementPack_eq_true_iff.mpr
      ⟨_, _, ⟨_, rfl, rfl⟩, rfl, ?_, rfl, rfl⟩
    exact fun item hitem => absurd hitem List.not_mem_nil
  have hintact := h sealScheme sampleFiles sealKey emptiedDir sealScheme_correct
    sealScheme_sound emptied_injOn hpasses
  have hfile : ("SBOM_SPDX.json", [123, 125]) ∈ sealedFiles sampleFiles :=
    mem_sealedFiles.mpr ⟨rfl, by decide⟩
  cases hintact _ hfile

end Sample

end ContinuityOS.Procurement
