import ContinuityOS.Library.Json
import ContinuityOS.Library.Text
import ContinuityOS.Library.Sha256
import ContinuityOS.Library.HashChain

/-! # Evidence records

A record stores the hash of its unsigned part, which names the hash of the record before.
Reading and printing records and the signature scheme are parameters; canonical text,
hashing and the encodings of digests and signatures are computed.
-/
namespace ContinuityOS.Evidence
open Library

/-- The part of a record that is hashed. -/
structure UnsignedRecord where
  recordId : String
  createdAt : String
  recordType : String
  subjectId : String
  payload : List (String × Json)
  previousHash : String

structure EvidenceRecord where
  recordId : String
  createdAt : String
  recordType : String
  subjectId : String
  payload : List (String × Json)
  previousHash : String
  recordHash : String
  signature : Option String
  signingKeyId : Option String

namespace UnsignedRecord

def toJson (u : UnsignedRecord) : Json :=
  .object [("record_id", .string u.recordId), ("created_at", .string u.createdAt),
    ("record_type", .string u.recordType), ("subject_id", .string u.subjectId),
    ("payload", .object u.payload), ("previous_hash", .string u.previousHash)]

def canonical (u : UnsignedRecord) : List UInt8 := encodeUtf8 u.toJson.sortKeys.dumps

def hash (u : UnsignedRecord) : String := String.ofList (hexEncode (sha256 u.canonical))

theorem sortKeys_toJson (u : UnsignedRecord) : u.toJson.sortKeys =
    .object [("created_at", .string u.createdAt), ("payload", (Json.object u.payload).sortKeys),
      ("previous_hash", .string u.previousHash), ("record_id", .string u.recordId),
      ("record_type", .string u.recordType), ("subject_id", .string u.subjectId)] := by
  simp [toJson, Json.sortKeys, Json.sortKeysMembers, sortedBy]

/-- Payloads that differ in the order of their keys are the same dictionary. -/
def normal (u : UnsignedRecord) : UnsignedRecord :=
  { u with payload := sortedBy Prod.fst (Json.sortKeysMembers u.payload) }

end UnsignedRecord

namespace EvidenceRecord

def unsigned (r : EvidenceRecord) : UnsignedRecord where
  recordId := r.recordId
  createdAt := r.createdAt
  recordType := r.recordType
  subjectId := r.subjectId
  payload := r.payload
  previousHash := r.previousHash

/-- The characters of every string of the record. -/
def chars (r : EvidenceRecord) : List Char :=
  r.recordId.toList ++ r.createdAt.toList ++ r.recordType.toList ++ r.subjectId.toList
    ++ Json.charsMembers r.payload ++ r.previousHash.toList ++ r.recordHash.toList
    ++ (r.signature.getD "").toList ++ (r.signingKeyId.getD "").toList

def toJson (r : EvidenceRecord) : Json :=
  .object [("record_id", .string r.recordId), ("created_at", .string r.createdAt),
    ("record_type", .string r.recordType), ("subject_id", .string r.subjectId),
    ("payload", .object r.payload), ("previous_hash", .string r.previousHash),
    ("record_hash", .string r.recordHash), ("signature", (r.signature.map .string).getD .null),
    ("signing_key_id", (r.signingKeyId.map .string).getD .null)]

end EvidenceRecord

/-- Records as the entries of a hash chain, with contents compared as dictionaries. -/
def chain : HashChain EvidenceRecord UnsignedRecord String where
  content r := r.unsigned.normal
  previous u := u.previousHash
  digest r := r.unsigned.hash
  stored r := r.recordHash

/-- The previous hash of the first record. -/
def genesis : String := String.ofList (List.replicate 64 '0')

/-- Printing a record as JSON text and reading one, with the reason a text is refused. -/
structure RecordCodec where
  dumpJson : EvidenceRecord → String
  validateJson : String → Except String EvidenceRecord

/-- What the ledger relies on for some records: they are read back as they were printed, and
the text is one dictionary of printable characters and characters of the record's strings. -/
structure RecordCodec.LawfulOn (codec : RecordCodec) (R : Set EvidenceRecord) : Prop where
  validate_dump : ∀ r ∈ R, codec.validateJson (codec.dumpJson r) = .ok r
  dump_chars : ∀ r ∈ R, ∀ c ∈ (codec.dumpJson r).toList, ' ' ≤ c ∧ (c ≤ '~' ∨ c ∈ r.chars)
  dump_brace : ∀ r ∈ R, '\x7b' ∈ (codec.dumpJson r).toList

/-- Printing in the order of the fields, and reading back a table of records. -/
def tableCodec (table : List EvidenceRecord) : RecordCodec where
  dumpJson r := String.ofList r.toJson.dumps
  validateJson text :=
    match table.find? fun r => String.ofList r.toJson.dumps = text with
    | some r => .ok r
    | none => .error "Invalid JSON"

theorem tableCodec_validate {table : List EvidenceRecord}
    (htexts : table.Pairwise fun r s => r.toJson.dumps ≠ s.toJson.dumps) :
    ∀ r ∈ table, (tableCodec table).validateJson ((tableCodec table).dumpJson r) = .ok r := by
  intro r hr
  have hfind : (table.find? fun s =>
      String.ofList s.toJson.dumps = String.ofList r.toJson.dumps) = some r := by
    induction htexts with
    | nil => cases hr
    | cons hs _ ih =>
      cases hr with
      | head => simp
      | tail _ hr =>
        rw [List.find?_cons_of_neg, ih hr]
        intro heq
        exact hs r hr (String.ofList_injective (of_decide_eq_true heq))
  simp only [tableCodec, hfind]

theorem tableCodec_validate_nil (table : List EvidenceRecord) :
    (tableCodec table).validateJson (String.ofList []) = .error "Invalid JSON" := by
  have hfind : (table.find? fun r => String.ofList r.toJson.dumps = String.ofList []) = none := by
    rw [List.find?_eq_none]
    intro r _ heq
    have hdumps := String.ofList_injective (of_decide_eq_true heq)
    rw [EvidenceRecord.toJson, Json.dumps] at hdumps
    cases hdumps
  simp only [tableCodec, hfind]

theorem EvidenceRecord.toJson_literals (r : EvidenceRecord) :
    r.toJson.literals = Json.literalsMembers r.payload := by
  cases hsignature : r.signature <;> cases hkey : r.signingKeyId <;>
    simp [EvidenceRecord.toJson, Json.literals, Json.literalsMembers, hsignature, hkey]

theorem EvidenceRecord.toJson_chars (r : EvidenceRecord) :
    ∀ c ∈ r.toJson.chars, c ≤ '~' ∨ c ∈ r.chars := by
  have hkey : ∀ key ∈ ["record_id", "created_at", "record_type", "subject_id", "payload",
      "previous_hash", "record_hash", "signature", "signing_key_id"],
      Json.printable key.toList = true := by decide
  have hown : ∀ {key : String}, Json.printable key.toList = true →
      ∀ c ∈ key.toList, c ≤ '~' ∨ c ∈ r.chars :=
    fun h c hc => (Json.shown_of_printable h c hc).2
  rw [EvidenceRecord.toJson, Json.chars, Json.forall_mem_charsMembers]
  simp only [List.forall_mem_cons] at hkey ⊢
  obtain ⟨h1, h2, h3, h4, h5, h6, h7, h8, h9, -⟩ := hkey
  refine ⟨⟨hown h1, ?_⟩, ⟨hown h2, ?_⟩, ⟨hown h3, ?_⟩, ⟨hown h4, ?_⟩, ⟨hown h5, ?_⟩,
    ⟨hown h6, ?_⟩, ⟨hown h7, ?_⟩, ⟨hown h8, ?_⟩, ⟨hown h9, ?_⟩, List.forall_mem_nil _⟩
  iterate 7
    intro c hc
    rw [Json.chars] at hc
    simp [EvidenceRecord.chars, hc]
  · intro c hc
    cases hsignature : r.signature with
    | none => simp [hsignature, Json.chars] at hc
    | some signature =>
      have hmem : c ∈ signature.toList := by simpa [hsignature, Json.chars] using hc
      simp [EvidenceRecord.chars, hsignature, hmem]
  · intro c hc
    cases hid : r.signingKeyId with
    | none => simp [hid, Json.chars] at hc
    | some keyId =>
      have hmem : c ∈ keyId.toList := by simpa [hid, Json.chars] using hc
      simp [EvidenceRecord.chars, hid, hmem]

theorem EvidenceRecord.dumps_chars {r : EvidenceRecord}
    (h : Json.printable (Json.literalsMembers r.payload) = true) :
    ∀ c ∈ r.toJson.dumps, ' ' ≤ c ∧ (c ≤ '~' ∨ c ∈ r.chars) := by
  intro c hc
  have hshown := Json.dumps_shown r.toJson (by rw [r.toJson_literals, h]) c hc
  exact ⟨hshown.1, hshown.2.elim Or.inl (r.toJson_chars c)⟩

theorem tableCodec_lawfulOn {table : List EvidenceRecord}
    (htexts : table.Pairwise fun r s => r.toJson.dumps ≠ s.toJson.dumps)
    (hnumbers : ∀ r ∈ table, Json.printable (Json.literalsMembers r.payload) = true) :
    (tableCodec table).LawfulOn {r | r ∈ table} where
  validate_dump := tableCodec_validate htexts
  dump_chars r hr c hc := by
    rw [tableCodec, String.toList_ofList] at hc
    exact EvidenceRecord.dumps_chars (hnumbers r hr) c hc
  dump_brace r hr := by
    rw [tableCodec, String.toList_ofList, EvidenceRecord.toJson, Json.dumps]
    exact List.mem_cons_self

/-- The signature scheme: raw bytes of a public key, signing, and verification of a
signature for a message. -/
structure Ed25519 where
  PrivateKey : Type
  PublicKey : Type
  publicKey : PrivateKey → PublicKey
  publicBytes : PublicKey → List UInt8
  sign : PrivateKey → List UInt8 → List UInt8
  verify : PublicKey → List UInt8 → List UInt8 → Bool

/-- Signatures made with a key are accepted by its public key. -/
def Ed25519.Correct (ed : Ed25519) : Prop :=
  ∀ key message, ed.verify (ed.publicKey key) (ed.sign key message) message = true

/-- Verification accepts only signatures made with the matching private key. -/
def Ed25519.Sound (ed : Ed25519) : Prop :=
  ∀ key signature message, ed.verify key signature message = true →
    ∃ signer, ed.publicKey signer = key ∧ signature = ed.sign signer message

/-- One key pair with the signatures of a table of digests, which verification accepts only
for the digest they were made for. -/
def tableScheme (publicBytes : String) (table : List (String × String)) : Ed25519 where
  PrivateKey := Unit
  PublicKey := Unit
  publicKey _ := ()
  publicBytes _ := (hexDecode publicBytes.toList).getD []
  sign _ message := signed message
  verify _ signature message := signature = signed message
where
  signed (message : List UInt8) : List UInt8 :=
    ((table.find? fun entry => hexDecode entry.1.toList = some message).bind fun entry =>
      base64Decode entry.2.toList).getD []

theorem tableScheme_correct (publicBytes : String) (table : List (String × String)) :
    (tableScheme publicBytes table).Correct :=
  fun _ _ => decide_eq_true rfl

theorem tableScheme_sound (publicBytes : String) (table : List (String × String)) :
    (tableScheme publicBytes table).Sound :=
  fun _ _ _ h => ⟨(), rfl, of_decide_eq_true h⟩

end ContinuityOS.Evidence
