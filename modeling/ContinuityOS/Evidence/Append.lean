import ContinuityOS.Evidence.Verification

/-! # Appending to the chain

An append builds the record that continues the chain and adds its line to the file. It
reads the hash it continues from in the last line, which has to fit in one chunk.
-/
namespace ContinuityOS.Evidence
open Library

/-- The characters of every string given to the call. -/
def AppendCall.chars (call : AppendCall) : List Char :=
  call.recordId.toList ++ call.createdAt.toList ++ call.recordType.toList
    ++ call.subjectId.toList ++ Json.charsMembers call.payload

namespace EvidenceLedger
variable {ed : Ed25519} (L : EvidenceLedger ed)

section Build

def unsignedFor (previousHash : String) (call : AppendCall) : UnsignedRecord where
  recordId := call.recordId
  createdAt := call.createdAt
  recordType := call.recordType
  subjectId := call.subjectId
  payload := call.payload
  previousHash := previousHash

/-- The record a call adds after a given hash. -/
def recordFor (previousHash : String) (call : AppendCall) : EvidenceRecord where
  recordId := call.recordId
  createdAt := call.createdAt
  recordType := call.recordType
  subjectId := call.subjectId
  payload := call.payload
  previousHash := previousHash
  recordHash := (unsignedFor previousHash call).hash
  signature := L.privateKey.map fun key =>
    String.ofList (base64Encode (ed.sign key (sha256 (unsignedFor previousHash call).canonical)))
  signingKeyId := L.signingKeyId

theorem hexDecode_hash (u : UnsignedRecord) :
    hexDecode u.hash.toList = some (sha256 u.canonical) := by
  rw [UnsignedRecord.hash, String.toList_ofList, hexDecode_hexEncode]

theorem signatureFor_hash (u : UnsignedRecord) :
    L.signatureFor u.hash = .ok (L.privateKey.map fun key =>
      String.ofList (base64Encode (ed.sign key (sha256 u.canonical)))) := by
  rw [signatureFor]
  cases L.privateKey with
  | none => rfl
  | some key =>
    simp only [hexDecode_hash]
    rfl

/-- The record in terms of its hash alone. -/
theorem recordFor_of_hash {previousHash hash : String} {call : AppendCall}
    (h : (unsignedFor previousHash call).hash = hash) :
    L.recordFor previousHash call =
      { recordId := call.recordId, createdAt := call.createdAt, recordType := call.recordType
        subjectId := call.subjectId, payload := call.payload, previousHash := previousHash
        recordHash := hash
        signature := L.privateKey.bind fun key => (hexDecode hash.toList).map fun message =>
          String.ofList (base64Encode (ed.sign key message))
        signingKeyId := L.signingKeyId } := by
  subst h
  rw [recordFor]
  cases L.privateKey with
  | none => rfl
  | some key => simp only [hexDecode_hash, Option.map_some, Option.bind_some]

theorem buildRecord_eq (previousHash : String) (call : AppendCall) :
    L.buildRecord previousHash call = .ok (L.recordFor previousHash call) := by
  rw [buildRecord]
  have hsign := L.signatureFor_hash (unsignedFor previousHash call)
  simp only [unsignedFor] at hsign
  simp only [hsign]
  rfl

/-- The ledger verifies with the public key of the key it signs with. -/
def KeysMatch : Prop :=
  ∀ key, L.privateKey = some key → L.publicKey = some (ed.publicKey key)

theorem init_keysMatch {codec : RecordCodec} {privateKey : Option ed.PrivateKey}
    {publicKey : Option ed.PublicKey}
    (h : ∀ key, privateKey = some key → ∀ shared, publicKey = some shared →
      shared = ed.publicKey key) : (init codec privateKey publicKey).KeysMatch := by
  intro key hkey
  have hprivate : privateKey = some key := hkey
  subst hprivate
  cases publicKey with
  | none => rfl
  | some shared => exact congrArg some (h key rfl shared rfl)

theorem signatureAccepted_recordFor (hed : ed.Correct) (hkeys : L.KeysMatch)
    (previousHash : String) (call : AppendCall) :
    L.SignatureAccepted (L.recordFor previousHash call) := by
  intro signature hsome _
  obtain ⟨key, hkey, hsig⟩ := Option.map_eq_some_iff.mp hsome
  have hdecode : base64Decode signature.toList
      = some (ed.sign key (sha256 (unsignedFor previousHash call).canonical)) := by
    rw [← hsig, String.toList_ofList, base64Decode_base64Encode]
  exact ⟨ed.publicKey key, _, _, hkeys key hkey, hdecode, hexDecode_hash _, hed key _⟩

end Build

section Characters

theorem not_separator_of_ascii {c : Char} (h : c.toNat < 128) : c ∉ separators := by
  intro hmem
  have hall : ∀ d ∈ separators, 128 ≤ d.toNat := List.all_iff_forall_prop.mp (by decide)
  exact absurd h (not_lt.mpr (hall c hmem))

theorem not_separator_of_printable {text : List Char} (h : Json.printable text = true) :
    ∀ c ∈ text, c ∉ separators := by
  intro c hc
  have hboth := List.all_eq_true.mp h c hc
  rw [Bool.and_eq_true, decide_eq_true_eq, decide_eq_true_eq] at hboth
  exact not_separator_of_ascii (by omega)

theorem hexEncode_ascii (bytes : List UInt8) : ∀ c ∈ hexEncode bytes, c.toNat < 128 := by
  intro c hc
  obtain ⟨b, -, hb⟩ := List.mem_flatMap.mp hc
  have hdigit : ∀ n < 16, (hexDigit n).toNat < 128 := by decide
  have hlt := b.toNat_lt
  simp only [List.mem_cons, List.not_mem_nil, or_false] at hb
  cases hb with
  | inl h =>
    rw [h]
    exact hdigit _ (by omega)
  | inr h =>
    rw [h]
    exact hdigit _ (by omega)

theorem hash_not_separator (u : UnsignedRecord) : ∀ c ∈ u.hash.toList, c ∉ separators := by
  intro c hc
  rw [UnsignedRecord.hash, String.toList_ofList] at hc
  exact not_separator_of_ascii (hexEncode_ascii _ c hc)

theorem genesis_toList : genesis.toList = List.replicate 64 '0' := String.toList_ofList

theorem genesis_not_separator : ∀ c ∈ genesis.toList, c ∉ separators := by
  rw [genesis_toList]
  intro c hc
  have hzero : c = '0' := List.eq_of_mem_replicate hc
  rw [hzero]
  decide

theorem signature_not_separator (previousHash : String) (call : AppendCall) :
    ∀ c ∈ ((L.recordFor previousHash call).signature.getD "").toList, c ∉ separators := by
  intro c hc
  cases hk : L.privateKey with
  | none => simp [recordFor, hk] at hc
  | some key =>
    simp only [recordFor, hk, Option.map_some, Option.getD_some, String.toList_ofList] at hc
    exact not_separator_of_ascii (base64Encode_ascii _ c hc)

theorem signingKeyId_not_separator : ∀ c ∈ (L.signingKeyId.getD "").toList, c ∉ separators := by
  intro c hc
  cases hk : L.privateKey with
  | none => simp [signingKeyId, hk] at hc
  | some key =>
    simp only [signingKeyId, hk, Option.map_some, Option.getD_some, String.toList_ofList] at hc
    exact not_separator_of_ascii (hexEncode_ascii _ c (List.mem_of_mem_take hc))

/-- Hashes, signatures and key identifiers add no separator to the call's strings. -/
theorem recordFor_not_separator {previousHash : String} {call : AppendCall}
    (hprevious : ∀ c ∈ previousHash.toList, c ∉ separators)
    (hcall : ∀ c ∈ call.chars, c ∉ separators) :
    ∀ c ∈ (L.recordFor previousHash call).chars, c ∉ separators := by
  intro c hc
  rw [EvidenceRecord.chars, List.mem_append, List.mem_append, List.mem_append,
    List.mem_append] at hc
  rcases hc with (((hfields | hprev) | hhash) | hsig) | hkey
  · exact hcall c hfields
  · exact hprevious c hprev
  · exact hash_not_separator _ c hhash
  · exact L.signature_not_separator previousHash call c hsig
  · exact L.signingKeyId_not_separator c hkey

end Characters

section Run

/-- The records a sequence of calls adds after a given hash. -/
def recordsFor : String → List AppendCall → List EvidenceRecord
  | _, [] => []
  | previousHash, call :: calls =>
    L.recordFor previousHash call :: recordsFor (L.recordFor previousHash call).recordHash calls

theorem recordsFor_length (previousHash : String) (calls : List AppendCall) :
    (L.recordsFor previousHash calls).length = calls.length := by
  induction calls generalizing previousHash with
  | nil => rfl
  | cons call calls ih => rw [recordsFor, List.length_cons, List.length_cons, ih]

/-- What a record takes from its call alone. -/
theorem recordsFor_map {β : Type*} {f : EvidenceRecord → β} {g : AppendCall → β}
    (h : ∀ previousHash call, f (L.recordFor previousHash call) = g call) (previousHash : String)
    (calls : List AppendCall) : (L.recordsFor previousHash calls).map f = calls.map g := by
  induction calls generalizing previousHash with
  | nil => rfl
  | cons call calls ih => rw [recordsFor, List.map_cons, List.map_cons, h, ih]

theorem linked_recordsFor (previousHash : String) (calls : List AppendCall) :
    chain.Linked previousHash (L.recordsFor previousHash calls) := by
  induction calls generalizing previousHash with
  | nil => exact trivial
  | cons call calls ih => exact ⟨rfl, rfl, ih _⟩

theorem signatureAccepted_recordsFor (hed : ed.Correct) (hkeys : L.KeysMatch)
    (previousHash : String) (calls : List AppendCall) :
    ∀ r ∈ L.recordsFor previousHash calls, L.SignatureAccepted r := by
  induction calls generalizing previousHash with
  | nil => simp [recordsFor]
  | cons call calls ih =>
    rw [recordsFor, List.forall_mem_cons]
    exact ⟨L.signatureAccepted_recordFor hed hkeys previousHash call, ih _⟩

theorem recordsFor_not_separator {previousHash : String}
    (hprevious : ∀ c ∈ previousHash.toList, c ∉ separators) {calls : List AppendCall}
    (hcalls : ∀ call ∈ calls, ∀ c ∈ call.chars, c ∉ separators) :
    ∀ r ∈ L.recordsFor previousHash calls, ∀ c ∈ r.chars, c ∉ separators := by
  induction calls generalizing previousHash with
  | nil => simp [recordsFor]
  | cons call calls ih =>
    rw [List.forall_mem_cons] at hcalls
    rw [recordsFor, List.forall_mem_cons]
    exact ⟨L.recordFor_not_separator hprevious hcalls.1, ih (hash_not_separator _) hcalls.2⟩

/-- The last line of a file, without the newline that ends it. -/
def lastLine (file : File) : List UInt8 :=
  (splitOn 10 (file.getD []).dropLast).getLast?.getD []

/-- Before each append of a run the last line is shorter than a chunk. -/
def LastLinesFit : File → List AppendCall → Prop
  | _, [] => True
  | file, call :: calls =>
    (lastLine file).length < chunkSize ∧
      match L.append file call with
      | .error _ => True
      | .ok (_, next) => LastLinesFit next calls

instance LastLinesFit.decide : (file : File) → (calls : List AppendCall) →
    Decidable (L.LastLinesFit file calls)
  | _, [] => isTrue trivial
  | file, call :: calls =>
    have : Decidable (match L.append file call with
        | .error _ => True
        | .ok (_, next) => L.LastLinesFit next calls) :=
      match L.append file call with
      | .error _ => isTrue trivial
      | .ok (_, next) => decide next calls
    inferInstanceAs (Decidable (_ ∧ _))

variable {L} {R : Set EvidenceRecord} (hlaw : L.codec.LawfulOn R)
include hlaw

theorem lastLine_concat {file : File} {rs : List EvidenceRecord} {r : EvidenceRecord} (hr : r ∈ R)
    (hfile : file.getD [] = L.fileBytes (rs ++ [r])) :
    lastLine file = encodeUtf8 (L.codec.dumpJson r).toList := by
  have hbody := splitOn_of_not_mem (newline_not_mem_dumpBytes hlaw hr)
  have hdrop : (file.getD []).dropLast
      = L.fileBytes rs ++ encodeUtf8 (L.codec.dumpJson r).toList := by
    rw [hfile, fileBytes_concat, lineOf, ← List.append_assoc, List.dropLast_concat]
  have hsplit : ∃ before, splitOn 10 (file.getD []).dropLast
      = before ++ [encodeUtf8 (L.codec.dumpJson r).toList] := by
    rw [hdrop]
    obtain hnil | ⟨q, hq⟩ := drop_fileBytes (L := L) rs 0
    · rw [List.drop_zero] at hnil
      rw [hnil, List.nil_append, hbody]
      exact ⟨[], rfl⟩
    · rw [List.drop_zero] at hq
      rw [hq, List.append_assoc, List.singleton_append, splitOn_append, hbody]
      exact ⟨_, rfl⟩
  obtain ⟨before, hbefore⟩ := hsplit
  rw [lastLine, hbefore, List.getLast?_concat, Option.getD_some]

theorem lastHash_fileBytes {file : File} {rs : List EvidenceRecord} (hrs : ∀ r ∈ rs, r ∈ R)
    (hfile : file.getD [] = L.fileBytes rs) (hfit : (lastLine file).length < chunkSize) :
    L.lastHash file = .ok (chain.head genesis rs) := by
  cases rs using List.reverseRecOn with
  | nil =>
    cases file with
    | none => rfl
    | some bytes =>
      have hbytes : bytes = [] := hfile
      rw [hbytes]
      rfl
  | append_singleton rs r =>
    have hr : r ∈ R := hrs r (List.mem_append_right rs List.mem_cons_self)
    rw [lastLine_concat hlaw hr hfile] at hfit
    have hline : (L.lineOf r).length ≤ chunkSize := by
      rw [lineOf, List.length_append, List.length_singleton]
      omega
    rw [lastHash_concat hlaw hr hfile hline, HashChain.head_concat]
    rfl

/-- One append continues the chain that the file holds. -/
theorem append_fileBytes {file : File} {rs : List EvidenceRecord} (hrs : ∀ r ∈ rs, r ∈ R)
    (hfile : file.getD [] = L.fileBytes rs) (hfit : (lastLine file).length < chunkSize)
    (call : AppendCall) :
    L.append file call = .ok (L.recordFor (chain.head genesis rs) call,
      some (L.fileBytes (rs ++ [L.recordFor (chain.head genesis rs) call]))) := by
  rw [append, lastHash_fileBytes hlaw hrs hfile hfit, fileBytes_concat, ← hfile]
  simp only [bind, Except.bind, buildRecord_eq]
  rfl

/-- A run of appends adds exactly the records of its calls. -/
theorem appendAll_fileBytes {file : File} {rs : List EvidenceRecord} (hrs : ∀ r ∈ rs, r ∈ R)
    (hfile : file.getD [] = L.fileBytes rs) {calls : List AppendCall}
    (hnew : ∀ r ∈ L.recordsFor (chain.head genesis rs) calls, r ∈ R)
    (hfit : L.LastLinesFit file calls) :
    ∃ next, L.appendAll file calls = .ok (L.recordsFor (chain.head genesis rs) calls, next) ∧
      next.getD [] = L.fileBytes (rs ++ L.recordsFor (chain.head genesis rs) calls) := by
  induction calls generalizing file rs with
  | nil => exact ⟨file, rfl, by rw [recordsFor, List.append_nil, hfile]⟩
  | cons call calls ih =>
    have happend := append_fileBytes hlaw hrs hfile hfit.1 call
    have hhead : chain.head genesis (rs ++ [L.recordFor (chain.head genesis rs) call])
        = (L.recordFor (chain.head genesis rs) call).recordHash := HashChain.head_concat _ _ _ _
    rw [recordsFor, List.forall_mem_cons] at hnew
    have hrs' : ∀ r ∈ rs ++ [L.recordFor (chain.head genesis rs) call], r ∈ R := by
      rw [List.forall_mem_append, List.forall_mem_singleton]
      exact ⟨hrs, hnew.1⟩
    have hnew' := hnew.2
    rw [← hhead] at hnew'
    have hfit' := hfit.2
    rw [happend] at hfit'
    obtain ⟨next, hnext, hbytes⟩ := ih hrs' rfl hnew' hfit'
    rw [hhead] at hnext hbytes
    refine ⟨next, ?_, ?_⟩
    · rw [appendAll, happend]
      simp only [bind, Except.bind, hnext]
      rfl
    · rw [hbytes, recordsFor, List.append_assoc, List.singleton_append]

/-- Lines of records that fit in a chunk each are short enough before every append. -/
theorem lastLinesFit_of_lines {file : File} {rs : List EvidenceRecord} (hrs : ∀ r ∈ rs, r ∈ R)
    (hfile : file.getD [] = L.fileBytes rs) {calls : List AppendCall}
    (hnew : ∀ r ∈ L.recordsFor (chain.head genesis rs) calls, r ∈ R)
    (hlast : (lastLine file).length < chunkSize)
    (hlines : ∀ r ∈ L.recordsFor (chain.head genesis rs) calls,
      (L.lineOf r).length ≤ chunkSize) : L.LastLinesFit file calls := by
  induction calls generalizing file rs with
  | nil => exact trivial
  | cons call calls ih =>
    have happend := append_fileBytes hlaw hrs hfile hlast call
    have hhead : chain.head genesis (rs ++ [L.recordFor (chain.head genesis rs) call])
        = (L.recordFor (chain.head genesis rs) call).recordHash := HashChain.head_concat _ _ _ _
    rw [recordsFor, List.forall_mem_cons] at hnew hlines
    have hrs' : ∀ r ∈ rs ++ [L.recordFor (chain.head genesis rs) call], r ∈ R := by
      rw [List.forall_mem_append, List.forall_mem_singleton]
      exact ⟨hrs, hnew.1⟩
    have hline : (lastLine (some (L.fileBytes (rs ++ [L.recordFor (chain.head genesis rs) call])))).length
        < chunkSize := by
      rw [lastLine_concat hlaw hnew.1 rfl]
      have hlen := hlines.1
      rw [lineOf, List.length_append, List.length_singleton] at hlen
      omega
    refine ⟨hlast, ?_⟩
    rw [happend]
    exact ih hrs' rfl (hhead ▸ hnew.2) hline (hhead ▸ hlines.2)

end Run

end EvidenceLedger

end ContinuityOS.Evidence
