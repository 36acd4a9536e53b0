import ContinuityOS.Evidence.Record

/-! # The evidence ledger

An append-only file of one record a line. Appending reads the last stored hash by scanning
chunks back from the end and replaces the file; verification and export read the file as
text and split it into lines.
-/
namespace ContinuityOS.Evidence
open Library

/-- The bytes of the ledger file, if it exists. -/
abbrev File := Option (List UInt8)

inductive LedgerError where
  | undecodable
  | invalidRecord (text : String)
  | nonHexadecimal
  | valueError (text : String)
deriving DecidableEq

/-- What verification reports, with the number of the line. -/
inductive VerifyError where
  | invalidRecord (line : ℕ) (text : String)
  | previousHashMismatch (line : ℕ)
  | recordHashMismatch (line : ℕ)
  | noPublicKey (line : ℕ)
  | signatureFailed (line : ℕ)
deriving DecidableEq

def VerifyError.message : VerifyError → String
  | .invalidRecord line text => "line " ++ toString line ++ ": invalid record: " ++ text
  | .previousHashMismatch line => "line " ++ toString line ++ ": previous hash mismatch"
  | .recordHashMismatch line => "line " ++ toString line ++ ": record hash mismatch"
  | .noPublicKey line =>
    "line " ++ toString line ++ ": signature present but no public key configured"
  | .signatureFailed line => "line " ++ toString line ++ ": signature verification failed"

structure EvidenceLedger (ed : Ed25519) where
  codec : RecordCodec
  privateKey : Option ed.PrivateKey
  publicKey : Option ed.PublicKey

/-- The arguments of one append, with the identifier and time it draws. -/
structure AppendCall where
  recordId : String
  createdAt : String
  recordType : String
  subjectId : String
  payload : List (String × Json)

namespace EvidenceLedger
variable {ed : Ed25519}

def init (codec : RecordCodec) (privateKey : Option ed.PrivateKey)
    (publicKey : Option ed.PublicKey) : EvidenceLedger ed where
  codec := codec
  privateKey := privateKey
  publicKey := publicKey <|> privateKey.map ed.publicKey

variable (L : EvidenceLedger ed)

def validate (text : List Char) : Except LedgerError EvidenceRecord :=
  match L.codec.validateJson (String.ofList text) with
  | .ok record => .ok record
  | .error message => .error (.invalidRecord message)

section LastHash

def isSpaceByte (b : UInt8) : Bool := b ∈ [32, 9, 10, 11, 12, 13]

def nonEmpty (lines : List (List UInt8)) : List (List UInt8) :=
  lines.filter fun line => line.any fun b => !isSpaceByte b

def chunkSize : ℕ := 4096

/-- Chunks are read back from `pos`; the first buffer with a line that is not blank ends the
scan with the hash stored in its last such line. -/
def scanBack (bytes : List UInt8) : ℕ → ℕ → List UInt8 → Except LedgerError String
  | 0, _, _ => .ok genesis
  | fuel + 1, pos, buffer =>
    if 0 < pos then
      let start := pos - min chunkSize pos
      let buffer := (bytes.drop start).take (min chunkSize pos) ++ buffer
      match (nonEmpty (splitOn 10 buffer)).getLast? with
      | none => scanBack bytes fuel start buffer
      | some line =>
        match decodeUtf8 line with
        | none => .error .undecodable
        | some text => (L.validate text).map EvidenceRecord.recordHash
    else .ok genesis

def lastHash (file : File) : Except LedgerError String :=
  match file with
  | none => .ok genesis
  | some bytes => L.scanBack bytes bytes.length bytes.length []

end LastHash

section Append

def signatureFor (recordHash : String) : Except LedgerError (Option String) :=
  match L.privateKey with
  | none => .ok none
  | some key =>
    match hexDecode recordHash.toList with
    | none => .error .nonHexadecimal
    | some message => .ok (some (String.ofList (base64Encode (ed.sign key message))))

def signingKeyId : Option String :=
  L.privateKey.map fun key =>
    String.ofList ((hexEncode (sha256 (ed.publicBytes (ed.publicKey key)))).take 16)

def buildRecord (previousHash : String) (call : AppendCall) : Except LedgerError EvidenceRecord := do
  let unsigned : UnsignedRecord :=
    { recordId := call.recordId, createdAt := call.createdAt, recordType := call.recordType
      subjectId := call.subjectId, payload := call.payload, previousHash := previousHash }
  let recordHash := unsigned.hash
  let signature ← L.signatureFor recordHash
  return { recordId := call.recordId, createdAt := call.createdAt, recordType := call.recordType
           subjectId := call.subjectId, payload := call.payload, previousHash := previousHash
           recordHash := recordHash, signature := signature, signingKeyId := L.signingKeyId }

/-- The bytes one record adds to the file. -/
def lineOf (record : EvidenceRecord) : List UInt8 :=
  encodeUtf8 (L.codec.dumpJson record).toList ++ [10]

def appendAtomic (file : File) (data : List UInt8) : File := some (file.getD [] ++ data)

def append (file : File) (call : AppendCall) : Except LedgerError (EvidenceRecord × File) := do
  let previousHash ← L.lastHash file
  let record ← L.buildRecord previousHash call
  return (record, appendAtomic file (L.lineOf record))

/-- Appends one after the other, with the records they return. -/
def appendAll : File → List AppendCall → Except LedgerError (List EvidenceRecord × File)
  | file, [] => .ok ([], file)
  | file, call :: calls => do
    let (record, file) ← L.append file call
    let (records, file) ← appendAll file calls
    return (record :: records, file)

end Append

section Verify

def signatureErrors (line : ℕ) (record : EvidenceRecord) : List VerifyError :=
  match record.signature with
  | none => []
  | some signature =>
    if signature = "" then []
    else
      match L.publicKey with
      | none => [.noPublicKey line]
      | some key =>
        match base64Decode signature.toList, hexDecode record.recordHash.toList with
        | some bytes, some message =>
          if ed.verify key bytes message then [] else [.signatureFailed line]
        | _, _ => [.signatureFailed line]

def recordErrors (line : ℕ) (previous : String) (record : EvidenceRecord) : List VerifyError :=
  (if record.previousHash ≠ previous then [.previousHashMismatch line] else [])
    ++ (if record.unsigned.hash ≠ record.recordHash then [.recordHashMismatch line] else [])
    ++ L.signatureErrors line record

/-- A line that is no record is reported and leaves the expected hash as it was. -/
def verifyLines : ℕ → String → List (List Char) → List VerifyError
  | _, _, [] => []
  | line, previous, text :: lines =>
    match L.codec.validateJson (String.ofList text) with
    | .error message => .invalidRecord line message :: verifyLines (line + 1) previous lines
    | .ok record =>
      L.recordErrors line previous record ++ verifyLines (line + 1) record.recordHash lines

end Verify

/-- Reading in text mode. -/
def readText (bytes : List UInt8) : Except LedgerError (List Char) :=
  match decodeUtf8 bytes with
  | none => .error .undecodable
  | some text => .ok (universalNewlines text)

def verify (file : File) : Except LedgerError (List VerifyError) :=
  match file with
  | none => .ok []
  | some bytes => (readText bytes).map fun text => L.verifyLines 1 genesis (splitlines text)

def records (file : File) (offset limit : ℤ) : Except LedgerError (List EvidenceRecord) :=
  if offset < 0 ∨ limit < 1 ∨ 1000 < limit then
    .error (.valueError "offset must be non-negative and limit must be between 1 and 1000")
  else
    match file with
    | none => .ok []
    | some bytes => do
      let lines := splitlines (← readText bytes)
      if (lines.length : ℤ) ≤ offset then .ok []
      else ((lines.drop offset.toNat).take limit.toNat).mapM L.validate

end EvidenceLedger

end ContinuityOS.Evidence
