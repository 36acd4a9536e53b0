import ContinuityOS.Library.Fallible
import ContinuityOS.Library.JsonText
import ContinuityOS.Library.Sha256
import ContinuityOS.Library.Sha3
import ContinuityOS.Library.StreamCipher
import ContinuityOS.Library.Text

/-! # Sealed envelopes

A payload is mixed with a keystream of the recipient's derived key. The tag covers the
ciphertext and the derived key, and no other field of the envelope. Reading JSON is a parameter.
-/
namespace ContinuityOS.Crypto
open Library

structure SealedIntelligenceEnvelope where
  envelopeId : String
  encapsulationScheme : String := "NIST-ML-KEM-768"
  ephemeralPublicKeyHex : String
  ciphertextPayloadHex : String
  integrityTagSha3_512 : String
  classificationLevel : String

inductive EnvelopeError where
  | notHexadecimal
  | counterOverflow
  | tagMismatch
  | notUtf8
  | notJson
deriving DecidableEq

namespace EnvelopeError

/-- A counter that does not fit is an overflow error. -/
def isValueError : EnvelopeError → Bool
  | counterOverflow => false
  | _ => true

/-- The text of the error, where it does not depend on a position. -/
def detail : EnvelopeError → Option String
  | notHexadecimal => some "non-hexadecimal number found in fromhex() arg"
  | counterOverflow => some "int too big to convert"
  | tagMismatch => some "Integrity tag mismatch in sealed envelope"
  | notUtf8 => none
  | notJson => none

end EnvelopeError

section Bytes

def hexText (bytes : List UInt8) : String := String.ofList (hexEncode bytes)

def fromHex (text : String) : Except EnvelopeError (List UInt8) :=
  match hexDecode text.toList with
  | none => .error .notHexadecimal
  | some bytes => .ok bytes

/-- Four bytes, the most significant first. -/
def counterBytes (i : ℕ) : Except EnvelopeError (List UInt8) :=
  if i < 2 ^ 32 then .ok (Sha256.bytesOf 4 i) else .error .counterOverflow

def keystreamOf (derivedKey : List UInt8) (count : ℕ) : Except EnvelopeError (List UInt8) := do
  let blocks ← (List.range count).mapM fun i => do
    let counter ← counterBytes i
    return sha3_512 (derivedKey ++ counter)
  return blocks.flatten

/-- Both directions mix the bytes with a keystream of their own length. -/
def mixBytes (derivedKey bytes : List UInt8) : Except EnvelopeError (List UInt8) := do
  let keystream ← keystreamOf derivedKey (StreamCipher.blockCount 64 bytes.length)
  return StreamCipher.mixWith (· ^^^ ·) bytes keystream

def integrityTag (ciphertext derivedKey : List UInt8) : String :=
  hexText (sha3_512 (ciphertext ++ derivedKey))

end Bytes

/-- The text of a payload, its keys in order. -/
def payloadText (payload : List (String × Json)) : List Char :=
  (Json.object payload).sortKeys.dumpsDefault

def serialize (payload : List (String × Json)) : List UInt8 := encodeUtf8 (payloadText payload)

namespace SealedIntelligenceEnvelope

def sealPayload (envelopeId : String) (ephemeralSecret : List UInt8) (payload : List (String × Json))
    (recipientKeyHex classification : String) :
    Except EnvelopeError SealedIntelligenceEnvelope := do
  let key ← fromHex recipientKeyHex
  let derivedKey := sha3_512 key
  let encrypted ← mixBytes derivedKey (serialize payload)
  return {
    envelopeId := envelopeId
    ephemeralPublicKeyHex :=
      hexText (sha256 (ephemeralSecret ++ encodeUtf8 recipientKeyHex.toList))
    ciphertextPayloadHex := hexText encrypted
    integrityTagSha3_512 := integrityTag encrypted derivedKey
    classificationLevel := classification }

def unsealPayload (loads : List Char → Option Json) (envelope : SealedIntelligenceEnvelope)
    (recipientKeyHex : String) : Except EnvelopeError Json := do
  let ciphertext ← fromHex envelope.ciphertextPayloadHex
  let key ← fromHex recipientKeyHex
  let derivedKey := sha3_512 key
  if integrityTag ciphertext derivedKey ≠ envelope.integrityTagSha3_512 then
    .error .tagMismatch
  else do
    let decrypted ← mixBytes derivedKey ciphertext
    match decodeUtf8 decrypted with
    | none => .error .notUtf8
    | some text =>
      match loads text with
      | none => .error .notJson
      | some payload => .ok payload

end SealedIntelligenceEnvelope

section Keystream

/-- The block of the keystream at an index. -/
def keystreamBlock (derivedKey : List UInt8) (i : ℕ) : List UInt8 :=
  sha3_512 (derivedKey ++ Sha256.bytesOf 4 i)

/-- The cipher both directions apply, while the counter fits. -/
def streamCipher (derivedKey bytes : List UInt8) : List UInt8 :=
  StreamCipher.cipher (· ^^^ ·) (keystreamBlock derivedKey) 64 bytes

theorem streamCipher_length (derivedKey bytes : List UInt8) :
    (streamCipher derivedKey bytes).length = bytes.length :=
  StreamCipher.cipher_length (by decide) (fun _ => sha3_512_length _) bytes

theorem streamCipher_streamCipher (derivedKey bytes : List UInt8) :
    streamCipher derivedKey (streamCipher derivedKey bytes) = bytes :=
  StreamCipher.cipher_cipher (by decide) (fun _ => sha3_512_length _) bytes fun a k => by
    rw [UInt8.xor_assoc, UInt8.xor_self, UInt8.xor_zero]

theorem keystreamOf_eq {count : ℕ} (derivedKey : List UInt8) (h : count ≤ 2 ^ 32) :
    keystreamOf derivedKey count =
      .ok (StreamCipher.keystream (keystreamBlock derivedKey) count) := by
  have hblocks : (List.range count).mapM (fun i => do
      let counter ← counterBytes i
      return sha3_512 (derivedKey ++ counter)) =
        Except.ok ((List.range count).map (keystreamBlock derivedKey)) := by
    rw [mapM_eq_ok_iff, List.map_map]
    refine List.map_congr_left fun i hi => ?_
    rw [counterBytes, if_pos ((List.mem_range.mp hi).trans_le h)]
    rfl
  rw [keystreamOf, hblocks, ok_bind, StreamCipher.keystream, List.flatMap_def]
  rfl

theorem keystreamOf_overflow {count : ℕ} (derivedKey : List UInt8) (h : 2 ^ 32 < count) :
    ∀ keystream, keystreamOf derivedKey count ≠ .ok keystream := by
  intro keystream hok
  obtain ⟨blocks, hblocks, -⟩ := bind_eq_ok.mp hok
  rw [mapM_eq_ok_iff] at hblocks
  have hmem : (do
      let counter ← counterBytes (2 ^ 32)
      return sha3_512 (derivedKey ++ counter)) ∈ blocks.map Except.ok := by
    rw [← hblocks]
    exact List.mem_map_of_mem (List.mem_range.mpr h)
  obtain ⟨block, -, hblock⟩ := List.mem_map.mp hmem
  rw [counterBytes, if_neg (lt_irrefl _)] at hblock
  cases hblock

theorem blockCount_le_iff (length : ℕ) :
    StreamCipher.blockCount 64 length ≤ 2 ^ 32 ↔ length ≤ 2 ^ 38 := by
  rw [StreamCipher.blockCount]
  omega

theorem mixBytes_eq (derivedKey : List UInt8) {bytes : List UInt8} (h : bytes.length ≤ 2 ^ 38) :
    mixBytes derivedKey bytes = .ok (streamCipher derivedKey bytes) := by
  rw [mixBytes, keystreamOf_eq derivedKey ((blockCount_le_iff _).mpr h)]
  rfl

theorem length_of_mixBytes {derivedKey bytes mixed : List UInt8}
    (h : mixBytes derivedKey bytes = .ok mixed) : bytes.length ≤ 2 ^ 38 := by
  obtain ⟨keystream, hkeystream, -⟩ := bind_eq_ok.mp h
  by_contra hlong
  rw [← blockCount_le_iff, not_le] at hlong
  exact keystreamOf_overflow derivedKey hlong keystream hkeystream

end Keystream

section Envelopes
variable {envelopeId recipientKeyHex classification : String} {ephemeralSecret : List UInt8}
  {payload : List (String × Json)}

theorem fromHex_eq_ok {text : String} {bytes : List UInt8} :
    fromHex text = .ok bytes ↔ hexDecode text.toList = some bytes := by
  unfold fromHex
  cases hexDecode text.toList <;> simp

theorem hexDecode_hexText (bytes : List UInt8) : hexDecode (hexText bytes).toList = some bytes := by
  rw [hexText, String.toList_ofList, hexDecode_hexEncode]

theorem hexText_injective : Function.Injective hexText := by
  intro a b h
  have hdecoded := hexDecode_hexText a
  rw [h, hexDecode_hexText] at hdecoded
  exact (Option.some.inj hdecoded).symm

/-- The envelope of a payload under the bytes of a key. -/
def envelopeOf (envelopeId : String) (ephemeralSecret : List UInt8)
    (payload : List (String × Json)) (recipientKeyHex classification : String) (key : List UInt8) :
    SealedIntelligenceEnvelope where
  envelopeId := envelopeId
  ephemeralPublicKeyHex := hexText (sha256 (ephemeralSecret ++ encodeUtf8 recipientKeyHex.toList))
  ciphertextPayloadHex := hexText (streamCipher (sha3_512 key) (serialize payload))
  integrityTagSha3_512 :=
    integrityTag (streamCipher (sha3_512 key) (serialize payload)) (sha3_512 key)
  classificationLevel := classification

/-- Sealing succeeds exactly for a hexadecimal key and a text the counter reaches. -/
theorem sealPayload_eq_ok_iff {envelope : SealedIntelligenceEnvelope} :
    SealedIntelligenceEnvelope.sealPayload envelopeId ephemeralSecret payload recipientKeyHex
        classification = .ok envelope ↔
      (serialize payload).length ≤ 2 ^ 38 ∧ ∃ key, hexDecode recipientKeyHex.toList = some key ∧
        envelope = envelopeOf envelopeId ephemeralSecret payload recipientKeyHex classification
          key := by
  constructor
  · intro h
    obtain ⟨key, hkey, h⟩ := bind_eq_ok.mp h
    obtain ⟨encrypted, hencrypted, h⟩ := bind_eq_ok.mp h
    have hlength := length_of_mixBytes hencrypted
    rw [mixBytes_eq _ hlength] at hencrypted
    obtain rfl := Except.ok.inj hencrypted
    exact ⟨hlength, key, fromHex_eq_ok.mp hkey, (Except.ok.inj h).symm⟩
  · rintro ⟨hlength, key, hkey, rfl⟩
    simp only [SealedIntelligenceEnvelope.sealPayload, fromHex_eq_ok.mpr hkey, ok_bind,
      mixBytes_eq _ hlength]
    rfl

end Envelopes

end ContinuityOS.Crypto
