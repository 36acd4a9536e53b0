import ContinuityOS.Crypto.Unsealing

/-! # Reuse of the keystream

The keystream comes from the recipient's key alone. The ephemeral secret goes into the ephemeral
public key and nowhere else, so two ciphertexts for one recipient differ as their plaintexts do.
-/
namespace ContinuityOS.Crypto
open Library SealedIntelligenceEnvelope

def xorBytes (a b : List UInt8) : List UInt8 := List.zipWith (· ^^^ ·) a b

/-- The ciphertexts of two envelopes do not give away how their plaintexts differ. -/
def HidesDifference (envelope envelope' : SealedIntelligenceEnvelope)
    (payload payload' : List (String × Json)) : Prop :=
  ∀ c c', hexDecode envelope.ciphertextPayloadHex.toList = some c →
    hexDecode envelope'.ciphertextPayloadHex.toList = some c' →
    xorBytes c c' ≠ xorBytes (serialize payload) (serialize payload')

theorem xor_xor_xor (a b k : UInt8) : (a ^^^ k) ^^^ (b ^^^ k) = a ^^^ b := by
  rw [UInt8.xor_comm b k, UInt8.xor_assoc, ← UInt8.xor_assoc k k b, UInt8.xor_self,
    UInt8.zero_xor]

theorem xorBytes_streamCipher (derivedKey : List UInt8) {a b : List UInt8}
    (h : a.length = b.length) :
    xorBytes (streamCipher derivedKey a) (streamCipher derivedKey b) = xorBytes a b :=
  StreamCipher.zipWith_cipher_cipher (by decide) (fun _ => sha3_512_length _) a xor_xor_xor h

section Twice
variable {envelopeId envelopeId' recipientKeyHex classification classification' : String}
  {ephemeralSecret ephemeralSecret' : List UInt8} {payload payload' : List (String × Json)}
  {envelope envelope' : SealedIntelligenceEnvelope}

/-- The ciphertext of a sealed envelope as a function of the key and the payload. -/
theorem ciphertext_of_sealPayload
    (h : sealPayload envelopeId ephemeralSecret payload recipientKeyHex classification =
      .ok envelope) :
    ∃ key, hexDecode recipientKeyHex.toList = some key ∧
      envelope.ciphertextPayloadHex = hexText (streamCipher (sha3_512 key) (serialize payload)) := by
  obtain ⟨-, key, hkey, rfl⟩ := sealPayload_eq_ok_iff.mp h
  exact ⟨key, hkey, rfl⟩

theorem xorBytes_of_sealPayload
    (h : sealPayload envelopeId ephemeralSecret payload recipientKeyHex classification =
      .ok envelope)
    (h' : sealPayload envelopeId' ephemeralSecret' payload' recipientKeyHex classification' =
      .ok envelope')
    (hlength : (serialize payload).length = (serialize payload').length) :
    ¬ HidesDifference envelope envelope' payload payload' := by
  obtain ⟨key, hkey, hciphertext⟩ := ciphertext_of_sealPayload h
  obtain ⟨key', hkey', hciphertext'⟩ := ciphertext_of_sealPayload h'
  obtain rfl := Option.some.inj (hkey.symm.trans hkey')
  intro hhides
  refine hhides _ _ ?_ ?_ (xorBytes_streamCipher (sha3_512 key) hlength)
  · rw [hciphertext, hexDecode_hexText]
  · rw [hciphertext', hexDecode_hexText]

end Twice

/-- Whatever the ephemeral secrets are, the ciphertexts for one recipient differ as the
plaintexts do, and one payload always gives one ciphertext. -/
theorem keystream_reused (envelopeId envelopeId' recipientKeyHex classification classification' : String)
    (ephemeralSecret ephemeralSecret' : List UInt8) (payload payload' : List (String × Json))
    (envelope envelope' : SealedIntelligenceEnvelope)
    (h : sealPayload envelopeId ephemeralSecret payload recipientKeyHex classification =
      .ok envelope)
    (h' : sealPayload envelopeId' ephemeralSecret' payload' recipientKeyHex classification' =
      .ok envelope')
    (hlength : (serialize payload).length = (serialize payload').length) :
    ¬ HidesDifference envelope envelope' payload payload' ∧
      (payload = payload' → envelope.ciphertextPayloadHex = envelope'.ciphertextPayloadHex) := by
  refine ⟨xorBytes_of_sealPayload h h' hlength, ?_⟩
  rintro rfl
  obtain ⟨key, hkey, hciphertext⟩ := ciphertext_of_sealPayload h
  obtain ⟨key', hkey', hciphertext'⟩ := ciphertext_of_sealPayload h'
  obtain rfl := Option.some.inj (hkey.symm.trans hkey')
  rw [hciphertext, hciphertext']

/-- A text as long as that of the other payload. -/
def closedPayload : List (String × Json) := [("status", .string "shut"), ("days", .int 9)]

theorem sealPayload_status (ephemeralSecret : List UInt8) :
    sealPayload "envelope" ephemeralSecret statusPayload "a1" "SECRET" =
      .ok (envelopeOf "envelope" ephemeralSecret statusPayload "a1" "SECRET" [0xa1]) :=
  sealPayload_eq_ok_iff.mpr ⟨by decide +kernel, [0xa1], by decide, rfl⟩

theorem sealPayload_closed (ephemeralSecret : List UInt8) :
    sealPayload "envelope" ephemeralSecret closedPayload "a1" "SECRET" =
      .ok (envelopeOf "envelope" ephemeralSecret closedPayload "a1" "SECRET" [0xa1]) :=
  sealPayload_eq_ok_iff.mpr ⟨by decide +kernel, [0xa1], by decide, rfl⟩

theorem statusPayload_length :
    (serialize statusPayload).length = (serialize closedPayload).length := by decide +kernel

/-- Two payloads under two secrets, and one of them under both. -/
theorem keystream_reused_status :
    ¬ HidesDifference
        (envelopeOf "envelope" (List.replicate 32 0) statusPayload "a1" "SECRET" [0xa1])
        (envelopeOf "envelope" (List.replicate 32 1) closedPayload "a1" "SECRET" [0xa1])
        statusPayload closedPayload ∧
      (envelopeOf "envelope" (List.replicate 32 0) statusPayload "a1" "SECRET"
          [0xa1]).ciphertextPayloadHex =
        (envelopeOf "envelope" (List.replicate 32 1) statusPayload "a1" "SECRET"
          [0xa1]).ciphertextPayloadHex :=
  ⟨(keystream_reused "envelope" "envelope" "a1" "SECRET" "SECRET" _ _ statusPayload closedPayload
      _ _ (sealPayload_status _) (sealPayload_closed _) statusPayload_length).1,
    (keystream_reused "envelope" "envelope" "a1" "SECRET" "SECRET" _ _ statusPayload statusPayload
      _ _ (sealPayload_status _) (sealPayload_status _) rfl).2 rfl⟩

/-- Two different secrets, and neither the difference is hidden nor the ciphertext new. -/
theorem keystream_not_fresh :
    (¬ ∀ (recipientKeyHex : String) (ephemeralSecret ephemeralSecret' : List UInt8)
        (payload payload' : List (String × Json)) (envelope envelope' : SealedIntelligenceEnvelope),
        ephemeralSecret ≠ ephemeralSecret' →
        (serialize payload).length = (serialize payload').length →
        sealPayload "envelope" ephemeralSecret payload recipientKeyHex "SECRET" = .ok envelope →
        sealPayload "envelope" ephemeralSecret' payload' recipientKeyHex "SECRET" = .ok envelope' →
        HidesDifference envelope envelope' payload payload') ∧
      ¬ ∀ (recipientKeyHex : String) (ephemeralSecret ephemeralSecret' : List UInt8)
        (payload : List (String × Json)) (envelope envelope' : SealedIntelligenceEnvelope),
        ephemeralSecret ≠ ephemeralSecret' →
        sealPayload "envelope" ephemeralSecret payload recipientKeyHex "SECRET" = .ok envelope →
        sealPayload "envelope" ephemeralSecret' payload recipientKeyHex "SECRET" = .ok envelope' →
        envelope.ciphertextPayloadHex ≠ envelope'.ciphertextPayloadHex := by
  have hsecrets : List.replicate 32 (0 : UInt8) ≠ List.replicate 32 1 := by decide
  constructor
  · intro h
    exact xorBytes_of_sealPayload (sealPayload_status _) (sealPayload_closed _)
      statusPayload_length (h "a1" _ _ statusPayload closedPayload _ _ hsecrets
        statusPayload_length (sealPayload_status _) (sealPayload_closed _))
  · intro h
    exact h "a1" _ _ statusPayload _ _ hsecrets (sealPayload_status _) (sealPayload_status _) rfl

end ContinuityOS.Crypto
