import ContinuityOS.Crypto.SealedEnvelope
import ContinuityOS.Library.JsonOrder
import ContinuityOS.Library.JsonRoundTrip

/-! # Unsealing

The key an envelope is sealed for takes the payload back, and any other key fails at the tag, as
does any other ciphertext. The classification and the scheme are not under the tag.
-/
namespace ContinuityOS.Crypto
open Library SealedIntelligenceEnvelope

/-- Values that differ in the order of their keys are the same. -/
def SameValue (a b : Json) : Prop := a.sortKeys = b.sortKeys

/-- Reading undoes writing on the payload. -/
def ReadsBack (loads : List Char → Option Json) (payload : List (String × Json)) : Prop :=
  ∃ value, loads (payloadText payload) = some value ∧ SameValue value (.object payload)

/-- The library's own reader undoes writing on every proper payload. -/
theorem readsBack_loads {payload : List (String × Json)}
    (h : (Json.object payload).proper = true) : ReadsBack Json.loads payload :=
  ⟨_, Json.loads_dumpsDefault (Json.proper_sortKeys _ h), Json.sortKeys_sortKeys _ h⟩

/-- The bytes of keys. -/
def keyMessages (keys : List String) : Set (List UInt8) :=
  {m | ∃ text ∈ keys, hexDecode text.toList = some m}

/-- The messages that tags are made of. -/
def taggedMessages (keys ciphertexts : List String) : Set (List UInt8) :=
  {m | ∃ key ∈ keyMessages keys, ∃ ciphertext ∈ keyMessages ciphertexts,
    m = ciphertext ++ sha3_512 key}

section Unsealing
variable {loads : List Char → Option Json} {envelope : SealedIntelligenceEnvelope}
  {recipientKeyHex : String} {ciphertext key : List UInt8}

theorem unseal_ciphertext_not_hex (h : hexDecode envelope.ciphertextPayloadHex.toList = none) :
    unsealPayload loads envelope recipientKeyHex = .error .notHexadecimal := by
  rw [unsealPayload, fromHex, h, error_bind]

section Key
variable (hciphertext : hexDecode envelope.ciphertextPayloadHex.toList = some ciphertext)
include hciphertext

theorem unseal_key_not_hex (h : hexDecode recipientKeyHex.toList = none) :
    unsealPayload loads envelope recipientKeyHex = .error .notHexadecimal := by
  rw [unsealPayload, fromHex_eq_ok.mpr hciphertext, ok_bind, fromHex, h, error_bind]

variable (hkey : hexDecode recipientKeyHex.toList = some key)
include hkey

theorem unseal_tag_mismatch
    (h : integrityTag ciphertext (sha3_512 key) ≠ envelope.integrityTagSha3_512) :
    unsealPayload loads envelope recipientKeyHex = .error .tagMismatch := by
  simp only [unsealPayload, fromHex_eq_ok.mpr hciphertext, fromHex_eq_ok.mpr hkey, ok_bind]
  rw [if_pos h]

/-- Under the right tag the ciphertext is deciphered. -/
theorem unseal_tag_match (hlength : ciphertext.length ≤ 2 ^ 38) {text : List Char} {value : Json}
    (h : integrityTag ciphertext (sha3_512 key) = envelope.integrityTagSha3_512)
    (htext : streamCipher (sha3_512 key) ciphertext = encodeUtf8 text)
    (hvalue : loads text = some value) :
    unsealPayload loads envelope recipientKeyHex = .ok value := by
  simp only [unsealPayload, fromHex_eq_ok.mpr hciphertext, fromHex_eq_ok.mpr hkey, ok_bind]
  rw [if_neg (not_not_intro h), mixBytes_eq _ hlength, ok_bind, htext, decodeUtf8_encodeUtf8]
  simp only [hvalue]

end Key

theorem integrityTag_ne {M : Set (List UInt8)} (hinj : Set.InjOn sha3_512 M)
    {c c' k k' : List UInt8} (hm : c ++ k ∈ M) (hm' : c' ++ k' ∈ M) (h : c ++ k ≠ c' ++ k') :
    integrityTag c k ≠ integrityTag c' k' := fun htag =>
  h (hinj hm hm' (hexText_injective htag))

end Unsealing

section Envelope
variable {loads : List Char → Option Json} {envelopeId recipientKeyHex classification : String}
  {ephemeralSecret key : List UInt8} {payload : List (String × Json)}

theorem ciphertext_envelopeOf :
    hexDecode (envelopeOf envelopeId ephemeralSecret payload recipientKeyHex classification
        key).ciphertextPayloadHex.toList =
      some (streamCipher (sha3_512 key) (serialize payload)) :=
  hexDecode_hexText _

/-- An envelope with the ciphertext and the tag of a sealed one unseals to its payload. -/
theorem unseal_same_ciphertext {altered : SealedIntelligenceEnvelope}
    (hkey : hexDecode recipientKeyHex.toList = some key)
    (hlength : (serialize payload).length ≤ 2 ^ 38) (hjson : ReadsBack loads payload)
    (hciphertext : hexDecode altered.ciphertextPayloadHex.toList =
      some (streamCipher (sha3_512 key) (serialize payload)))
    (htag : altered.integrityTagSha3_512 =
      integrityTag (streamCipher (sha3_512 key) (serialize payload)) (sha3_512 key)) :
    ∃ value, unsealPayload loads altered recipientKeyHex = .ok value ∧
      SameValue value (.object payload) := by
  obtain ⟨value, hvalue, hsame⟩ := hjson
  refine ⟨value, unseal_tag_match hciphertext hkey ?_ htag.symm ?_ hvalue, hsame⟩
  · rwa [streamCipher_length]
  · rw [streamCipher_streamCipher]
    rfl

/-- A key of other bytes fails, as one that is not hexadecimal does. -/
theorem unseal_other_key {other : String} (hkey : hexDecode recipientKeyHex.toList = some key)
    (hother : hexDecode other.toList ≠ some key)
    (hkeys : Set.InjOn sha3_512 (keyMessages [recipientKeyHex, other]))
    (htags : Set.InjOn sha3_512 (taggedMessages [recipientKeyHex, other]
      [(envelopeOf envelopeId ephemeralSecret payload recipientKeyHex classification
        key).ciphertextPayloadHex])) :
    ∃ e, unsealPayload loads (envelopeOf envelopeId ephemeralSecret payload recipientKeyHex
      classification key) other = .error e ∧ e.isValueError = true := by
  cases hdecode : hexDecode other.toList with
  | none => exact ⟨_, unseal_key_not_hex ciphertext_envelopeOf hdecode, rfl⟩
  | some key' =>
    have hmem : key ∈ keyMessages [recipientKeyHex, other] := ⟨_, List.mem_cons_self, hkey⟩
    have hmem' : key' ∈ keyMessages [recipientKeyHex, other] :=
      ⟨_, List.mem_cons_of_mem _ List.mem_cons_self, hdecode⟩
    have hne : key' ≠ key := by
      rintro rfl
      exact hother hdecode
    refine ⟨_, unseal_tag_mismatch ciphertext_envelopeOf hdecode ?_, rfl⟩
    refine integrityTag_ne htags ⟨key', hmem', _, ⟨_, List.mem_cons_self, ciphertext_envelopeOf⟩, rfl⟩
      ⟨key, hmem, _, ⟨_, List.mem_cons_self, ciphertext_envelopeOf⟩, rfl⟩ fun happend => ?_
    exact hne (hkeys hmem' hmem (List.append_cancel_left happend))

/-- An envelope under another label. -/
def relabelled (envelope : SealedIntelligenceEnvelope) (label : String) :
    SealedIntelligenceEnvelope := { envelope with classificationLevel := label }

/-- The label of a sealed envelope can be replaced: the recipient gets the payload as before. -/
theorem unseal_relabelled {envelope : SealedIntelligenceEnvelope}
    (hseal : sealPayload envelopeId ephemeralSecret payload recipientKeyHex classification =
      .ok envelope) (hjson : ReadsBack loads payload) (label : String) :
    envelope.classificationLevel = classification ∧
      ∃ value, unsealPayload loads (relabelled envelope label) recipientKeyHex = .ok value ∧
        SameValue value (.object payload) := by
  obtain ⟨hlength, key, hkey, rfl⟩ := sealPayload_eq_ok_iff.mp hseal
  exact ⟨rfl, unseal_same_ciphertext hkey hlength hjson ciphertext_envelopeOf rfl⟩

end Envelope

/-- Sealing below the limit of the counter succeeds, the same key takes the payload back, and
a key of other bytes is refused with a value error. -/
theorem unseal_sealPayload (loads : List Char → Option Json)
    (envelopeId recipientKeyHex classification : String) (ephemeralSecret key : List UInt8)
    (payload : List (String × Json)) (hkey : hexDecode recipientKeyHex.toList = some key)
    (hlength : (serialize payload).length < 2 ^ 38) (hjson : ReadsBack loads payload) :
    ∃ envelope, sealPayload envelopeId ephemeralSecret payload recipientKeyHex classification =
        .ok envelope ∧
      (∃ value, unsealPayload loads envelope recipientKeyHex = .ok value ∧
        SameValue value (.object payload)) ∧
      ∀ other : String, hexDecode other.toList ≠ some key →
        Set.InjOn sha3_512 (keyMessages [recipientKeyHex, other]) →
        Set.InjOn sha3_512 (taggedMessages [recipientKeyHex, other]
          [envelope.ciphertextPayloadHex]) →
        ∃ e, unsealPayload loads envelope other = .error e ∧ e.isValueError = true :=
  ⟨_, sealPayload_eq_ok_iff.mpr ⟨hlength.le, key, hkey, rfl⟩,
    unseal_same_ciphertext hkey hlength.le hjson ciphertext_envelopeOf rfl,
    fun _ hother hkeys htags => unseal_other_key hkey hother hkeys htags⟩

/-- A payload whose keys are out of order. -/
def statusPayload : List (String × Json) := [("status", .string "open"), ("days", .int 3)]

theorem statusPayload_readsBack : ReadsBack Json.loads statusPayload :=
  readsBack_loads (by decide +kernel)

theorem keyMessages_pair {text text' : String} {key key' : List UInt8}
    (h : hexDecode text.toList = some key) (h' : hexDecode text'.toList = some key') :
    keyMessages [text, text'] = {key, key'} := by
  ext m
  simp [keyMessages, h, h', eq_comm]

theorem keyMessages_singleton {text : String} {key : List UInt8}
    (h : hexDecode text.toList = some key) : keyMessages [text] = {key} := by
  ext m
  simp [keyMessages, h, eq_comm]

/-- The ciphertext of the payload for one key. -/
def statusCiphertext : List UInt8 := streamCipher (sha3_512 [0xa1]) (serialize statusPayload)

/-- Neither the keys nor the tagged messages of two keys collide. -/
theorem statusDigests_ne : sha3_512 [0xa1] ≠ sha3_512 [0xb2] ∧
    sha3_512 (statusCiphertext ++ sha3_512 [0xa1]) ≠
      sha3_512 (statusCiphertext ++ sha3_512 [0xb2]) := by decide +kernel

theorem injOn_keyMessages : Set.InjOn sha3_512 (keyMessages ["a1", "b2"]) := by
  rw [keyMessages_pair (by decide : hexDecode "a1".toList = some [0xa1])
    (by decide : hexDecode "b2".toList = some [0xb2]), Set.injOn_pair]
  exact fun heq => absurd heq statusDigests_ne.1

theorem injOn_taggedMessages {envelopeId : String} {ephemeralSecret : List UInt8} :
    Set.InjOn sha3_512 (taggedMessages ["a1", "b2"] [(envelopeOf envelopeId ephemeralSecret
      statusPayload "a1" "SECRET" [0xa1]).ciphertextPayloadHex]) := by
  have hmessages : taggedMessages ["a1", "b2"] [(envelopeOf envelopeId ephemeralSecret
      statusPayload "a1" "SECRET" [0xa1]).ciphertextPayloadHex] =
        {statusCiphertext ++ sha3_512 [0xa1], statusCiphertext ++ sha3_512 [0xb2]} := by
    rw [taggedMessages, keyMessages_pair (by decide : hexDecode "a1".toList = some [0xa1])
      (by decide : hexDecode "b2".toList = some [0xb2]),
      keyMessages_singleton ciphertext_envelopeOf]
    ext m
    simp [statusCiphertext]
  rw [hmessages, Set.injOn_pair]
  exact fun heq => absurd heq statusDigests_ne.2

/-- The recipient takes the payload back, and with another key gets a value error. -/
theorem unseal_sealPayload_status :
    ∃ envelope, sealPayload "envelope" [7] statusPayload "a1" "SECRET" = .ok envelope ∧
      (∃ value, unsealPayload Json.loads envelope "a1" = .ok value ∧
        SameValue value (.object statusPayload)) ∧
      ∃ e, unsealPayload Json.loads envelope "b2" = .error e ∧ e.isValueError = true := by
  have hkey : hexDecode "a1".toList = some [0xa1] := by decide
  obtain ⟨envelope, hseal, hunseal, hrefused⟩ := unseal_sealPayload Json.loads "envelope" "a1"
    "SECRET" [7] [0xa1] statusPayload hkey (by decide +kernel) statusPayload_readsBack
  obtain ⟨-, key, hkey', rfl⟩ := sealPayload_eq_ok_iff.mp hseal
  obtain rfl := Option.some.inj (hkey.symm.trans hkey')
  exact ⟨_, hseal, hunseal, hrefused "b2" (by decide) injOn_keyMessages injOn_taggedMessages⟩

/-- Of the alterations that keep the tag, the recipient notices exactly those that change the
bytes of the ciphertext. -/
theorem unseal_altered_iff (loads : List Char → Option Json)
    (envelopeId recipientKeyHex classification : String) (ephemeralSecret : List UInt8)
    (payload : List (String × Json)) (envelope altered : SealedIntelligenceEnvelope)
    (hseal : sealPayload envelopeId ephemeralSecret payload recipientKeyHex classification =
      .ok envelope) (hjson : ReadsBack loads payload)
    (htag : altered.integrityTagSha3_512 = envelope.integrityTagSha3_512)
    (hinj : Set.InjOn sha3_512 (taggedMessages [recipientKeyHex]
      [envelope.ciphertextPayloadHex, altered.ciphertextPayloadHex])) :
    (∃ e, unsealPayload loads altered recipientKeyHex = .error e ∧ e.isValueError = true) ↔
      hexDecode altered.ciphertextPayloadHex.toList ≠
        hexDecode envelope.ciphertextPayloadHex.toList := by
  obtain ⟨hlength, key, hkey, rfl⟩ := sealPayload_eq_ok_iff.mp hseal
  rw [ciphertext_envelopeOf]
  constructor
  · rintro ⟨e, herror, -⟩ hsame
    obtain ⟨value, hok, -⟩ := unseal_same_ciphertext hkey hlength hjson hsame htag
    rw [hok] at herror
    cases herror
  · intro hne
    cases hdecode : hexDecode altered.ciphertextPayloadHex.toList with
    | none => exact ⟨_, unseal_ciphertext_not_hex hdecode, rfl⟩
    | some ciphertext =>
      have hkeymem : key ∈ keyMessages [recipientKeyHex] := ⟨_, List.mem_cons_self, hkey⟩
      refine ⟨_, unseal_tag_mismatch hdecode hkey ?_, rfl⟩
      rw [htag]
      refine integrityTag_ne hinj
        ⟨key, hkeymem, _, ⟨_, List.mem_cons_of_mem _ List.mem_cons_self, hdecode⟩, rfl⟩
        ⟨key, hkeymem, _, ⟨_, List.mem_cons_self, ciphertext_envelopeOf⟩, rfl⟩ fun happend => ?_
      exact hne (hdecode.trans (congrArg some (List.append_cancel_right happend)))

theorem taggedMessages_relabelled (envelope : SealedIntelligenceEnvelope) (label : String)
    (recipientKeyHex : String) : Set.InjOn sha3_512 (taggedMessages [recipientKeyHex]
      [envelope.ciphertextPayloadHex, (relabelled envelope label).ciphertextPayloadHex]) := by
  rintro m ⟨key, ⟨text, htext, hkey⟩, c, ⟨ct, hct, hc⟩, rfl⟩
    m' ⟨key', ⟨text', htext', hkey'⟩, c', ⟨ct', hct', hc'⟩, rfl⟩ _
  have hsame : ∀ {a}, a ∈ [envelope.ciphertextPayloadHex,
      (relabelled envelope label).ciphertextPayloadHex] → a = envelope.ciphertextPayloadHex := by
    intro a ha
    rcases List.mem_cons.mp ha with rfl | ha
    · rfl
    · exact List.mem_singleton.mp ha
  rw [List.mem_singleton.mp htext] at hkey
  rw [List.mem_singleton.mp htext', hkey] at hkey'
  rw [hsame hct] at hc
  rw [hsame hct', hc] at hc'
  rw [Option.some.inj hkey', Option.some.inj hc']

theorem exists_sealed_status :
    ∃ envelope, sealPayload "envelope" [7] statusPayload "a1" "SECRET" = .ok envelope :=
  ⟨_, sealPayload_eq_ok_iff.mpr ⟨by decide +kernel, [0xa1], by decide, rfl⟩⟩

/-- An envelope with another text for its ciphertext. -/
def recoded (envelope : SealedIntelligenceEnvelope) (text : String) :
    SealedIntelligenceEnvelope := { envelope with ciphertextPayloadHex := text }

theorem taggedMessages_recoded {envelope : SealedIntelligenceEnvelope} {text keyText : String}
    {key ciphertext : List UInt8} (hkey : hexDecode keyText.toList = some key)
    (hciphertext : hexDecode envelope.ciphertextPayloadHex.toList = some ciphertext)
    (htext : hexDecode text.toList = none) : Set.InjOn sha3_512 (taggedMessages [keyText]
      [envelope.ciphertextPayloadHex, (recoded envelope text).ciphertextPayloadHex]) := by
  have hmessages : keyMessages [envelope.ciphertextPayloadHex,
      (recoded envelope text).ciphertextPayloadHex] = {ciphertext} := by
    ext m
    simp [keyMessages, recoded, hciphertext, htext, eq_comm]
  rw [taggedMessages, keyMessages_singleton hkey, hmessages]
  simp

/-- A new label goes unnoticed, and a ciphertext that is no hexadecimal text is a value error. -/
theorem unseal_altered_status :
    ∃ envelope, sealPayload "envelope" [7] statusPayload "a1" "SECRET" = .ok envelope ∧
      (¬ ∃ e, unsealPayload Json.loads (relabelled envelope "UNCLASSIFIED") "a1" = .error e ∧
        e.isValueError = true) ∧
      ∃ e, unsealPayload Json.loads (recoded envelope "open") "a1" = .error e ∧
        e.isValueError = true := by
  obtain ⟨envelope, hseal⟩ := exists_sealed_status
  obtain ⟨ciphertext, hciphertext⟩ : ∃ ciphertext,
      hexDecode envelope.ciphertextPayloadHex.toList = some ciphertext := by
    obtain ⟨-, key, -, rfl⟩ := sealPayload_eq_ok_iff.mp hseal
    exact ⟨_, ciphertext_envelopeOf⟩
  have hopen : hexDecode "open".toList = none := by decide
  have haltered := unseal_altered_iff Json.loads "envelope" "a1" "SECRET" [7] statusPayload envelope
    (recoded envelope "open") hseal statusPayload_readsBack rfl
    (taggedMessages_recoded (by decide : hexDecode "a1".toList = some [0xa1]) hciphertext hopen)
  refine ⟨envelope, hseal, fun herror => ?_, haltered.mpr ?_⟩
  · exact (unseal_altered_iff Json.loads "envelope" "a1" "SECRET" [7] statusPayload envelope
      (relabelled envelope "UNCLASSIFIED") hseal statusPayload_readsBack rfl
      (taggedMessages_relabelled envelope "UNCLASSIFIED" "a1")).mp herror rfl
  · rw [hciphertext]
    exact fun heq => Option.some_ne_none _ (heq.symm.trans hopen)

/-- A secret envelope relabelled as unclassified unseals as before. -/
theorem unseal_relabelled_accepted :
    ¬ ∀ (loads : List Char → Option Json) (envelopeId recipientKeyHex classification : String)
      (ephemeralSecret : List UInt8) (payload : List (String × Json))
      (envelope altered : SealedIntelligenceEnvelope),
      sealPayload envelopeId ephemeralSecret payload recipientKeyHex classification =
        .ok envelope → ReadsBack loads payload →
      Set.InjOn sha3_512 (taggedMessages [recipientKeyHex]
        [envelope.ciphertextPayloadHex, altered.ciphertextPayloadHex]) →
      altered.integrityTagSha3_512 = envelope.integrityTagSha3_512 →
      (hexDecode altered.ciphertextPayloadHex.toList ≠
          hexDecode envelope.ciphertextPayloadHex.toList ∨
        altered.classificationLevel ≠ envelope.classificationLevel ∨
        altered.encapsulationScheme ≠ envelope.encapsulationScheme) →
      ∃ e, unsealPayload loads altered recipientKeyHex = .error e ∧ e.isValueError = true := by
  intro h
  obtain ⟨envelope, hseal⟩ := exists_sealed_status
  obtain ⟨hlabel, value, hok, -⟩ := unseal_relabelled hseal statusPayload_readsBack "UNCLASSIFIED"
  have hchanged : (relabelled envelope "UNCLASSIFIED").classificationLevel ≠
      envelope.classificationLevel := by
    rw [hlabel]
    exact (by decide : "UNCLASSIFIED" ≠ "SECRET")
  obtain ⟨e, herror, -⟩ := h Json.loads "envelope" "a1" "SECRET" [7] statusPayload envelope
    (relabelled envelope "UNCLASSIFIED") hseal statusPayload_readsBack
    (taggedMessages_relabelled envelope "UNCLASSIFIED" "a1") rfl (Or.inr (Or.inl hchanged))
  rw [hok] at herror
  cases herror

end ContinuityOS.Crypto
