import ContinuityOS.Embedded.CompactCodec
import ContinuityOS.Library.Crc

/-! # Errors the checksum detects

The checksum is the register of the reflected generator `0xA001` over the bits of the payload,
the lowest bit of a byte first. It is stored with the low byte first, so that a frame is valid
exactly when the register over the whole frame is zero.
-/
namespace ContinuityOS.Embedded.CompactBinaryProtocolCodec
open Library

def generator : ℕ := 0xA001

/-- The bits of a frame, the lowest of each byte first. -/
def frameBits (bytes : List UInt8) : List Bool := bytes.flatMap fun b => Crc.bitsOf 8 b.toNat

def corrupted (frame error : List UInt8) : List UInt8 := List.zipWith (· ^^^ ·) frame error

/-- One, two or three flipped bits, or flipped bits within 16 consecutive positions. -/
def Detectable (error : List UInt8) : Prop :=
  (1 ≤ (frameBits error).count true ∧ (frameBits error).count true ≤ 3) ∨
    true ∈ frameBits error ∧ ∃ before window after,
      frameBits error = before ++ window ++ after ∧ window.length ≤ 16 ∧
        true ∉ before ∧ true ∉ after

section Bits

theorem frameBits_append (a b : List UInt8) : frameBits (a ++ b) = frameBits a ++ frameBits b :=
  List.flatMap_append

theorem frameBits_length (bytes : List UInt8) : (frameBits bytes).length = 8 * bytes.length := by
  simp [frameBits, List.length_flatMap, Crc.bitsOf_length, mul_comm]

theorem frameBits_corrupted (frame error : List UInt8) (h : frame.length = error.length) :
    frameBits (corrupted frame error) =
      List.zipWith (· ^^ ·) (frameBits frame) (frameBits error) := by
  induction frame generalizing error with
  | nil =>
    cases error with
    | nil => rfl
    | cons e error => cases h
  | cons b frame ih =>
    cases error with
    | nil => cases h
    | cons e error =>
      have hbits : (Crc.bitsOf 8 b.toNat).length = (Crc.bitsOf 8 e.toNat).length := by
        rw [Crc.bitsOf_length, Crc.bitsOf_length]
      have hrest := ih error (Nat.succ.inj h)
      simp only [frameBits, corrupted, List.zipWith_cons_cons, List.flatMap_cons,
        UInt8.toNat_xor, Crc.bitsOf_xor] at hrest ⊢
      rw [hrest, List.zipWith_append hbits]

/-- Little-endian bytes have the bits of their number in order. -/
theorem ofBits_frameBits (bytes : List UInt8) :
    Crc.ofBits (frameBits bytes) = fromLittleEndian bytes := by
  induction bytes with
  | nil => rfl
  | cons b bytes ih =>
    have hcons : frameBits (b :: bytes) = Crc.bitsOf 8 b.toNat ++ frameBits bytes := rfl
    rw [hcons, Crc.ofBits_append, Crc.ofBits_bitsOf b.toNat_lt, Crc.bitsOf_length, ih,
      fromLittleEndian]
    norm_num

end Bits

section Register

theorem crcByte_eq (crc : ℕ) (byte : UInt8) :
    crcByte crc byte = Crc.feed generator crc (Crc.bitsOf 8 byte.toNat) := by
  rw [Crc.feed_eq_iterate, Crc.bitsOf_length, Crc.ofBits_bitsOf byte.toNat_lt]
  rfl

theorem computeCrc16_eq (data : List UInt8) :
    computeCrc16 data = Crc.feed generator 0xFFFF (frameBits data) := by
  have hfold : ∀ crc, data.foldl crcByte crc = Crc.feed generator crc (frameBits data) := by
    induction data with
    | nil => exact fun _ => rfl
    | cons b data ih =>
      intro crc
      rw [List.foldl_cons, crcByte_eq, ih, ← Crc.feed_append]
      rfl
  have hlt : Crc.feed generator 0xFFFF (frameBits data) < 2 ^ 16 :=
    Crc.feed_lt (by decide) (by decide) (by decide) _
  rw [computeCrc16, hfold]
  exact (Nat.and_two_pow_sub_one_eq_mod _ 16).trans (Nat.mod_eq_of_lt hlt)

theorem generator_lt : generator < 2 ^ (15 + 1) := by decide

theorem generator_top : generator.testBit 15 = true := by decide

theorem generator_parity : Crc.parity (15 + 1) generator = true := by decide

/-- The shift does not come back to one within a frame. -/
theorem generator_order : ∀ d, 0 < d → d < 208 → (Crc.shift generator)^[d] 1 ≠ 1 := by
  have hall : ∀ d ∈ List.range 207, (Crc.shift generator)^[d + 1] 1 ≠ 1 := by decide +kernel
  intro d hpos hlt
  have hd := hall (d - 1) (List.mem_range.mpr (by omega))
  rwa [Nat.sub_add_cancel hpos] at hd

/-- A stored checksum is right exactly when it brings the register to zero. -/
theorem feed_checksum {header crcBytes : List UInt8} {crc : ℤ}
    (hcrc : structPack [.H] [crc] = some crcBytes) :
    Crc.feed generator 0xFFFF (frameBits (header ++ crcBytes)) = 0 ↔
      (computeCrc16 header : ℤ) = crc := by
  obtain ⟨first, rest, hfirst, hrest, rfl⟩ := structPack_cons_eq_some.mp hcrc
  obtain rfl : rest = [] := (Option.some.inj hrest).symm
  obtain ⟨hrange, rfl⟩ := FieldFormat.pack_eq_some_iff.mp hfirst
  rw [FieldFormat.inRange_of_unsigned rfl, FieldFormat.width] at hrange
  have hmod : (crc % 256 ^ 2).toNat = crc.toNat := by rw [Int.emod_eq_of_lt hrange.1 hrange.2]
  have hnat : crc.toNat < 256 ^ 2 := by omega
  have hlt : computeCrc16 header ^^^ crc.toNat < 2 ^ (15 + 1) :=
    Nat.xor_lt_two_pow (Nat.lt_succ_of_le (computeCrc16_le header)) hnat
  have hnumber : Crc.ofBits (frameBits (littleEndian 2 crc.toNat)) = crc.toNat := by
    rw [ofBits_frameBits, fromLittleEndian_littleEndian hnat]
  rw [List.append_nil, FieldFormat.width, hmod, frameBits_append, Crc.feed_append,
    ← computeCrc16_eq, Crc.feed_eq_iterate, hnumber,
    Crc.iterate_shift_eq_zero_iff generator_lt generator_top hlt, Nat.xor_eq_zero_iff]
  omega

/-- A frame of the format is always decoded, and valid when its register is zero. -/
theorem decode_crcValid {frame : List UInt8} (h : frame.length = 26) :
    ∃ packet, decode frame = .ok packet ∧
      (packet.crcValid = true ↔ Crc.feed generator 0xFFFF (frameBits frame) = 0) := by
  have hsize : frame.length = calcsize packFormat := h
  obtain ⟨values, hunpack, hvalues⟩ := structUnpack_isSome hsize
  have hpack := structPack_structUnpack hunpack
  match values, hvalues with
  | [nodeId, seqId, ts, lat, lon, alt, flags, risk, rssi, bat, crc], _ =>
    have hparts : structPack (headerFormat ++ [.H])
        ([nodeId, seqId, ts, lat, lon, alt, flags, risk, rssi, bat] ++ [crc]) = some frame := hpack
    obtain ⟨header, crcBytes, hheader, hcrc, rfl⟩ := (structPack_append rfl).mp hparts
    refine ⟨_, (decode_eq hheader hcrc).2, ?_⟩
    rw [feed_checksum hcrc]
    exact decide_eq_true_iff

end Register

section Detection

theorem eq_replicate_of_no_error {bits : List Bool} (h : true ∉ bits) :
    bits = List.replicate bits.length false :=
  Crc.eq_replicate_of_count_eq_zero (List.count_eq_zero.mpr h)

/-- The register of a detectable error is not zero. -/
theorem feed_detectable {error : List UInt8} (hlength : error.length = 26)
    (h : Detectable error) : Crc.feed generator 0 (frameBits error) ≠ 0 := by
  rcases h with ⟨hlow, hhigh⟩ | ⟨herror, before, window, after, hbits, hwindow, hbefore, hafter⟩
  · have hcases : (frameBits error).count true % 2 = 1 ∨ (frameBits error).count true = 2 := by
      omega
    rcases hcases with hodd | htwo
    · exact Crc.feed_ne_zero_of_odd generator_lt generator_parity hodd
    · refine Crc.feed_ne_zero_of_two generator_lt generator_top htwo fun d hpos hlt => ?_
      rw [frameBits_length, hlength] at hlt
      exact generator_order d hpos hlt
  · have hmem : true ∈ window := by
      rw [hbits, List.mem_append, List.mem_append] at herror
      exact (herror.resolve_right hafter).resolve_left hbefore
    rw [hbits, eq_replicate_of_no_error hbefore, eq_replicate_of_no_error hafter]
    exact Crc.feed_ne_zero_of_burst generator_lt generator_top hwindow hmem _ _

/-- Flipping up to three bits of a valid frame, or bits within 16 consecutive positions, makes
it invalid. -/
theorem crc_detects_errors (frame error : List UInt8) (hframe : frame.length = 26)
    (herror : error.length = 26)
    (hvalid : ∃ packet, decode frame = .ok packet ∧ packet.crcValid = true)
    (hdetectable : Detectable error) :
    ∃ packet, decode (corrupted frame error) = .ok packet ∧ packet.crcValid = false := by
  have hlength : frame.length = error.length := hframe.trans herror.symm
  have hcorrupted : (corrupted frame error).length = 26 := by
    rw [corrupted, List.length_zipWith, hframe, herror, min_self]
  obtain ⟨packet, hdecode, hcrc⟩ := hvalid
  obtain ⟨packet₀, hdecode₀, hzero⟩ := decode_crcValid hframe
  obtain rfl := Except.ok.inj (hdecode.symm.trans hdecode₀)
  obtain ⟨packet', hdecode', hzero'⟩ := decode_crcValid hcorrupted
  refine ⟨packet', hdecode', ?_⟩
  rw [← Bool.not_eq_true, hzero', frameBits_corrupted frame error hlength]
  have hbits : (frameBits frame).length = (frameBits error).length := by
    rw [frameBits_length, frameBits_length, hlength]
  have hsum : Crc.feed generator (0xFFFF ^^^ 0)
      (List.zipWith (· ^^ ·) (frameBits frame) (frameBits error)) =
        Crc.feed generator 0xFFFF (frameBits frame) ^^^ Crc.feed generator 0 (frameBits error) :=
    Crc.feed_xor hbits 0xFFFF 0
  rw [Nat.xor_zero, hzero.mp hcrc, Nat.zero_xor] at hsum
  rw [hsum]
  exact feed_detectable herror hdetectable

/-- A frame of zeros with its checksum. -/
def zeroFrame : List UInt8 := List.replicate 24 0 ++ [122, 247]

theorem zeroFrame_valid : ∃ packet, decode zeroFrame = .ok packet ∧ packet.crcValid = true := by
  obtain ⟨packet, hdecode, hvalid⟩ := decode_crcValid (show zeroFrame.length = 26 from rfl)
  exact ⟨packet, hdecode, hvalid.mpr (by decide +kernel)⟩

/-- The last bit of the payload and the first of the checksum are flipped. -/
theorem crc_detects_errors_zeroFrame :
    ∃ packet, decode (corrupted zeroFrame (List.replicate 23 0 ++ [128, 1, 0])) = .ok packet ∧
      packet.crcValid = false :=
  crc_detects_errors zeroFrame (List.replicate 23 0 ++ [128, 1, 0]) rfl rfl zeroFrame_valid
    (Or.inl (by decide +kernel))

end Detection

end ContinuityOS.Embedded.CompactBinaryProtocolCodec
