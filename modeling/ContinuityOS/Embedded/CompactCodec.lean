import ContinuityOS.Library.Rounding
import ContinuityOS.Library.StructFormat

/-! # The compact telemetry frame

Ten scaled fields and a checksum over them in 26 bytes. Decoding a frame that was encoded gives the
fields back up to the scaling, and encoding what was decoded gives the frame back.
-/
namespace ContinuityOS.Embedded
open Library

/-- The arguments of `encode`. -/
structure TelemetryFields where
  nodeId : ℤ
  sequenceId : ℤ
  timestampUnix : ℤ
  latitude : ℚ
  longitude : ℚ
  altitudeM : ℤ
  threatFlags : ℤ
  riskScore : ℚ
  rssiDbm : ℤ
  batteryPct : ℤ

structure MicroTelemetryPacket where
  nodeId : ℤ
  sequenceId : ℤ
  timestampUnix : ℤ
  latitude : ℚ
  longitude : ℚ
  altitudeM : ℤ
  threatFactorFlags : ℤ
  riskScoreByte : ℤ
  linkQualityRssiDbm : ℤ
  batteryLevelPct : ℤ
  crcValid : Bool
deriving DecidableEq

namespace CompactBinaryProtocolCodec

/-- `<HIIiihBBbB` -/
def headerFormat : List FieldFormat := [.H, .I, .I, .i, .i, .h, .B, .B, .b, .B]

/-- `<HIIiihBBbBH` -/
def packFormat : List FieldFormat := [.H, .I, .I, .i, .i, .h, .B, .B, .b, .B, .H]

def frameSize : ℕ := calcsize packFormat

example : frameSize = 26 := by decide

def crcStep (crc : ℕ) : ℕ := if crc &&& 1 = 1 then (crc >>> 1) ^^^ 0xA001 else crc >>> 1

def crcByte (crc : ℕ) (byte : UInt8) : ℕ := crcStep^[8] (crc ^^^ byte.toNat)

def computeCrc16 (data : List UInt8) : ℕ := data.foldl crcByte 0xFFFF &&& 0xFFFF

def latScaled (fields : TelemetryFields) : ℤ := roundHalfEven (fields.latitude * 1000000)

def lonScaled (fields : TelemetryFields) : ℤ := roundHalfEven (fields.longitude * 1000000)

def riskByte (fields : TelemetryFields) : ℤ :=
  roundHalfEven (max 0 (min 1 fields.riskScore) * 255)

def batteryByte (fields : TelemetryFields) : ℤ := max 0 (min 100 fields.batteryPct)

def headerValues (fields : TelemetryFields) : List ℤ :=
  [fields.nodeId, fields.sequenceId, fields.timestampUnix, latScaled fields, lonScaled fields,
    fields.altitudeM, fields.threatFlags, riskByte fields, fields.rssiDbm, batteryByte fields]

/-- `none` is a `struct.error`. -/
def encode (fields : TelemetryFields) : Option (List UInt8) := do
  let headerBytes ← structPack headerFormat (headerValues fields)
  let crc ← structPack [.H] [(computeCrc16 headerBytes : ℤ)]
  return headerBytes ++ crc

inductive DecodeError where
  | valueError (message : String)
  | structError
deriving DecidableEq

def decode (frameBytes : List UInt8) : Except DecodeError MicroTelemetryPacket :=
  if frameBytes.length ≠ frameSize then
    .error (.valueError
      ("Invalid frame size " ++ toString frameBytes.length ++ ", expected " ++ toString frameSize ++
        " bytes"))
  else
    let payload := frameBytes.take (frameBytes.length - 2)
    match structUnpack [.H] (frameBytes.drop (frameBytes.length - 2)),
      structUnpack packFormat frameBytes with
    | some [actualCrc], some [nodeId, seqId, ts, lat, lon, alt, flags, risk, rssi, bat, _] =>
      .ok {
        nodeId := nodeId
        sequenceId := seqId
        timestampUnix := ts
        latitude := lat / 1000000
        longitude := lon / 1000000
        altitudeM := alt
        threatFactorFlags := flags
        riskScoreByte := risk
        linkQualityRssiDbm := rssi
        batteryLevelPct := bat
        crcValid := decide ((computeCrc16 payload : ℤ) = actualCrc) }
    | _, _ => .error .structError

/-- The fields whose encoding a packet stands for. -/
def fieldsOf (packet : MicroTelemetryPacket) : TelemetryFields where
  nodeId := packet.nodeId
  sequenceId := packet.sequenceId
  timestampUnix := packet.timestampUnix
  latitude := packet.latitude
  longitude := packet.longitude
  altitudeM := packet.altitudeM
  threatFlags := packet.threatFactorFlags
  riskScore := packet.riskScoreByte / 255
  rssiDbm := packet.linkQualityRssiDbm
  batteryPct := packet.batteryLevelPct

section Encode
variable {fields : TelemetryFields}

theorem computeCrc16_le (data : List UInt8) : computeCrc16 data ≤ 0xFFFF := Nat.and_le_right

theorem crc_inRange (data : List UInt8) : FieldFormat.H.InRange (computeCrc16 data) := by
  have h := computeCrc16_le data
  refine (FieldFormat.inRange_of_unsigned rfl).mpr ⟨Int.natCast_nonneg _, ?_⟩
  rw [FieldFormat.width]
  omega

theorem riskByte_bounds (fields : TelemetryFields) : 0 ≤ riskByte fields ∧ riskByte fields ≤ 255 := by
  have hlow : (0 : ℚ) ≤ max 0 (min 1 fields.riskScore) * 255 :=
    mul_nonneg (le_max_left _ _) (by norm_num)
  have hhigh : max 0 (min 1 fields.riskScore) * 255 ≤ (255 : ℚ) := by
    have : max 0 (min 1 fields.riskScore) ≤ 1 := max_le zero_le_one (min_le_left _ _)
    linarith
  have h0 := roundHalfEven_intCast 0
  have h255 := roundHalfEven_intCast 255
  have hlow' := roundHalfEven_mono hlow
  have hhigh' := roundHalfEven_mono hhigh
  norm_cast at h0 h255
  rw [riskByte]
  constructor
  · rw [← h0]
    exact_mod_cast hlow'
  · rw [← h255]
    exact_mod_cast hhigh'

/-- The scaled fields that are packed as they come fit. -/
structure Fits (fields : TelemetryFields) : Prop where
  nodeId : FieldFormat.H.InRange fields.nodeId
  sequenceId : FieldFormat.I.InRange fields.sequenceId
  timestampUnix : FieldFormat.I.InRange fields.timestampUnix
  latitude : FieldFormat.i.InRange (latScaled fields)
  longitude : FieldFormat.i.InRange (lonScaled fields)
  altitudeM : FieldFormat.h.InRange fields.altitudeM
  threatFlags : FieldFormat.B.InRange fields.threatFlags
  rssiDbm : FieldFormat.b.InRange fields.rssiDbm

theorem encode_eq_some_iff {frame : List UInt8} : encode fields = some frame ↔
    ∃ header crc, structPack headerFormat (headerValues fields) = some header ∧
      structPack [.H] [(computeCrc16 header : ℤ)] = some crc ∧ header ++ crc = frame := by
  simp only [encode, Option.bind_eq_bind, Option.bind_eq_some_iff, Option.pure_def,
    Option.some.injEq]
  constructor
  · rintro ⟨header, hpack, crc, hcrc, rfl⟩
    exact ⟨header, crc, hpack, hcrc, rfl⟩
  · rintro ⟨header, crc, hpack, hcrc, rfl⟩
    exact ⟨header, hpack, crc, hcrc, rfl⟩

theorem encode_isSome : (encode fields).isSome ↔ Fits fields := by
  have hrisk : FieldFormat.B.InRange (riskByte fields) := by
    have h := riskByte_bounds fields
    rw [FieldFormat.inRange_of_unsigned rfl, FieldFormat.width]
    omega
  have hbattery : FieldFormat.B.InRange (batteryByte fields) := by
    rw [FieldFormat.inRange_of_unsigned rfl, FieldFormat.width, batteryByte]
    omega
  have hheader : (structPack headerFormat (headerValues fields)).isSome ↔ Fits fields := by
    rw [structPack_isSome, headerFormat, headerValues]
    simp only [List.forall₂_cons, List.forall₂_nil_left_iff, and_true, hrisk, hbattery, true_and]
    constructor
    · rintro ⟨h₁, h₂, h₃, h₄, h₅, h₆, h₇, h₈⟩
      exact ⟨h₁, h₂, h₃, h₄, h₅, h₆, h₇, h₈⟩
    · rintro ⟨h₁, h₂, h₃, h₄, h₅, h₆, h₇, h₈⟩
      exact ⟨h₁, h₂, h₃, h₄, h₅, h₆, h₇, h₈⟩
  rw [← hheader, Option.isSome_iff_exists, Option.isSome_iff_exists]
  constructor
  · rintro ⟨frame, hframe⟩
    obtain ⟨header, crc, hpack, -, -⟩ := encode_eq_some_iff.mp hframe
    exact ⟨header, hpack⟩
  · rintro ⟨header, hpack⟩
    have hcrc : (structPack [.H] [(computeCrc16 header : ℤ)]).isSome :=
      structPack_isSome.mpr (.cons (crc_inRange header) .nil)
    obtain ⟨crc, hcrc⟩ := Option.isSome_iff_exists.mp hcrc
    exact ⟨header ++ crc, encode_eq_some_iff.mpr ⟨header, crc, hpack, hcrc, rfl⟩⟩

/-- What `decode` returns for a frame of the format whose checksum field it reads. -/
theorem decode_eq {header crcBytes : List UInt8}
    {crc nodeId seqId ts lat lon alt flags risk rssi bat : ℤ}
    (hheader : structPack headerFormat
      [nodeId, seqId, ts, lat, lon, alt, flags, risk, rssi, bat] = some header)
    (hcrc : structPack [.H] [crc] = some crcBytes) :
    (header ++ crcBytes).length = frameSize ∧ decode (header ++ crcBytes) = .ok {
      nodeId := nodeId
      sequenceId := seqId
      timestampUnix := ts
      latitude := lat / 1000000
      longitude := lon / 1000000
      altitudeM := alt
      threatFactorFlags := flags
      riskScoreByte := risk
      linkQualityRssiDbm := rssi
      batteryLevelPct := bat
      crcValid := decide ((computeCrc16 header : ℤ) = crc) } := by
  have happend : structPack (headerFormat ++ [.H])
      ([nodeId, seqId, ts, lat, lon, alt, flags, risk, rssi, bat] ++ [crc]) =
        some (header ++ crcBytes) :=
    (structPack_append rfl).mpr ⟨header, crcBytes, hheader, hcrc, rfl⟩
  have hframe : structPack packFormat
      [nodeId, seqId, ts, lat, lon, alt, flags, risk, rssi, bat, crc] =
        some (header ++ crcBytes) := happend
  have hlength : (header ++ crcBytes).length = frameSize := structPack_length hframe
  have htail : crcBytes.length = 2 := structPack_length hcrc
  have hsplit : (header ++ crcBytes).length - 2 = header.length := by
    rw [List.length_append]
    omega
  refine ⟨hlength, ?_⟩
  rw [decode, if_neg (not_not.mpr hlength)]
  simp only [hsplit, List.drop_left, List.take_left, structUnpack_structPack hcrc,
    structUnpack_structPack hframe]

/-- Rounding a scaled coordinate moves it by at most half a step. -/
theorem abs_scaled_sub_le (q : ℚ) : |(roundHalfEven (q * 1000000) : ℚ) / 1000000 - q| ≤ 0.0000005 := by
  have h := abs_roundHalfEven_sub_le (q * 1000000)
  rw [abs_le] at h ⊢
  constructor <;> linarith

/-- What a packet tells of the fields that were encoded. -/
structure Tells (packet : MicroTelemetryPacket) (fields : TelemetryFields) : Prop where
  crcValid : packet.crcValid = true
  nodeId : packet.nodeId = fields.nodeId
  sequenceId : packet.sequenceId = fields.sequenceId
  timestampUnix : packet.timestampUnix = fields.timestampUnix
  altitudeM : packet.altitudeM = fields.altitudeM
  threatFactorFlags : packet.threatFactorFlags = fields.threatFlags
  linkQualityRssiDbm : packet.linkQualityRssiDbm = fields.rssiDbm
  latitude : |packet.latitude - fields.latitude| ≤ 0.0000005
  longitude : |packet.longitude - fields.longitude| ≤ 0.0000005
  riskScoreByte : packet.riskScoreByte = roundHalfEven (255 * max 0 (min 1 fields.riskScore))
  batteryLevelPct : packet.batteryLevelPct = max 0 (min 100 fields.batteryPct)

theorem decode_encode {frame : List UInt8} (h : encode fields = some frame) :
    frame.length = 26 ∧ ∃ packet, decode frame = .ok packet ∧ Tells packet fields := by
  obtain ⟨header, crc, hheader, hcrc, rfl⟩ := encode_eq_some_iff.mp h
  obtain ⟨hlength, hdecode⟩ := decode_eq hheader hcrc
  have hrisk : riskByte fields = roundHalfEven (255 * max 0 (min 1 fields.riskScore)) := by
    rw [riskByte, mul_comm]
  exact ⟨hlength, _, hdecode, decide_eq_true rfl, rfl, rfl, rfl, rfl, rfl, rfl,
    abs_scaled_sub_le _, abs_scaled_sub_le _, hrisk, rfl⟩

/-- Scaling what was decoded gives the packed value back. -/
theorem roundHalfEven_scaled (n : ℤ) : roundHalfEven ((n : ℚ) / 1000000 * 1000000) = n := by
  rw [div_mul_cancel₀ _ (by norm_num), roundHalfEven_intCast]

theorem roundHalfEven_risk {n : ℤ} (hlow : 0 ≤ n) (hhigh : n ≤ 255) :
    roundHalfEven (max 0 (min 1 ((n : ℚ) / 255)) * 255) = n := by
  have hlow' : (0 : ℚ) ≤ n / 255 := div_nonneg (by exact_mod_cast hlow) (by norm_num)
  have hhigh' : (n : ℚ) / 255 ≤ 1 := by
    rw [div_le_one (by norm_num)]
    exact_mod_cast hhigh
  rw [min_eq_right hhigh', max_eq_right hlow', div_mul_cancel₀ _ (by norm_num),
    roundHalfEven_intCast]

theorem encode_decode {frame : List UInt8} (h : frame.length = 26) :
    ∃ packet, decode frame = .ok packet ∧
      (packet.crcValid = true → packet.batteryLevelPct ≤ 100 →
        encode (fieldsOf packet) = some frame) := by
  have hsize : frame.length = calcsize packFormat := h
  obtain ⟨values, hunpack, hvalues⟩ := structUnpack_isSome hsize
  have hpack := structPack_structUnpack hunpack
  match values, hvalues with
  | [nodeId, seqId, ts, lat, lon, alt, flags, risk, rssi, bat, crc], _ =>
    have hparts : structPack (headerFormat ++ [.H])
        ([nodeId, seqId, ts, lat, lon, alt, flags, risk, rssi, bat] ++ [crc]) = some frame := hpack
    obtain ⟨header, crcBytes, hheader, hcrc, rfl⟩ := (structPack_append rfl).mp hparts
    refine ⟨_, (decode_eq hheader hcrc).2, fun hvalid hbattery => ?_⟩
    have hrange := structPack_isSome.mp (Option.isSome_iff_exists.mpr ⟨_, hheader⟩)
    simp only [headerFormat, List.forall₂_cons] at hrange
    obtain ⟨-, -, -, -, -, -, -, hrisk, -, hbat, -⟩ := hrange
    rw [FieldFormat.inRange_of_unsigned rfl, FieldFormat.width] at hrisk hbat
    have hcrcEq : (computeCrc16 header : ℤ) = crc := of_decide_eq_true hvalid
    refine encode_eq_some_iff.mpr ⟨header, crcBytes, ?_, hcrcEq ▸ hcrc, rfl⟩
    have hbatteryByte : max 0 (min 100 bat) = bat := by
      rw [min_eq_right hbattery, max_eq_right hbat.1]
    rw [← hheader, headerValues, latScaled, lonScaled, riskByte, batteryByte, fieldsOf,
      roundHalfEven_scaled, roundHalfEven_scaled,
      roundHalfEven_risk hrisk.1 (Int.le_of_lt_add_one hrisk.2), hbatteryByte]

/-- Frames and fields determine each other, up to the scaling and the clamps. -/
theorem compactCodec_roundTrip :
    (∀ fields frame, encode fields = some frame →
      frame.length = 26 ∧ ∃ packet, decode frame = .ok packet ∧ Tells packet fields) ∧
    (∀ fields, (encode fields).isSome ↔ Fits fields) ∧
    (∀ frame : List UInt8, frame.length = 26 → ∃ packet, decode frame = .ok packet ∧
      (packet.crcValid = true → packet.batteryLevelPct ≤ 100 →
        encode (fieldsOf packet) = some frame)) :=
  ⟨fun _ _ => decode_encode, fun _ => encode_isSome, fun _ => encode_decode⟩

end Encode

end CompactBinaryProtocolCodec

end ContinuityOS.Embedded
