import ContinuityOS.Crypto.MerkleTree
import ContinuityOS.Evidence.Record
import ContinuityOS.Library.Dict
import ContinuityOS.Library.JsonText
import ContinuityOS.Library.Text

/-! # Reports across a data diode

A report carries the digest of its corridor summaries and a signature over that digest. The
enclave and the classifications are under neither, and a report without a signature is let in.
-/
namespace ContinuityOS.Federation
open Library Crypto Evidence

/-- Numbers have the text of their value. -/
structure TacticalCorridorSummary where
  corridorId : String
  corridorName : String
  effectiveState : String
  resilienceScore : String
  replenishmentHorizonDays : String
  hasActiveThreat : Bool
deriving DecidableEq

structure FederatedEnclaveReport where
  reportId : String
  originEnclaveId : String
  originClassification : String
  exportedClassification : String
  generatedAt : String
  corridorSummaries : List TacticalCorridorSummary
  sha256Digest : String
  signatureHex : String
deriving DecidableEq

/-- The conversions of the values in a corridor. -/
structure Builtins (α : Type) where
  str : α → String
  float : α → Except String String
  bool : α → Bool

def TacticalCorridorSummary.modelDump (s : TacticalCorridorSummary) : Json :=
  .object [("corridor_id", .string s.corridorId), ("corridor_name", .string s.corridorName),
    ("effective_state", .string s.effectiveState), ("resilience_score", .float s.resilienceScore),
    ("replenishment_horizon_days", .float s.replenishmentHorizonDays),
    ("has_active_threat", .bool s.hasActiveThreat)]

def payloadRepr (summaries : List TacticalCorridorSummary) : List Char :=
  (Json.array (summaries.map TacticalCorridorSummary.modelDump)).sortKeys.dumpsDefault

def digestOf (summaries : List TacticalCorridorSummary) : String :=
  hexdigest (encodeUtf8 (payloadRepr summaries))

section Create
variable {α : Type} {ed : Ed25519} (builtins : Builtins α)

def summarize (c : Dict String α) : Except String TacticalCorridorSummary := do
  let resilienceScore ← match c.get? "score" with
    | some value => builtins.float value
    | none => .ok "1.0"
  let replenishmentHorizonDays ← match c.get? "replenishment_days" with
    | some value => builtins.float value
    | none => .ok "45.0"
  return {
    corridorId := ((c.get? "id").map builtins.str).getD "c-unknown"
    corridorName := ((c.get? "name").map builtins.str).getD "Unknown Corridor"
    effectiveState := ((c.get? "state").map builtins.str).getD "HEALTHY"
    resilienceScore := resilienceScore
    replenishmentHorizonDays := replenishmentHorizonDays
    hasActiveThreat := ((c.get? "has_threat").map builtins.bool).getD false }

def createTacticalReport (enclaveId classification : String) (corridors : List (Dict String α))
    (signingKey : Option ed.PrivateKey) (generatedAt : String) :
    Except String FederatedEnclaveReport := do
  let summaries ← corridors.mapM (summarize builtins)
  let digest := digestOf summaries
  let sigHex := match signingKey with
    | none => ""
    | some key => String.ofList (hexEncode (ed.sign key (encodeUtf8 digest.toList)))
  return {
    reportId := "FED-" ++ enclaveId ++ "-" ++ String.ofList (digest.toList.take 8)
    originEnclaveId := enclaveId
    originClassification := classification
    exportedClassification := "PROTECTED_B // REL_ALLIED"
    generatedAt := generatedAt
    corridorSummaries := summaries
    sha256Digest := digest
    signatureHex := sigHex }

end Create

section Ingest
variable {ed : Ed25519} (modelValidate : String → Except String FederatedEnclaveReport)

/-- A signature that is not hexadecimal does not verify. -/
def signatureVerifies (key : ed.PublicKey) (report : FederatedEnclaveReport) : Bool :=
  match hexDecode report.signatureHex.toList with
  | some signature => ed.verify key signature (encodeUtf8 report.sha256Digest.toList)
  | none => false

/-- Texts are read by `modelValidate`, JSON and fields together. -/
def ingestDiodeReport (reportJson : String) (verifyingKey : Option ed.PublicKey) :
    Bool × String × Option FederatedEnclaveReport :=
  match modelValidate reportJson with
  | .error e => (false, "MALFORMED_PAYLOAD: " ++ e, none)
  | .ok report =>
    if digestOf report.corridorSummaries ≠ report.sha256Digest then
      (false, "TAMPER_DETECTED: Digest mismatch", none)
    else
      match verifyingKey with
      | some key =>
        if report.signatureHex ≠ "" ∧ ¬ signatureVerifies key report then
          (false, "SIGNATURE_INVALID: Cryptographic verification failed", none)
        else (true, "VERIFIED", some report)
      | none => (true, "VERIFIED", some report)

end Ingest

section Authentic
variable {α : Type} {ed : Ed25519} {builtins : Builtins α} {key : ed.PrivateKey}
  {made : Set FederatedEnclaveReport}
  {modelValidate : String → Except String FederatedEnclaveReport}

/-- The reports are made with the signing key. -/
def MadeWith (builtins : Builtins α) (key : ed.PrivateKey) (made : Set FederatedEnclaveReport) :
    Prop :=
  ∀ r ∈ made, ∃ enclaveId classification corridors generatedAt,
    createTacticalReport builtins enclaveId classification corridors (some key) generatedAt = .ok r

/-- What the signature verifies for is the digest of a report made with the key. -/
def Unforged (key : ed.PrivateKey) (made : Set FederatedEnclaveReport) (signatureHex : String) :
    Prop :=
  ∀ signature message, hexDecode signatureHex.toList = some signature →
    ed.verify (ed.publicKey key) signature message = true →
    ∃ r ∈ made, message = encodeUtf8 r.sha256Digest.toList

def SameHeader (r report : FederatedEnclaveReport) : Prop :=
  r.originEnclaveId = report.originEnclaveId ∧
    r.originClassification = report.originClassification ∧
    r.exportedClassification = report.exportedClassification

/-- Signed, and made with the same header and summaries. -/
def Authentic (made : Set FederatedEnclaveReport) (report : FederatedEnclaveReport) : Prop :=
  report.signatureHex ≠ "" ∧
    ∃ r ∈ made, SameHeader r report ∧ r.corridorSummaries = report.corridorSummaries

/-- The lists of summaries that are compared by their digests. -/
def comparedSummaries (made : Set FederatedEnclaveReport)
    (modelValidate : String → Except String FederatedEnclaveReport) (reportJson : String) :
    Set (List TacticalCorridorSummary) :=
  {summaries | (∃ r ∈ made, summaries = r.corridorSummaries) ∨
    ∃ report, modelValidate reportJson = .ok report ∧ summaries = report.corridorSummaries}

theorem createTacticalReport_digest {enclaveId classification generatedAt : String}
    {corridors : List (Dict String α)} {signingKey : Option ed.PrivateKey}
    {r : FederatedEnclaveReport}
    (h : createTacticalReport builtins enclaveId classification corridors signingKey generatedAt =
      .ok r) : r.sha256Digest = digestOf r.corridorSummaries := by
  rw [createTacticalReport] at h
  cases hsummaries : corridors.mapM (summarize builtins) with
  | error e =>
    rw [hsummaries] at h
    cases h
  | ok summaries =>
    rw [hsummaries] at h
    cases h
    rfl

/-- What is let in under a key. -/
theorem ingest_eq_true_iff {reportJson message : String} {key : ed.PublicKey}
    {result : Option FederatedEnclaveReport} :
    ingestDiodeReport modelValidate reportJson (some key) = (true, message, result) ↔
      message = "VERIFIED" ∧ ∃ report, result = some report ∧
        modelValidate reportJson = .ok report ∧
        digestOf report.corridorSummaries = report.sha256Digest ∧
        (report.signatureHex ≠ "" → signatureVerifies key report = true) := by
  rw [ingestDiodeReport]
  constructor
  · intro h
    cases hread : modelValidate reportJson with
    | error e => rw [hread] at h; cases h
    | ok report =>
      rw [hread] at h
      simp only at h
      by_cases hdigest : digestOf report.corridorSummaries = report.sha256Digest
      · rw [if_neg (not_not.mpr hdigest)] at h
        split_ifs at h with hsignature
        · cases h
        · cases h
          refine ⟨rfl, report, rfl, rfl, hdigest, fun hsigned => ?_⟩
          by_contra hverifies
          exact hsignature ⟨hsigned, hverifies⟩
      · rw [if_pos hdigest] at h
        cases h
  · rintro ⟨rfl, report, rfl, hread, hdigest, hsignature⟩
    have hpasses : ¬ (report.signatureHex ≠ "" ∧ ¬ signatureVerifies key report = true) :=
      fun hboth => hboth.2 (hsignature hboth.1)
    simp only [hread, if_neg (not_not.mpr hdigest), if_neg hpasses]

/-- The report is signed and, where reports were made with its digest, has the header of one. -/
def SignedHeader (made : Set FederatedEnclaveReport) (report : FederatedEnclaveReport) : Prop :=
  report.signatureHex ≠ "" ∧ ((∃ r ∈ made, r.sha256Digest = report.sha256Digest) →
    ∃ r ∈ made, r.sha256Digest = report.sha256Digest ∧ SameHeader r report)

/-- A signature that verifies is that of a report made with the same digest. -/
theorem Unforged.same_digest {report : FederatedEnclaveReport}
    (h : Unforged key made report.signatureHex)
    (hverifies : signatureVerifies (ed.publicKey key) report = true) :
    ∃ r ∈ made, r.sha256Digest = report.sha256Digest := by
  rw [signatureVerifies] at hverifies
  cases hsignature : hexDecode report.signatureHex.toList with
  | none =>
    rw [hsignature] at hverifies
    cases hverifies
  | some signature =>
    rw [hsignature] at hverifies
    obtain ⟨r, hr, hmessage⟩ := h signature _ hsignature hverifies
    exact ⟨r, hr, (String.toList_inj.mp (encodeUtf8_injective hmessage)).symm⟩

/-- A report that is let in is authentic exactly when it is signed and its header is that of a
report made with its digest. -/
theorem ingestDiodeReport_authentic_iff (hmade : MadeWith builtins key made)
    (reportJson : String)
    (hunforged : ∀ report, modelValidate reportJson = .ok report →
      Unforged key made report.signatureHex)
    (hinj : Set.InjOn digestOf (comparedSummaries made modelValidate reportJson))
    (message : String) (result : Option FederatedEnclaveReport)
    (haccepted : ingestDiodeReport modelValidate reportJson (some (ed.publicKey key)) =
      (true, message, result)) :
    ∃ report, result = some report ∧ (Authentic made report ↔ SignedHeader made report) := by
  have hdigests : ∀ r ∈ made, r.sha256Digest = digestOf r.corridorSummaries := by
    intro r hr
    obtain ⟨enclaveId, classification, corridors, generatedAt, hcreated⟩ := hmade r hr
    exact createTacticalReport_digest hcreated
  obtain ⟨-, report, rfl, hread, hdigest, hsignature⟩ := ingest_eq_true_iff.mp haccepted
  refine ⟨report, rfl, ?_, ?_⟩
  · rintro ⟨hsigned, r, hr, hheader, hsummaries⟩
    exact ⟨hsigned, fun _ => ⟨r, hr, by rw [hdigests r hr, hsummaries, hdigest], hheader⟩⟩
  · rintro ⟨hsigned, hheader⟩
    obtain ⟨r, hr, hsame, hfields⟩ := hheader ((hunforged report hread).same_digest (hsignature hsigned))
    refine ⟨hsigned, r, hr, hfields, hinj (Or.inl ⟨r, hr, rfl⟩) (Or.inr ⟨report, hread, rfl⟩) ?_⟩
    rw [← hdigests r hr, hsame, hdigest]

end Authentic

section Sample

/-- A key whose only signature is for the digest of no corridors. -/
def diodeScheme : Ed25519 where
  PrivateKey := Unit
  PublicKey := Unit
  publicKey _ := ()
  publicBytes _ := []
  sign _ _ := [1]
  verify _ signature message := signature = [1] ∧ message = encodeUtf8 (digestOf []).toList

def diodeKey : diodeScheme.PrivateKey := ()

def plainBuiltins : Builtins String where
  str value := value
  float value := .ok value
  bool value := value ≠ ""

/-- The one report that is made with the key. -/
def genuineReport : FederatedEnclaveReport where
  reportId := "FED-SCIF-ALERT-" ++ String.ofList ((digestOf []).toList.take 8)
  originEnclaveId := "SCIF-ALERT"
  originClassification := "SECRET"
  exportedClassification := "PROTECTED_B // REL_ALLIED"
  generatedAt := "2026-01-01T00:00:00Z"
  corridorSummaries := []
  sha256Digest := digestOf []
  signatureHex := "01"

/-- Another enclave and classification, without a signature. -/
def unsignedReport : FederatedEnclaveReport where
  reportId := "FED-SCIF-OTHER"
  originEnclaveId := "SCIF-OTHER"
  originClassification := "UNCLASSIFIED"
  exportedClassification := "UNCLASSIFIED"
  generatedAt := "2026-01-01T00:00:00Z"
  corridorSummaries := []
  sha256Digest := digestOf []
  signatureHex := ""

def unsignedText : String := String.ofList (Json.object
  [("report_id", .string "FED-SCIF-OTHER"), ("origin_enclave_id", .string "SCIF-OTHER"),
    ("origin_classification", .string "UNCLASSIFIED"),
    ("exported_classification", .string "UNCLASSIFIED"),
    ("generated_at", .string "2026-01-01T00:00:00Z"), ("corridor_summaries", .array []),
    ("sha256_digest", .string (digestOf []))]).dumpsDefault

def readUnsigned (text : String) : Except String FederatedEnclaveReport :=
  if text = unsignedText then .ok unsignedReport else .error "Invalid JSON"

theorem genuine_madeWith : MadeWith plainBuiltins diodeKey {genuineReport} := by
  intro r hr
  rw [Set.mem_singleton_iff.mp hr]
  exact ⟨"SCIF-ALERT", "SECRET", [], "2026-01-01T00:00:00Z", rfl⟩

theorem genuine_unforged (signatureHex : String) :
    Unforged diodeKey {genuineReport} signatureHex := by
  intro signature message _ hverify
  exact ⟨genuineReport, rfl, (of_decide_eq_true hverify).2⟩

/-- The signed report with the classification lowered. -/
def loweredReport : FederatedEnclaveReport :=
  { genuineReport with originClassification := "UNCLASSIFIED" }

/-- A reader of two texts. -/
def readSigned (text : String) : Except String FederatedEnclaveReport :=
  if text = "genuine" then .ok genuineReport
  else if text = "lowered" then .ok loweredReport
  else .error "Invalid JSON"

/-- Reports of no corridors have the same summaries. -/
theorem injOn_of_empty {modelValidate : String → Except String FederatedEnclaveReport}
    {text : String}
    (hread : ∀ report, modelValidate text = .ok report → report.corridorSummaries = []) :
    Set.InjOn digestOf (comparedSummaries {genuineReport} modelValidate text) := by
  have hempty : ∀ summaries ∈ comparedSummaries {genuineReport} modelValidate text,
      summaries = [] := by
    rintro summaries (⟨r, hr, rfl⟩ | ⟨report, hreport, rfl⟩)
    · rw [Set.mem_singleton_iff.mp hr]
      rfl
    · exact hread report hreport
  intro summaries hsummaries summaries' hsummaries' _
  rw [hempty summaries hsummaries, hempty summaries' hsummaries']

theorem unsigned_injOn :
    Set.InjOn digestOf (comparedSummaries {genuineReport} readUnsigned unsignedText) := by
  refine injOn_of_empty fun report hread => ?_
  rw [readUnsigned, if_pos rfl] at hread
  cases hread
  rfl

theorem signatureVerifies_genuine {report : FederatedEnclaveReport}
    (hsignature : report.signatureHex = "01") (hdigest : report.sha256Digest = digestOf []) :
    signatureVerifies (diodeScheme.publicKey diodeKey) report = true := by
  have hdecode : hexDecode "01".toList = some [1] := by decide
  rw [signatureVerifies, hsignature, hdecode, hdigest]
  simp [diodeScheme]

theorem genuine_accepted : @ingestDiodeReport diodeScheme readSigned "genuine"
    (some (diodeScheme.publicKey diodeKey)) = (true, "VERIFIED", some genuineReport) :=
  ingest_eq_true_iff.mpr
    ⟨rfl, genuineReport, rfl, if_pos rfl, rfl, fun _ => signatureVerifies_genuine rfl rfl⟩

theorem lowered_accepted : @ingestDiodeReport diodeScheme readSigned "lowered"
    (some (diodeScheme.publicKey diodeKey)) = (true, "VERIFIED", some loweredReport) :=
  ingest_eq_true_iff.mpr
    ⟨rfl, loweredReport, rfl, rfl, rfl, fun _ => signatureVerifies_genuine rfl rfl⟩

/-- Both reports carry a signature that verifies; the header of one was changed. -/
theorem ingest_authentic_signed :
    (∃ report, some genuineReport = some report ∧
      (Authentic {genuineReport} report ↔ SignedHeader {genuineReport} report)) ∧
    (∃ report, some loweredReport = some report ∧
      (Authentic {genuineReport} report ↔ SignedHeader {genuineReport} report)) ∧
    SignedHeader {genuineReport} genuineReport ∧ ¬ SignedHeader {genuineReport} loweredReport := by
  refine ⟨?_, ?_, ?_, ?_⟩
  · refine ingestDiodeReport_authentic_iff genuine_madeWith "genuine"
      (fun _ _ => genuine_unforged _) (injOn_of_empty fun report hread => ?_) "VERIFIED" _ genuine_accepted
    rw [readSigned, if_pos rfl] at hread
    cases hread
    rfl
  · refine ingestDiodeReport_authentic_iff genuine_madeWith "lowered"
      (fun _ _ => genuine_unforged _) (injOn_of_empty fun report hread => ?_) "VERIFIED" _ lowered_accepted
    rw [readSigned, if_neg (by decide), if_pos rfl] at hread
    cases hread
    rfl
  · exact ⟨by decide, fun _ => ⟨genuineReport, rfl, rfl, rfl, rfl, rfl⟩⟩
  · rintro ⟨-, hheader⟩
    obtain ⟨r, hr, -, -, hclassification, -⟩ := hheader ⟨genuineReport, rfl, rfl⟩
    rw [Set.mem_singleton_iff.mp hr] at hclassification
    exact absurd hclassification (by decide)

/-- A report of an enclave that has made none is let in under the key. -/
theorem not_ingest_authentic :
    ¬ ∀ (ed : Ed25519) (key : ed.PrivateKey) (builtins : Builtins String)
      (made : Set FederatedEnclaveReport)
      (modelValidate : String → Except String FederatedEnclaveReport) (reportJson : String),
      MadeWith builtins key made →
      (∀ signatureHex, Unforged key made signatureHex) →
      Set.InjOn digestOf (comparedSummaries made modelValidate reportJson) →
      ∀ message result,
        ingestDiodeReport modelValidate reportJson (some (ed.publicKey key)) =
          (true, message, result) →
        ∃ report, result = some report ∧ ∃ r ∈ made, SameHeader r report ∧
          r.corridorSummaries = report.corridorSummaries := by
  intro h
  have haccepted : ingestDiodeReport readUnsigned unsignedText
      (some (diodeScheme.publicKey diodeKey)) = (true, "VERIFIED", some unsignedReport) :=
    ingest_eq_true_iff.mpr
      ⟨rfl, unsignedReport, rfl, if_pos rfl, rfl, fun hsigned => absurd rfl hsigned⟩
  obtain ⟨report, hreport, r, hr, ⟨henclave, -⟩, -⟩ := h diodeScheme diodeKey plainBuiltins
    {genuineReport} readUnsigned unsignedText genuine_madeWith genuine_unforged unsigned_injOn
    _ _ haccepted
  rw [← Option.some.inj hreport, Set.mem_singleton_iff.mp hr] at henclave
  exact absurd henclave (by decide)

end Sample

end ContinuityOS.Federation
