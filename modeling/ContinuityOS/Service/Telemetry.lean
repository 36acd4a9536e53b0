import ContinuityOS.Fusion.Source
import ContinuityOS.Library.Hmac
import ContinuityOS.Service.HandlerRules

/-! # Operator telemetry

Signed observations arrive as operator observations or inside cloud events. Both endpoints
look the request up among the stored responses first, and accept its payload only when
nothing is stored: the signature is verified, the observation normalized, its sequence
claimed, and then the ledger and the stored responses are extended.
-/
namespace ContinuityOS.Service
open Library Handler

/-- A rejection that is answered with its text, or an exception of another kind. -/
inductive TelemetryError where
  | rejected (detail : String)
  | uncaught
deriving DecidableEq

def TelemetryError.toHttp : TelemetryError → HttpError
  | .rejected detail => ⟨401, detail⟩
  | .uncaught => internalServerError

inductive FloatValue where
  | finite (value : ℚ)
  | notFinite
deriving DecidableEq

/-- The number that a float literal and a text are converted to, if any. -/
structure FloatReading where
  ofLiteral : String → FloatValue
  ofText : String → Option FloatValue

deriving instance DecidableEq for Observation

/-- An observation with what operator telemetry says of its origin. -/
structure OperatorObservation extends Observation where
  uri : String
  retrievedAt : Instant
  contentSha256 : String
  licence : String
  tenantId : String
  assetId : String
  sequence : ℤ
deriving DecidableEq

/-- The configured secret, and what the service leaves to the language and to libraries: the
reading of numbers and times, the texts of values, observations and validation errors, and the
JSON bytes with sorted keys, for values that have them. -/
structure Platform where
  operatorWebhookSecret : Option String
  int : IntReading
  float : FloatReading
  fromisoformat : String → Except String Instant
  str : Json → String
  repr : String → String
  validationText : MetricName → String → FloatValue → FloatValue → String
  observationText : OperatorObservation → String
  dumpsSorted : Json → Option (List UInt8)

namespace Platform
variable (p : Platform)

def strOf : Json → String
  | .string text => text
  | value => p.str value

def floatOf : Json → Except TelemetryError FloatValue
  | .int n => .ok (.finite n)
  | .bool b => .ok (.finite (if b then 1 else 0))
  | .float literal => .ok (p.float.ofLiteral literal)
  | .string text =>
    match p.float.ofText text with
    | some value => .ok value
    | none => .error (.rejected ("could not convert string to float: " ++ p.repr text))
  | _ => .error .uncaught

end Platform

section Signature

def prefixRemoved (start text : String) : String :=
  if start.toList.isPrefixOf text.toList then String.ofList (text.toList.drop start.toList.length)
  else text

/-- The hexadecimal signature of a body at a time. -/
def expectedSignature (secret timestamp : String) (body : List UInt8) : String :=
  hmacHexdigest (encodeUtf8 secret.toList) (encodeUtf8 (timestamp ++ ".").toList ++ body)

/-- Texts outside ASCII cannot be compared. -/
def verifyOperatorSignature (p : Platform) (body : List UInt8) (timestamp signature secret : String)
    (now : ℤ) (maximumSkewSeconds : ℤ := 300) : Except TelemetryError Unit :=
  match p.int.ofText timestamp with
  | none => .error (.rejected "invalid timestamp")
  | some value =>
    if maximumSkewSeconds < |now - value| then
      .error (.rejected "timestamp outside allowed skew")
    else if (prefixRemoved "sha256=" signature).toList.any fun c => 128 ≤ c.toNat then
      .error .uncaught
    else if expectedSignature secret timestamp body = prefixRemoved "sha256=" signature then .ok ()
    else .error (.rejected "signature mismatch")

end Signature

section Normalization

/-- A value of the payload that must be there. -/
def item (payload : Members) (key : String) : Except TelemetryError Json :=
  match Bindings.lookup payload key with
  | some value => .ok value
  | none => .error (.rejected ("'" ++ key ++ "'"))

def isBlank (text : String) : Bool := text.toList.all isStripped

def nonBlankText (detail : String) : Option Json → Except TelemetryError String
  | some (.string text) => if isBlank text then .error (.rejected detail) else .ok text
  | _ => .error (.rejected detail)

/-- Booleans count as integers. -/
def nonnegativeInteger (detail : String) : Option Json → Except TelemetryError ℤ
  | some (.int n) => if n < 0 then .error (.rejected detail) else .ok n
  | some (.bool b) => .ok (if b then 1 else 0)
  | _ => .error (.rejected detail)

def metricNames : List MetricName :=
  [.seaIceConcentration, .seaIceExtentAnomaly, .earthObservationCoverage, .windSeverity,
    .waveSeverity, .portGeometry, .portCapacity, .portAvailability, .aisTrafficIndex,
    .tradeDependency, .satelliteGeometryDensity, .satcomAvailability, .cyberControlHealth,
    .dataIntegrity, .insuranceAvailability, .geopoliticalPressure, .escortCapacity, .inventoryDays,
    .weatherAlertActivity, .disasterEventActivity, .casualtyCount, .injuredCount, .evacuationCount,
    .utilityImpactCount, .waterLevel, .uavLinkMargin, .uavSwarmCohesion, .starlinkLatencyMs,
    .starlinkDownlinkMbps, .starlinkObstructionRate, .cuasThreatDensity, .cuasJammingActive,
    .railNetworkFluidity, .mineralReserveDays, .refineryCapacityUtilization,
    .borderCrossingDelayHours, .demurrageRiskIndex, .lockOperationalStatus,
    .permafrostThawDepthCm, .wildfireIndexFwi, .darkVesselProximityKm, .sarSatelliteExposureIndex,
    .acousticAnomalyLevel, .seabedCableIntegrity, .emconComplianceScore]

def metricNamed (p : Platform) (text : String) : Except TelemetryError MetricName :=
  match metricNames.find? fun metric => metric.value = text with
  | some metric => .ok metric
  | none => .error (.rejected (p.repr text ++ " is not a valid MetricName"))

/-- The metrics that operators may send, with what they assert. -/
def assertionMap : MetricName → Option AssertionClass
  | .portCapacity => some .liveCapacity
  | .portAvailability => some .liveAvailability
  | .satcomAvailability => some .liveAvailability
  | .cyberControlHealth => some .cyberHealth
  | .dataIntegrity => some .cyberHealth
  | .insuranceAvailability => some .insuranceAccess
  | .escortCapacity => some .liveCapacity
  | .inventoryDays => some .liveCapacity
  | _ => none

def assertionOf (metric : MetricName) : Except TelemetryError AssertionClass :=
  match assertionMap metric with
  | some assertion => .ok assertion
  | none => .error (.rejected ("operator telemetry metric not accepted: " ++ metric.value))

/-- Every Z becomes an offset before a time is read. -/
def observedAtText (text : String) : String :=
  String.ofList (text.toList.flatMap fun c => if c = 'Z' then "+00:00".toList else [c])

def timeOf (p : Platform) (text : String) : Except TelemetryError Instant :=
  match p.fromisoformat (observedAtText text) with
  | .ok time => .ok time
  | .error detail => .error (.rejected detail)

def buildObservation (p : Platform) (observationId : String) (assertionClass : AssertionClass)
    (metric : MetricName) (unit : String) (observedAt : Instant) (value confidence : FloatValue)
    (metadata : Dict String MetadataValue) : Except TelemetryError Observation :=
  match value, confidence with
  | .finite v, .finite c =>
    if h : (1 ≤ unit.length ∧ unit.length ≤ 32) ∧ (0 ≤ c ∧ c ≤ 1) ∧ ValidValue metric unit v then
      .ok
        { observationId := observationId
          sourceId := "operator-telemetry"
          sourceTrust := .authenticatedOperator
          assertionClass := assertionClass
          metric := metric
          value := v
          unit := unit
          observedAt := observedAt
          confidence := ⟨c, h.2.1⟩
          metadata := metadata
          validValue := h.2.2
          ordered := ordered_none observedAt }
    else .error (.rejected (p.validationText metric unit value confidence))
  | _, _ => .error (.rejected (p.validationText metric unit value confidence))

def confidenceOf (p : Platform) (payload : Members) : Except TelemetryError FloatValue :=
  match Bindings.lookup payload "confidence" with
  | none => .ok (.finite (95 / 100))
  | some found => p.floatOf found

def operatorMetadata (tenantId assetId : String) : Dict String MetadataValue :=
  ((Dict.empty.set "tenant_id" (.text tenantId)).set "asset_id" (.text assetId)).set "sequence"
    .scalar

def normalizedOperatorObservation (p : Platform) (observationId : String) (retrievedAt : Instant)
    (payload : Members) (body : List UInt8) : Except TelemetryError OperatorObservation := do
  let tenantId ← nonBlankText "operator telemetry requires tenant_id"
    (Bindings.lookup payload "tenant_id")
  let assetId ← nonBlankText "operator telemetry requires asset_id"
    (Bindings.lookup payload "asset_id")
  let sequence ← nonnegativeInteger "operator telemetry requires a non-negative integer sequence"
    (Bindings.lookup payload "sequence")
  let metric ← metricNamed p (p.strOf (← item payload "metric"))
  let assertionClass ← assertionOf metric
  let observedAt ← timeOf p (p.strOf (← item payload "observed_at"))
  let value ← p.floatOf (← item payload "value")
  let unit ← item payload "unit"
  let confidence ← confidenceOf p payload
  let observation ← buildObservation p observationId assertionClass metric (p.strOf unit) observedAt
    value confidence (operatorMetadata tenantId assetId)
  return { observation with
    uri := "operator://" ++ tenantId ++ "/" ++ assetId
    retrievedAt := retrievedAt
    contentSha256 := String.ofList (hexEncode (sha256 body))
    licence := "customer-controlled"
    tenantId := tenantId
    assetId := assetId
    sequence := sequence }

end Normalization

section Endpoints

structure TelemetryResponse where
  accepted : Bool
  observation : OperatorObservation
deriving DecidableEq

/-- The texts of floats and times are left to the caller. -/
def OperatorObservation.toJson (floatText : ℚ → String) (timeText : Instant → String)
    (o : OperatorObservation) : Json :=
  .object [("observation_id", .string o.observationId), ("source_id", .string o.sourceId),
    ("source_trust", .string o.sourceTrust.value),
    ("assertion_class", .string o.assertionClass.value), ("metric", .string o.metric.value),
    ("value", .float (floatText o.value)), ("unit", .string o.unit),
    ("observed_at", .string (timeText o.observedAt)), ("valid_until", .null), ("location", .null),
    ("confidence", .float (floatText o.confidence.val)),
    ("provenance", .object [("uri", .string o.uri),
      ("retrieved_at", .string (timeText o.retrievedAt)),
      ("content_sha256", .string o.contentSha256), ("snapshot_id", .null),
      ("licence", .string o.licence)]),
    ("metadata", .object [("tenant_id", .string o.tenantId), ("asset_id", .string o.assetId),
      ("sequence", .int o.sequence)])]

def TelemetryResponse.toJson (floatText : ℚ → String) (timeText : Instant → String)
    (r : TelemetryResponse) : Json :=
  .object [("accepted", .bool r.accepted), ("observation", r.observation.toJson floatText timeText)]

structure ContinuityCloudEvent where
  specversion : String
  id : String
  type : String
  source : String
  subject : Option String
  time : String
  datacontenttype : String
  data : Members
  extra : Members := []

def ContinuityCloudEvent.modelDump (event : ContinuityCloudEvent) : Json :=
  .object <|
    [("specversion", .string event.specversion), ("id", .string event.id),
      ("type", .string event.type), ("source", .string event.source),
      ("subject", match event.subject with
        | some subject => .string subject
        | none => .null),
      ("time", .string event.time), ("datacontenttype", .string event.datacontenttype),
      ("data", .object event.data)] ++ event.extra

def supportedCloudEventTypes : List String := ["com.continuityos.operator.observation.v1"]

/-- What is posted, and to which endpoint. -/
inductive Content where
  | operatorObservation (payload : Members)
  | cloudEvent (event : ContinuityCloudEvent)

/-- How the writes of the sequence, the ledger and the response end. -/
structure Fates where
  claim : Fate := .returns
  append : Fate := .returns
  save : Fate := .returns

/-- A request to one of the endpoints, with the time and the identifier it is handled with and
the fates of its writes. -/
structure Submission where
  request : Request
  timestamp : String
  signature : String
  content : Content
  now : Instant
  observationId : String
  fates : Fates := {}

def Submission.seconds (q : Submission) : ℤ := q.now / 1000000

def Submission.payload (q : Submission) : Members :=
  match q.content with
  | .operatorObservation payload => payload
  | .cloudEvent event => event.data

def telemetryDisabled : HttpError := ⟨503, "telemetry disabled"⟩

def replayRejected : HttpError := ⟨409, "telemetry replay rejected"⟩

def unsupportedType : HttpError := ⟨422, "unsupported CloudEvent type"⟩

variable (p : Platform) (codec : ResponseCodec TelemetryResponse)

def serialized (value : Json) : Except HttpError (List UInt8) :=
  match p.dumpsSorted value with
  | some body => .ok body
  | none => .error internalServerError

section Accept
variable (q : Submission)

/-- The observation of a payload that is signed and well formed and comes from its source. -/
def authenticObservation (secret : String) (payload : Members) (body : List UInt8) :
    Except TelemetryError OperatorObservation := do
  verifyOperatorSignature p body q.timestamp q.signature secret q.seconds
  let observation ← normalizedOperatorObservation p q.observationId q.now payload body
  match Fusion.validateObservationSource observation.toObservation with
  | .ok _ => return observation
  | .error e => throw (.rejected e.message)

def validatedObservation (payload : Members) (body : List UInt8) :
    Except HttpError OperatorObservation :=
  match p.operatorWebhookSecret with
  | none => .error telemetryDisabled
  | some secret =>
    match authenticObservation p q secret payload body with
    | .ok observation => .ok observation
    | .error e => .error e.toHttp

def claimObservation (observation : OperatorObservation) : Handler Bool :=
  replaceStore q.fates.claim fun store =>
    store.claimSequence p.int observation.tenantId observation.assetId observation.sequence

def observationRecord (observation : OperatorObservation) : LedgerRecord :=
  ⟨"operator_observation", observation.observationId, p.observationText observation⟩

def appendObservation (observation : OperatorObservation) : Handler Unit := fun s =>
  match q.fates.append with
  | .returns => (.ok (), s.append (observationRecord p observation))
  | .failsBefore => (.error internalServerError, s)
  | .failsAfter => (.error internalServerError, s.append (observationRecord p observation))

def saveObservation (context : IdempotencyContext) (response : TelemetryResponse) :
    Handler Unit :=
  match context.key, context.fingerprint with
  | some key, some fingerprint => do
    let _ ← replaceStore q.fates.save fun store =>
      some <$> store.saveIdempotent "operator-observations" key fingerprint (codec.dump response)
    return ()
  | _, _ => pure ()

def acceptOperatorPayload (payload : Members) (body : List UInt8) (context : IdempotencyContext) :
    Handler TelemetryResponse := do
  let observation ← lift (validatedObservation p q payload body)
  let claimed ← claimObservation p q observation
  if claimed then do
    appendObservation p q observation
    let response := ⟨true, observation⟩
    saveObservation codec q context response
    return response
  else raise replayRejected

def ingestOperatorObservation (payload : Members) : Handler TelemetryResponse := do
  let context ← lookupIdempotency q.request "operator-observations"
  match context.cached with
  | some text => lift (codec.cachedResponse text)
  | none => do
    let body ← lift (serialized p (.object payload))
    acceptOperatorPayload p codec q payload body context

/-- The key in the header, or else the identifier of the event. -/
def eventKey (request : Request) (event : ContinuityCloudEvent) : String :=
  match request.idempotencyKey with
  | some key => if key = "" then event.id else key
  | none => event.id

def ingestCloudevent (event : ContinuityCloudEvent) : Handler TelemetryResponse :=
  if event.type ∈ supportedCloudEventTypes then do
    let body ← lift (serialized p event.modelDump)
    let context ← lookupIdempotency ⟨some (eventKey q.request event), body, q.request.query⟩
      "operator-observations"
    match context.cached with
    | some text => lift (codec.cachedResponse text)
    | none => acceptOperatorPayload p codec q event.data body context
  else raise unsupportedType

def ingest : Handler TelemetryResponse :=
  match q.content with
  | .operatorObservation payload => ingestOperatorObservation p codec q payload
  | .cloudEvent event => ingestCloudevent p codec q event

end Accept

end Endpoints

end ContinuityOS.Service
