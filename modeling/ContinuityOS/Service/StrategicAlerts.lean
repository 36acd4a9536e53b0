import ContinuityOS.Service.Handler

/-! # Strategic alerts

An analysis delivers alerts; whether an alert is acknowledged stands in its record, in the
latest report and in the stored response of the request that produced the report.
-/
namespace ContinuityOS.Service
open Library Handler

structure StrategicAlert where
  alertKey : String
  dimension : String
  severity : String
  deliveryState : String := "ready"
  escalationDueAt : Option String := none
deriving DecidableEq

structure StrategicReport where
  reportId : String
  alerts : List StrategicAlert
deriving DecidableEq

def StrategicAlert.members (alert : StrategicAlert) : Members :=
  [("alert_key", .string alert.alertKey), ("dimension", .string alert.dimension),
    ("severity", .string alert.severity), ("delivery_state", .string alert.deliveryState),
    ("escalation_due_at", match alert.escalationDueAt with
      | some time => .string time
      | none => .null)]

def StrategicReport.members (report : StrategicReport) : Members :=
  [("report_id", .string report.reportId),
    ("alerts", .array (report.alerts.map fun alert => .object alert.members))]

def StrategicReport.toJson (report : StrategicReport) : Json := .object report.members

/-- The time of a request: its text, the seconds passed since a text that is a time, and the
text of a later time. -/
structure Moment where
  isoformat : String
  secondsSince : String → Option ℚ
  after : ℕ → String

/-- A value that counts as true; the literal of a float does when it has a digit that is not
zero before its exponent. -/
def truthy : Option Json → Bool
  | none | some .null => false
  | some (.bool b) => b
  | some (.int n) => n ≠ 0
  | some (.float literal) =>
    (literal.toList.takeWhile fun c => c ≠ 'e' && c ≠ 'E').any fun c => '1' ≤ c && c ≤ '9'
  | some (.string text) => text ≠ ""
  | some (.array items) => !items.isEmpty
  | some (.object members) => !members.isEmpty

/-- The record under an alert's key, empty when there is none. -/
def recordOf : Option Json → Members
  | some (.object record) => record
  | _ => []

def acknowledgedIn (found : Option Json) : Bool :=
  truthy (Bindings.lookup (recordOf found) "acknowledged")

def forEachAlert (f : StrategicAlert → Handler StrategicAlert) :
    List StrategicAlert → Handler (List StrategicAlert)
  | [] => pure []
  | alert :: alerts => do
    let alert ← f alert
    let alerts ← forEachAlert f alerts
    return alert :: alerts

section Analyze

/-- An alert of a stored report becomes acknowledged when its record is. -/
def refreshAlert (alert : StrategicAlert) : Handler StrategicAlert := do
  let previous ← getValue "strategic_alerts" alert.alertKey
  return if acknowledgedIn previous then { alert with deliveryState := "acknowledged" } else alert

def inCooldown (moment : Moment) (cooldown : ℚ) : Option Json → Bool
  | some (.string lastEmitted) =>
    match moment.secondsSince lastEmitted with
    | some elapsed => elapsed < cooldown
    | none => false
  | _ => false

def escalationDue (moment : Moment) (alert : StrategicAlert) : Option Json → String
  | some (.string dueAt) => dueAt
  | _ => moment.after (if alert.severity = "critical" then 900 else 3600)

section Delivery
variable (moment : Moment) (cooldown : ℚ) (alert : StrategicAlert) (found : Option Json)

/-- Whether the alert of a found record was emitted within the cooldown. -/
def isCooling : Bool :=
  inCooldown moment cooldown (Bindings.lookup (recordOf found) "last_emitted_at")

def dueAt : String :=
  escalationDue moment alert (Bindings.lookup (recordOf found) "escalation_due_at")

def deliveredRecord : Members :=
  [("acknowledged", .bool (acknowledgedIn found)),
    ("last_emitted_at",
      if isCooling moment cooldown found then
        (Bindings.lookup (recordOf found) "last_emitted_at").getD .null
      else .string moment.isoformat),
    ("escalation_due_at", .string (dueAt moment alert found)),
    ("dimension", .string alert.dimension)]

def deliveredAlert : StrategicAlert :=
  { alert with
    deliveryState :=
      if acknowledgedIn found then "acknowledged"
      else if isCooling moment cooldown found then "cooldown" else "ready"
    escalationDueAt := some (dueAt moment alert found) }

def deliverAlert : Handler StrategicAlert := do
  let found ← getValue "strategic_alerts" alert.alertKey
  setValue "strategic_alerts" alert.alertKey
    (.object (deliveredRecord moment cooldown alert found))
  return deliveredAlert moment cooldown alert found

end Delivery

def replayAnalysis (report : StrategicReport) : Handler StrategicReport := do
  let alerts ← forEachAlert refreshAlert report.alerts
  let report := { report with alerts := alerts }
  setValue "strategic" "latest" report.toJson
  return report

def freshAnalysis (codec : ResponseCodec StrategicReport) (context : IdempotencyContext)
    (moment : Moment) (cooldown : ℚ) (built : StrategicReport) : Handler StrategicReport := do
  let alerts ← forEachAlert (deliverAlert moment cooldown) built.alerts
  let report := { built with alerts := alerts }
  setValue "strategic" "latest" report.toJson
  appendLedger ⟨"strategic_analysis", report.reportId, codec.dump report⟩
  saveResponse "strategic-analyze" context (codec.dump report)
  return report

/-- What the analysis of the request builds, or why it cannot, is left to the caller. -/
def strategicAnalyze (codec : ResponseCodec StrategicReport) (request : Request) (moment : Moment)
    (cooldown : ℚ) (built : Except String StrategicReport) : Handler StrategicReport := do
  let context ← lookupIdempotency request "strategic-analyze"
  match context.cached with
  | some text => do
    let report ← lift (codec.cachedResponse text)
    replayAnalysis report
  | none =>
    match built with
    | .error detail => raise ⟨422, detail⟩
    | .ok built => freshAnalysis codec context moment cooldown built

end Analyze

section Acknowledge

def markAlert (alertKey delivery : String) : Json → Json
  | .object alert =>
    .object (if isText alertKey (Bindings.lookup alert "alert_key") then
      Bindings.assign alert "delivery_state" (.string delivery) else alert)
  | value => value

/-- The report with the delivery state of one alert set. -/
def markLatest (alertKey delivery : String) (latest : Members) : Handler Members :=
  match Bindings.lookup latest "alerts" with
  | some (.array alerts) =>
    pure (Bindings.assign latest "alerts" (.array (alerts.map (markAlert alertKey delivery))))
  | none | some (.string _) | some (.object _) => pure latest
  | _ => raise internalServerError

def invalidAlertKey : HttpError := ⟨400, "invalid alert key"⟩

/-- Marks an alert in the latest report, if there is one. -/
def markStored (alertKey delivery : String) : Handler Unit := do
  let latest ← getValue "strategic" "latest"
  match latest with
  | some (.object members) => do
    let marked ← markLatest alertKey delivery members
    setValue "strategic" "latest" (.object marked)
  | _ => pure ()

def alertRecord (recordType alertKey : String) : LedgerRecord where
  recordType := recordType
  subjectId := alertKey
  payload := String.ofList (Json.object [("alert_key", .string alertKey)]).dumps

/-- Records whether an alert is acknowledged, and marks it in the latest report. -/
def setAcknowledged (acknowledged : Bool) (stampField delivery recordType alertKey : String)
    (moment : Moment) : Handler (String × Bool) :=
  if 512 < alertKey.length ∨ alertKey = "" then raise invalidAlertKey
  else do
    let found ← getValue "strategic_alerts" alertKey
    setValue "strategic_alerts" alertKey <| .object <|
      Bindings.assign (Bindings.assign (recordOf found) "acknowledged" (.bool acknowledged))
        stampField (.string moment.isoformat)
    markStored alertKey delivery
    appendLedger (alertRecord recordType alertKey)
    return (alertKey, acknowledged)

def acknowledgeStrategicAlert : String → Moment → Handler (String × Bool) :=
  setAcknowledged true "acknowledged_at" "acknowledged" "strategic_alert_acknowledgement"

def unacknowledgeStrategicAlert : String → Moment → Handler (String × Bool) :=
  setAcknowledged false "unacknowledged_at" "ready" "strategic_alert_unacknowledgement"

end Acknowledge

section Runs

inductive StrategicEvent where
  | analyze (request : Request) (moment : Moment) (cooldown : ℚ)
      (built : Except String StrategicReport)
  | ack (alertKey : String) (moment : Moment)
  | unack (alertKey : String) (moment : Moment)

/-- The service, and the reports of the analyses that were no replays, newest first, with the
keys of their requests. -/
structure StrategicRun where
  service : ServiceState
  produced : List (Option String × StrategicReport) := []

def strategicStep (codec : ResponseCodec StrategicReport) (run : StrategicRun) :
    StrategicEvent → StrategicRun
  | .analyze request moment cooldown built =>
    let result := strategicAnalyze codec request moment cooldown built run.service
    { service := result.2
      produced :=
        match idempotencyContext run.service.store request "strategic-analyze", result.1 with
        | .ok ⟨key, _, none⟩, .ok report => (key, report) :: run.produced
        | _, _ => run.produced }
  | .ack alertKey moment =>
    { run with service := (acknowledgeStrategicAlert alertKey moment run.service).2 }
  | .unack alertKey moment =>
    { run with service := (unacknowledgeStrategicAlert alertKey moment run.service).2 }

def runStrategic (codec : ResponseCodec StrategicReport) (run : StrategicRun)
    (events : List StrategicEvent) : StrategicRun :=
  events.foldl (strategicStep codec) run

def alertsOf : Json → List Json
  | .object report =>
    match Bindings.lookup report "alerts" with
    | some (.array alerts) => alerts
    | _ => []
  | _ => []

def textField (name : String) : Json → Option String
  | .object members =>
    match Bindings.lookup members name with
    | some (.string text) => some text
    | _ => none
  | _ => none

/-- Each alert of the latest report is acknowledged exactly when its record is. -/
def AlertsConsistent (s : ServiceState) : Prop :=
  ∀ latest ∈ s.store.valueAt "strategic" "latest", ∀ alert ∈ alertsOf latest,
    ∀ key ∈ textField "alert_key" alert,
      (textField "delivery_state" alert = some "acknowledged" ↔
        acknowledgedIn (s.store.valueAt "strategic_alerts" key) = true)

/-- The same report up to the delivery states of its alerts. -/
def SameReport (a b : StrategicReport) : Prop :=
  a.reportId = b.reportId ∧
    a.alerts.map (fun alert => { alert with deliveryState := "" }) =
      b.alerts.map fun alert => { alert with deliveryState := "" }

/-- The latest report is the one of the newest analysis that was no replay. -/
def LatestIsNewest (run : StrategicRun) : Prop :=
  match run.produced with
  | [] => run.service.store.valueAt "strategic" "latest" = none
  | (_, report) :: _ => ∃ stored : StrategicReport,
      run.service.store.valueAt "strategic" "latest" = some stored.toJson ∧
        SameReport stored report

end Runs

end ContinuityOS.Service
