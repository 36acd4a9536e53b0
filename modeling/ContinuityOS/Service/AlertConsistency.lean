import ContinuityOS.Service.StrategicAlerts

/-! # Consistency of alert acknowledgement

Deliveries and marks keep the latest report and the alert records in step. A replay writes an
older report back; it keeps them in step when that report is the newest one and shows no
acknowledgement that was withdrawn since.
-/
namespace ContinuityOS.Service
open Library Handler

/-- Whether an alert's record is acknowledged. -/
def ServiceState.acknowledged (s : ServiceState) (alertKey : String) : Bool :=
  acknowledgedIn (s.store.valueAt "strategic_alerts" alertKey)

section Frames

/-- A sound store with the same acknowledgements, latest report and stored responses. -/
structure KeepsAlerts (s s' : ServiceState) : Prop where
  sound : s'.store.Sound
  acknowledged : ∀ alertKey, s'.acknowledged alertKey = s.acknowledged alertKey
  latest : s'.store.valueAt "strategic" "latest" = s.store.valueAt "strategic" "latest"
  lookup : ∀ space key fingerprint,
    s'.store.getIdempotent space key fingerprint = s.store.getIdempotent space key fingerprint

theorem KeepsAlerts.refl {s : ServiceState} (h : s.store.Sound) : KeepsAlerts s s :=
  ⟨h, fun _ => rfl, rfl, fun _ _ _ => rfl⟩

theorem KeepsAlerts.trans {s t u : ServiceState} (h : KeepsAlerts s t) (h' : KeepsAlerts t u) :
    KeepsAlerts s u where
  sound := h'.sound
  acknowledged alertKey := (h'.acknowledged alertKey).trans (h.acknowledged alertKey)
  latest := h'.latest.trans h.latest
  lookup space key fingerprint :=
    (h'.lookup space key fingerprint).trans (h.lookup space key fingerprint)

/-- A handler on alerts that keeps the state and answers as `R` says. -/
def AlertHandler (f : StrategicAlert → Handler StrategicAlert)
    (R : (String → Bool) → StrategicAlert → StrategicAlert → Prop) : Prop :=
  ∀ s : ServiceState, s.store.Sound → ∀ alert, ∃ alert' s', f alert s = (.ok alert', s') ∧
    KeepsAlerts s s' ∧ R s.acknowledged alert alert'

theorem forEachAlert_run {f : StrategicAlert → Handler StrategicAlert}
    {R : (String → Bool) → StrategicAlert → StrategicAlert → Prop} (hf : AlertHandler f R)
    (alerts : List StrategicAlert) {s : ServiceState} (hs : s.store.Sound) :
    ∃ alerts' s', forEachAlert f alerts s = (.ok alerts', s') ∧ KeepsAlerts s s' ∧
      List.Forall₂ (R s.acknowledged) alerts alerts' := by
  induction alerts generalizing s with
  | nil => exact ⟨[], s, rfl, .refl hs, .nil⟩
  | cons alert alerts ih =>
    obtain ⟨alert', s₁, hrun, hkeeps, hR⟩ := hf s hs alert
    obtain ⟨alerts', s₂, hruns, hkeeps', hRs⟩ := ih hkeeps.sound
    have hsame : s₁.acknowledged = s.acknowledged := funext hkeeps.acknowledged
    refine ⟨alert' :: alerts', s₂, ?_, hkeeps.trans hkeeps', .cons hR (hsame ▸ hRs)⟩
    rw [forEachAlert, bind_run hrun, bind_run hruns]
    rfl

end Frames

section Alerts

/-- A delivered alert shows its acknowledgement. -/
def Delivered (acknowledged : String → Bool) (alert alert' : StrategicAlert) : Prop :=
  alert'.alertKey = alert.alertKey ∧
    (alert'.deliveryState = "acknowledged" ↔ acknowledged alert'.alertKey = true)

/-- A refreshed alert becomes acknowledged, or stays as it is. -/
def Refreshed (acknowledged : String → Bool) (alert alert' : StrategicAlert) : Prop :=
  alert' = if acknowledged alert.alertKey then { alert with deliveryState := "acknowledged" }
    else alert

theorem refreshAlert_run : AlertHandler refreshAlert Refreshed := by
  intro s hs alert
  refine ⟨_, s, ?_, .refl hs, rfl⟩
  rw [refreshAlert, bind_run (getValue_run hs _ _)]
  rfl

theorem deliveredRecord_acknowledged (moment : Moment) (cooldown : ℚ) (alert : StrategicAlert)
    (found : Option Json) :
    acknowledgedIn (some (.object (deliveredRecord moment cooldown alert found))) =
      acknowledgedIn found := by
  simp [acknowledgedIn, recordOf, deliveredRecord, Bindings.lookup, truthy]

theorem deliveredAlert_delivered (moment : Moment) (cooldown : ℚ) (alert : StrategicAlert)
    (s : ServiceState) : Delivered s.acknowledged alert (deliveredAlert moment cooldown alert
      (s.store.valueAt "strategic_alerts" alert.alertKey)) := by
  constructor
  · rfl
  · simp only [deliveredAlert, ServiceState.acknowledged]
    split_ifs <;> simp_all

/-- Delivered alerts all show their acknowledgement. -/
theorem delivered_shows {acknowledged : String → Bool} {alerts alerts' : List StrategicAlert}
    (h : List.Forall₂ (Delivered acknowledged) alerts alerts') : ∀ alert ∈ alerts',
      (alert.deliveryState = "acknowledged" ↔ acknowledged alert.alertKey = true) := by
  induction h with
  | nil => simp
  | cons halert _ ih =>
    rw [List.forall_mem_cons]
    exact ⟨halert.2, ih⟩

theorem deliverAlert_run (moment : Moment) (cooldown : ℚ) :
    AlertHandler (deliverAlert moment cooldown) Delivered := by
  intro s hs alert
  obtain ⟨store, hset, hto⟩ := setValue_run hs "strategic_alerts" alert.alertKey
    (.object (deliveredRecord moment cooldown alert
      (s.store.valueAt "strategic_alerts" alert.alertKey))) (by simp)
  refine ⟨_, ⟨store, s.ledger⟩, ?_, ?_, deliveredAlert_delivered moment cooldown alert s⟩
  · rw [deliverAlert, bind_run (getValue_run hs _ _), bind_run hset]
    rfl
  · constructor
    · exact hto.sound
    · intro alertKey
      rw [ServiceState.acknowledged, hto.value]
      split_ifs with hkey
      · rw [deliveredRecord_acknowledged, hkey.2]
        rfl
      · rfl
    · rw [hto.value, if_neg (by simp)]
    · exact hto.lookup (by decide)

end Alerts

section Latest

/-- Every alert of a report shows whether it is acknowledged. -/
def Shows (s : ServiceState) (report : StrategicReport) : Prop :=
  ∀ alert ∈ report.alerts,
    (alert.deliveryState = "acknowledged" ↔ s.acknowledged alert.alertKey = true)

theorem alertsOf_toJson (report : StrategicReport) :
    alertsOf report.toJson = report.alerts.map fun alert => .object alert.members := rfl

theorem alertsConsistent_of_shows {s : ServiceState} {report : StrategicReport}
    (hlatest : s.store.valueAt "strategic" "latest" = some report.toJson)
    (h : Shows s report) : AlertsConsistent s := by
  intro latest hstored found hfound key hkey
  rw [hlatest, Option.mem_some_iff] at hstored
  subst hstored
  rw [alertsOf_toJson] at hfound
  obtain ⟨alert, halert, rfl⟩ := List.mem_map.mp hfound
  have hkey' : key = alert.alertKey := by
    simpa [textField, StrategicAlert.members, Bindings.lookup, eq_comm] using hkey
  subst hkey'
  have hstate : textField "delivery_state" (.object alert.members) = some alert.deliveryState := by
    simp [textField, StrategicAlert.members, Bindings.lookup]
  rw [hstate, Option.some_inj]
  exact h alert halert

/-- The report after one of its alerts is marked. -/
def StrategicReport.mark (report : StrategicReport) (alertKey delivery : String) :
    StrategicReport :=
  { report with alerts := report.alerts.map fun alert =>
      if alert.alertKey = alertKey then { alert with deliveryState := delivery } else alert }

theorem markAlert_members (alertKey delivery : String) (alert : StrategicAlert) :
    markAlert alertKey delivery (.object alert.members) = .object (StrategicAlert.members
      (if alert.alertKey = alertKey then { alert with deliveryState := delivery } else alert)) := by
  by_cases h : alert.alertKey = alertKey
  · simp [markAlert, StrategicAlert.members, Bindings.lookup, Bindings.assign, isText, h]
  · simp [markAlert, StrategicAlert.members, Bindings.lookup, isText, h]

/-- Marking the stored report marks the report. -/
theorem markLatest_members (alertKey delivery : String) (report : StrategicReport) :
    markLatest alertKey delivery report.members = pure (report.mark alertKey delivery).members := by
  have halerts : (report.alerts.map fun alert => Json.object alert.members).map
      (markAlert alertKey delivery) =
      (report.mark alertKey delivery).alerts.map fun alert => .object alert.members := by
    simp only [StrategicReport.mark, List.map_map]
    apply List.map_congr_left
    intro alert _
    exact markAlert_members alertKey delivery alert
  have hlookup : Bindings.lookup report.members "alerts" =
      some (.array (report.alerts.map fun alert => .object alert.members)) := by
    simp [StrategicReport.members, Bindings.lookup]
  rw [markLatest, hlookup]
  dsimp only
  rw [halerts]
  simp [StrategicReport.members, StrategicReport.mark, Bindings.assign]

theorem mark_sameReport (report : StrategicReport) (alertKey delivery : String) :
    SameReport (report.mark alertKey delivery) report := by
  constructor
  · rfl
  · simp only [StrategicReport.mark, List.map_map]
    apply List.map_congr_left
    intro alert _
    by_cases h : alert.alertKey = alertKey <;> simp [h]

theorem SameReport.trans {a b c : StrategicReport} (h : SameReport a b) (h' : SameReport b c) :
    SameReport a c := ⟨h.1.trans h'.1, h.2.trans h'.2⟩

theorem refreshed_sameReport {s : ServiceState} {report : StrategicReport}
    {alerts : List StrategicAlert}
    (h : List.Forall₂ (Refreshed s.acknowledged) report.alerts alerts) :
    SameReport { report with alerts := alerts } report := by
  constructor
  · rfl
  · dsimp only
    generalize report.alerts = old at h ⊢
    induction h with
    | nil => rfl
    | cons halert _ ih =>
      rw [List.map_cons, List.map_cons, ih, halert]
      split_ifs <;> rfl

end Latest

section Marks
variable {s : ServiceState}

theorem acknowledgedIn_marked (record : Members) (acknowledged : Bool) {stampField stamp : String}
    (hstamp : stampField ≠ "acknowledged") :
    acknowledgedIn (some (.object (Bindings.assign (Bindings.assign record "acknowledged"
      (.bool acknowledged)) stampField (.string stamp)))) = acknowledged := by
  simp [acknowledgedIn, recordOf, Bindings.lookup_assign, hstamp, truthy]

/-- Marking leaves everything but the latest report. -/
theorem markStored_run (hs : s.store.Sound) {latest : Option StrategicReport}
    (hlatest : s.store.valueAt "strategic" "latest" = latest.map StrategicReport.toJson)
    (alertKey delivery : String) :
    ∃ s', markStored alertKey delivery s = (.ok (), s') ∧ s'.store.Sound ∧
      (∀ k, s'.acknowledged k = s.acknowledged k) ∧
      s'.store.valueAt "strategic" "latest" =
        (latest.map fun report => report.mark alertKey delivery).map StrategicReport.toJson ∧
      ∀ space k fingerprint,
        s'.store.getIdempotent space k fingerprint = s.store.getIdempotent space k fingerprint := by
  rw [markStored, bind_run (getValue_run hs _ _), hlatest]
  cases latest with
  | none => exact ⟨s, rfl, hs, fun _ => rfl, hlatest, fun _ _ _ => rfl⟩
  | some report =>
    obtain ⟨store, hset, hto⟩ := setValue_run hs "strategic" "latest"
      (.object (report.mark alertKey delivery).members) (by simp)
    refine ⟨⟨store, s.ledger⟩, ?_, hto.sound, ?_, ?_, hto.lookup (by decide)⟩
    · simp only [Option.map_some, StrategicReport.toJson, markLatest_members]
      rw [bind_run (pure_run _ _), hset]
    · intro k
      rw [ServiceState.acknowledged, hto.value, if_neg (by simp)]
      rfl
    · rw [hto.value, if_pos ⟨rfl, rfl⟩]
      rfl

/-- Recording an acknowledgement changes one record and marks one alert of the latest report. -/
theorem setAcknowledged_run (hs : s.store.Sound) {latest : Option StrategicReport}
    (hlatest : s.store.valueAt "strategic" "latest" = latest.map StrategicReport.toJson)
    (acknowledged : Bool) {stampField : String} (hstamp : stampField ≠ "acknowledged")
    (delivery recordType : String) {alertKey : String}
    (hkey : ¬ (512 < alertKey.length ∨ alertKey = "")) (moment : Moment) :
    ∃ answer s', setAcknowledged acknowledged stampField delivery recordType alertKey moment s =
        (.ok answer, s') ∧ s'.store.Sound ∧
      (∀ k, s'.acknowledged k = if alertKey = k then acknowledged else s.acknowledged k) ∧
      s'.store.valueAt "strategic" "latest" =
        (latest.map fun report => report.mark alertKey delivery).map StrategicReport.toJson ∧
      ∀ space k fingerprint,
        s'.store.getIdempotent space k fingerprint = s.store.getIdempotent space k fingerprint := by
  obtain ⟨store, hset, hto⟩ := setValue_run hs "strategic_alerts" alertKey
    (.object (Bindings.assign (Bindings.assign
      (recordOf (s.store.valueAt "strategic_alerts" alertKey)) "acknowledged"
      (.bool acknowledged)) stampField (.string moment.isoformat))) (by simp)
  have hlatest' : store.valueAt "strategic" "latest" = latest.map StrategicReport.toJson := by
    rw [hto.value, if_neg (by simp), hlatest]
  obtain ⟨t, hmark, hsound, hacknowledged, hmarked, hlookup⟩ :=
    markStored_run (s := ⟨store, s.ledger⟩) hto.sound hlatest' alertKey delivery
  refine ⟨(alertKey, acknowledged), t.append (alertRecord recordType alertKey), ?_, hsound, ?_,
    hmarked, ?_⟩
  · rw [setAcknowledged, if_neg hkey, bind_run (getValue_run hs _ _), bind_run hset,
      bind_run hmark, bind_run (appendLedger_run _ _)]
    rfl
  · intro k
    rw [ServiceState.acknowledged, ServiceState.append_store]
    refine (hacknowledged k).trans ?_
    rw [ServiceState.acknowledged, hto.value]
    by_cases hk : alertKey = k
    · rw [if_pos ⟨rfl, hk⟩, if_pos hk, acknowledgedIn_marked _ _ hstamp]
    · rw [if_neg (fun h => hk h.2), if_neg hk]
      rfl
  · intro space k fingerprint
    rw [ServiceState.append_store, hlookup, hto.lookup (by decide)]

theorem setAcknowledged_invalid (acknowledged : Bool) (stampField delivery recordType : String)
    {alertKey : String} (hkey : 512 < alertKey.length ∨ alertKey = "") (moment : Moment) :
    setAcknowledged acknowledged stampField delivery recordType alertKey moment s =
      (.error invalidAlertKey, s) := by
  rw [setAcknowledged, if_pos hkey]
  rfl

end Marks

section Analyses
variable {codec : ResponseCodec StrategicReport} {s : ServiceState}

/-- A report written as the latest one, the rest of the state kept. -/
structure WritesLatest (s s' : ServiceState) (report : StrategicReport) : Prop where
  sound : s'.store.Sound
  acknowledged : ∀ k, s'.acknowledged k = s.acknowledged k
  latest : s'.store.valueAt "strategic" "latest" = some report.toJson

/-- Writing the latest report after the alerts were handled. -/
theorem setLatest_run {t : ServiceState} (h : KeepsAlerts s t) (report : StrategicReport) :
    ∃ store, setValue "strategic" "latest" report.toJson t = (.ok (), ⟨store, t.ledger⟩) ∧
      WritesLatest s ⟨store, t.ledger⟩ report ∧
      ∀ space key fingerprint,
        store.getIdempotent space key fingerprint = s.store.getIdempotent space key fingerprint := by
  obtain ⟨store, hset, hto⟩ := setValue_run h.sound "strategic" "latest" report.toJson
    (by simp [StrategicReport.toJson])
  refine ⟨store, hset, ⟨hto.sound, ?_, ?_⟩, ?_⟩
  · intro k
    rw [← h.acknowledged k, ServiceState.acknowledged, hto.value, if_neg (by simp)]
    rfl
  · rw [hto.value, if_pos ⟨rfl, rfl⟩]
  · intro space key fingerprint
    rw [hto.lookup (by decide), h.lookup]

theorem replayAnalysis_run (hs : s.store.Sound) (report : StrategicReport) :
    ∃ alerts s', replayAnalysis report s = (.ok { report with alerts := alerts }, s') ∧
      WritesLatest s s' { report with alerts := alerts } ∧
      List.Forall₂ (Refreshed s.acknowledged) report.alerts alerts ∧
      ∀ space key fingerprint,
        s'.store.getIdempotent space key fingerprint = s.store.getIdempotent space key fingerprint := by
  obtain ⟨alerts, t, hrun, hkeeps, hrefreshed⟩ := forEachAlert_run refreshAlert_run report.alerts hs
  obtain ⟨store, hset, hwrites, hlookup⟩ := setLatest_run hkeeps { report with alerts := alerts }
  refine ⟨alerts, ⟨store, t.ledger⟩, ?_, hwrites, hrefreshed, hlookup⟩
  rw [replayAnalysis, bind_run hrun, bind_run hset]
  rfl

/-- A fresh analysis writes a report that shows every acknowledgement, and stores it under the
key of its request. -/
theorem freshAnalysis_run (codec : ResponseCodec StrategicReport) (hs : s.store.Sound)
    {request : Request} {key fingerprint : Option String}
    (hcontext : idempotencyContext s.store request "strategic-analyze" =
      .ok ⟨key, fingerprint, none⟩) (moment : Moment) (cooldown : ℚ) (built : StrategicReport) :
    ∃ report s', freshAnalysis codec ⟨key, fingerprint, none⟩ moment cooldown built s =
        (.ok report, s') ∧ WritesLatest s s' report ∧ Shows s report ∧
      ∀ k ∈ key, ∀ fp text, s'.store.getIdempotent "strategic-analyze" k fp = .ok (some text) →
        text = codec.dump report := by
  obtain ⟨alerts, t, hrun, hkeeps, hdelivered⟩ :=
    forEachAlert_run (deliverAlert_run moment cooldown) built.alerts hs
  obtain ⟨store, hset, hwrites, hlookup⟩ := setLatest_run hkeeps { built with alerts := alerts }
  have hshows : Shows s { built with alerts := alerts } := delivered_shows hdelivered
  rw [freshAnalysis, bind_run hrun, bind_run hset, bind_run (appendLedger_run _ _)]
  rcases idempotencyContext_cases s.store request "strategic-analyze" with
    ⟨e, he⟩ | hnone | ⟨k, cached, -, -, hget, hsome⟩
  · rw [he] at hcontext
    cases hcontext
  · rw [hnone] at hcontext
    cases hcontext
    refine ⟨_, _, rfl, ⟨hwrites.sound, hwrites.acknowledged, hwrites.latest⟩, hshows, ?_⟩
    intro k hk
    cases hk
  · rw [hsome] at hcontext
    cases hcontext
    obtain ⟨saved, hsave, hto⟩ := saveResponse_run
      (s := (⟨store, t.ledger⟩ : ServiceState).append _) hwrites.sound
      ((hlookup _ _ _).trans hget) (codec.dump { built with alerts := alerts })
    rw [bind_run hsave]
    refine ⟨_, _, rfl, ⟨hto.sound, ?_, ?_⟩, hshows, ?_⟩
    · intro k
      rw [← hwrites.acknowledged k, ServiceState.acknowledged, hto.value _ _ (by decide)]
      rfl
    · rw [hto.value _ _ (by decide)]
      exact hwrites.latest
    · intro k' hk' fp text htext
      cases hk'
      rw [hto.lookup, if_pos rfl] at htext
      split_ifs at htext
      cases htext
      rfl

end Analyses

end ContinuityOS.Service
