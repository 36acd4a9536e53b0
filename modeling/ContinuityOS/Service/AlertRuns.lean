import ContinuityOS.Service.AlertConsistency

/-! # Runs of strategic requests

From the empty state the latest report, the alert records and the response of the newest
analysis agree as long as replays are of the newest analysis and bring back no acknowledgement
that was withdrawn.
-/
namespace ContinuityOS.Service
open Library Handler

section Runs
variable (codec : ResponseCodec StrategicReport)

/-- The stored report is the newest and shows every acknowledgement, and the response stored
under the key of the newest analysis is its report. -/
structure StrategicInvariant (run : StrategicRun) : Prop where
  sound : run.service.store.Sound
  latest : ∃ latest : Option StrategicReport,
    run.service.store.valueAt "strategic" "latest" = latest.map StrategicReport.toJson ∧
      (∀ report ∈ latest, Shows run.service report) ∧
      Option.Rel (fun report p => SameReport report p.2) latest run.produced.head?
  stored : ∀ key report, run.produced.head? = some (some key, report) → ∀ fingerprint text,
    run.service.store.getIdempotent "strategic-analyze" key fingerprint = .ok (some text) →
      text = codec.dump report

/-- A replay uses the key of the newest analysis, and no alert that the stored response shows
as acknowledged was unacknowledged since. -/
def ReplayOfNewest (run : StrategicRun) : StrategicEvent → Prop
  | .analyze request _ _ _ => ∀ key text, request.idempotencyKey = some key →
      run.service.store.getIdempotent "strategic-analyze" key request.fingerprint =
        .ok (some text) →
      ∃ report, run.produced.head? = some (some key, report) ∧
        ∀ alert ∈ report.alerts, alert.deliveryState = "acknowledged" →
          run.service.acknowledged alert.alertKey = true
  | _ => True

def ReplaysOfNewest : StrategicRun → List StrategicEvent → Prop
  | _, [] => True
  | run, event :: events =>
    ReplayOfNewest run event ∧ ReplaysOfNewest (strategicStep codec run event) events

variable {codec} {run : StrategicRun}

theorem StrategicInvariant.alertsConsistent (h : StrategicInvariant codec run) :
    AlertsConsistent run.service := by
  obtain ⟨latest, hlatest, hshows, -⟩ := h.latest
  cases latest with
  | none =>
    intro stored hstored
    rw [hlatest] at hstored
    cases hstored
  | some report => exact alertsConsistent_of_shows hlatest (hshows report rfl)

theorem StrategicInvariant.latestIsNewest (h : StrategicInvariant codec run) :
    LatestIsNewest run := by
  obtain ⟨latest, hlatest, -, hnewest⟩ := h.latest
  unfold LatestIsNewest
  cases hproduced : run.produced with
  | nil =>
    rw [hproduced, List.head?_nil] at hnewest
    cases hnewest
    exact hlatest
  | cons p produced =>
    rw [hproduced, List.head?_cons] at hnewest
    cases hnewest with
    | some hsame => exact ⟨_, hlatest, hsame⟩

/-- Marking one alert keeps the invariant when its record says the same. -/
theorem StrategicInvariant.setAcknowledged (h : StrategicInvariant codec run)
    {acknowledged : Bool} {stampField delivery : String} (hstamp : stampField ≠ "acknowledged")
    (hdelivery : delivery = "acknowledged" ↔ acknowledged = true) (recordType alertKey : String)
    (moment : Moment) : StrategicInvariant codec { run with service :=
      (setAcknowledged acknowledged stampField delivery recordType alertKey moment run.service).2 } := by
  by_cases hkey : 512 < alertKey.length ∨ alertKey = ""
  · rw [setAcknowledged_invalid _ _ _ _ hkey]
    exact h
  · obtain ⟨latest, hlatest, hshows, hnewest⟩ := h.latest
    obtain ⟨answer, s', hrun, hsound, hacknowledged, hmarked, hlookup⟩ :=
      setAcknowledged_run h.sound hlatest acknowledged hstamp delivery recordType hkey moment
    rw [hrun]
    refine ⟨hsound, ⟨_, hmarked, ?_, ?_⟩, ?_⟩
    · intro report hreport
      obtain ⟨old, hold, rfl⟩ := Option.map_eq_some_iff.mp hreport
      intro alert halert
      obtain ⟨before, hbefore, rfl⟩ := List.mem_map.mp halert
      have hshown := hshows old hold before hbefore
      dsimp only
      rw [hacknowledged]
      by_cases hk : before.alertKey = alertKey
      · simp [hk, hdelivery]
      · simpa [hk, Ne.symm hk] using hshown
    · change Option.Rel _ _ run.produced.head?
      generalize run.produced.head? = newest at hnewest ⊢
      cases hnewest with
      | none => exact Option.Rel.none
      | some hsame => exact Option.Rel.some ((mark_sameReport _ _ _).trans hsame)
    · intro key report hhead fingerprint text htext
      exact h.stored key report hhead fingerprint text ((hlookup _ _ _).symm.trans htext)

/-- A report refreshed without withdrawn acknowledgements shows every acknowledgement. -/
theorem refreshed_shows {acknowledged : String → Bool} {alerts alerts' : List StrategicAlert}
    (h : List.Forall₂ (Refreshed acknowledged) alerts alerts')
    (hold : ∀ alert ∈ alerts, alert.deliveryState = "acknowledged" →
      acknowledged alert.alertKey = true) : ∀ alert ∈ alerts',
      (alert.deliveryState = "acknowledged" ↔ acknowledged alert.alertKey = true) := by
  induction h with
  | nil => simp
  | cons halert _ ih =>
    rw [List.forall_mem_cons] at hold ⊢
    refine ⟨?_, ih hold.2⟩
    rw [halert]
    split_ifs with hack
    · simp [hack]
    · constructor
      · exact hold.1
      · exact fun htrue => absurd htrue hack

theorem StrategicInvariant.replay (h : StrategicInvariant codec run) {request : Request}
    {key text : String} (hkey : request.idempotencyKey = some key)
    (hget : run.service.store.getIdempotent "strategic-analyze" key request.fingerprint =
      .ok (some text))
    (hcontext : idempotencyContext run.service.store request "strategic-analyze" =
      .ok ⟨some key, some request.fingerprint, some text⟩)
    (hread : ∀ p ∈ run.produced, codec.ReadsBack p.2) {moment : Moment} {cooldown : ℚ}
    {built : Except String StrategicReport}
    (hmeets : ReplayOfNewest run (.analyze request moment cooldown built)) :
    StrategicInvariant codec (strategicStep codec run (.analyze request moment cooldown built)) := by
  obtain ⟨report, hhead, hacknowledged⟩ := hmeets key text hkey hget
  have htext : text = codec.dump report := h.stored key report hhead _ _ hget
  have hcached : codec.cachedResponse text = .ok report := by
    rw [htext]
    exact codec.cachedResponse_dump (hread _ (List.mem_of_head? hhead))
  obtain ⟨alerts, s', hrun, hwrites, hrefreshed, hlookup⟩ := replayAnalysis_run h.sound report
  have hanalyze : strategicAnalyze codec request moment cooldown built run.service =
      (.ok { report with alerts := alerts }, s') := by
    rw [strategicAnalyze, bind_run (lookupIdempotency_run hcontext)]
    dsimp only
    rw [hcached]
    exact hrun
  have hstep : strategicStep codec run (.analyze request moment cooldown built) =
      ⟨s', run.produced⟩ := by
    simp only [strategicStep, hanalyze, hcontext]
  rw [hstep]
  refine ⟨hwrites.sound, ⟨some { report with alerts := alerts }, hwrites.latest, ?_, ?_⟩, ?_⟩
  · intro stored hstored
    cases hstored
    intro alert halert
    dsimp only
    rw [hwrites.acknowledged]
    exact refreshed_shows hrefreshed hacknowledged alert halert
  · dsimp only
    rw [hhead]
    exact Option.Rel.some (refreshed_sameReport hrefreshed)
  · intro key' report' hhead' fingerprint text' htext'
    exact h.stored key' report' hhead' fingerprint text' ((hlookup _ _ _).symm.trans htext')

theorem SameReport.refl (report : StrategicReport) : SameReport report report := ⟨rfl, rfl⟩

theorem StrategicInvariant.fresh (h : StrategicInvariant codec run) {request : Request}
    {key fingerprint : Option String}
    (hcontext : idempotencyContext run.service.store request "strategic-analyze" =
      .ok ⟨key, fingerprint, none⟩) (moment : Moment) (cooldown : ℚ) (built : StrategicReport) :
    StrategicInvariant codec
      (strategicStep codec run (.analyze request moment cooldown (.ok built))) := by
  obtain ⟨report, s', hrun, hwrites, hshows, hstored⟩ :=
    freshAnalysis_run codec h.sound hcontext moment cooldown built
  have hanalyze : strategicAnalyze codec request moment cooldown (.ok built) run.service =
      (.ok report, s') := by
    rw [strategicAnalyze, bind_run (lookupIdempotency_run hcontext)]
    exact hrun
  have hstep : strategicStep codec run (.analyze request moment cooldown (.ok built)) =
      ⟨s', (key, report) :: run.produced⟩ := by
    simp only [strategicStep, hanalyze, hcontext]
  rw [hstep]
  refine ⟨hwrites.sound, ⟨some report, hwrites.latest, ?_, ?_⟩, ?_⟩
  · intro stored hstored alert halert
    cases hstored
    dsimp only
    rw [hwrites.acknowledged]
    exact hshows alert halert
  · exact Option.Rel.some (SameReport.refl report)
  · intro key' report' hhead fp text htext
    simp only [List.head?_cons, Option.some.injEq, Prod.mk.injEq] at hhead
    obtain ⟨rfl, rfl⟩ := hhead
    exact hstored key' rfl fp text htext

/-- An event that meets the condition keeps the invariant. -/
theorem strategicStep_invariant (h : StrategicInvariant codec run)
    (hread : ∀ p ∈ run.produced, codec.ReadsBack p.2) {event : StrategicEvent}
    (hmeets : ReplayOfNewest run event) :
    StrategicInvariant codec (strategicStep codec run event) := by
  cases event with
  | ack alertKey moment =>
    exact h.setAcknowledged (by decide) (by simp) _ alertKey moment
  | unack alertKey moment =>
    exact h.setAcknowledged (by decide) (by simp) _ alertKey moment
  | analyze request moment cooldown built =>
    have hrefused : ∀ e, strategicAnalyze codec request moment cooldown built run.service =
        (.error e, run.service) →
        StrategicInvariant codec
          (strategicStep codec run (.analyze request moment cooldown built)) := by
      intro e he
      have hstep : strategicStep codec run (.analyze request moment cooldown built) = run := by
        simp only [strategicStep, he]
        split
        · rename_i hok
          cases hok
        · rfl
      rw [hstep]
      exact h
    have hfresh : ∀ key fingerprint, idempotencyContext run.service.store request
        "strategic-analyze" = .ok ⟨key, fingerprint, none⟩ →
        StrategicInvariant codec
          (strategicStep codec run (.analyze request moment cooldown built)) := by
      intro key fingerprint hcontext
      cases built with
      | ok built => exact h.fresh hcontext moment cooldown built
      | error detail =>
        apply hrefused ⟨422, detail⟩
        rw [strategicAnalyze, bind_run (lookupIdempotency_run hcontext)]
        rfl
    rcases idempotencyContext_cases run.service.store request "strategic-analyze" with
      ⟨e, he⟩ | hnone | ⟨key, cached, hkey, -, hget, hcontext⟩
    · apply hrefused e
      rw [strategicAnalyze, bind_run_error (lookupIdempotency_run_error he)]
    · exact hfresh _ _ hnone
    · cases cached with
      | none => exact hfresh _ _ hcontext
      | some text => exact h.replay hkey hget hcontext hread hmeets

/-- Reports are only added. -/
theorem mem_produced_step (codec : ResponseCodec StrategicReport) (run : StrategicRun)
    (event : StrategicEvent) : ∀ p ∈ run.produced, p ∈ (strategicStep codec run event).produced := by
  intro p hp
  cases event with
  | analyze request moment cooldown built =>
    unfold strategicStep
    dsimp only
    split
    · exact List.mem_cons_of_mem _ hp
    · exact hp
  | ack alertKey moment => exact hp
  | unack alertKey moment => exact hp

theorem mem_produced_run (codec : ResponseCodec StrategicReport) (events : List StrategicEvent)
    (run : StrategicRun) : ∀ p ∈ run.produced, p ∈ (runStrategic codec run events).produced := by
  induction events generalizing run with
  | nil => exact fun p hp => hp
  | cons event events ih =>
    intro p hp
    exact ih _ p (mem_produced_step codec run event p hp)

theorem runStrategic_invariant {events : List StrategicEvent} (h : StrategicInvariant codec run)
    (hread : ∀ p ∈ (runStrategic codec run events).produced, codec.ReadsBack p.2)
    (hmeets : ReplaysOfNewest codec run events) :
    StrategicInvariant codec (runStrategic codec run events) := by
  induction events generalizing run with
  | nil => exact h
  | cons event events ih =>
    apply ih
    · apply strategicStep_invariant h _ hmeets.1
      exact fun p hp => hread p (mem_produced_run codec (event :: events) run p hp)
    · exact hread
    · exact hmeets.2

/-- From the empty state: in a run whose replays are all of the newest analysis and bring back
no withdrawn acknowledgement, alerts and records agree and the latest report is the newest. -/
theorem runStrategic_consistent (codec : ResponseCodec StrategicReport)
    (events : List StrategicEvent)
    (hread : ∀ p ∈ (runStrategic codec ⟨⟨.missing, []⟩, []⟩ events).produced,
      codec.ReadsBack p.2)
    (hmeets : ReplaysOfNewest codec ⟨⟨.missing, []⟩, []⟩ events) :
    AlertsConsistent (runStrategic codec ⟨⟨.missing, []⟩, []⟩ events).service ∧
      LatestIsNewest (runStrategic codec ⟨⟨.missing, []⟩, []⟩ events) := by
  have hstart : StrategicInvariant codec ⟨⟨.missing, []⟩, []⟩ := by
    refine ⟨StateFile.sound_missing, ⟨none, rfl, ?_, Option.Rel.none⟩, ?_⟩
    · intro report hreport
      cases hreport
    · intro key report hhead
      cases hhead
  have hrun := runStrategic_invariant hstart hread hmeets
  exact ⟨hrun.alertsConsistent, hrun.latestIsNewest⟩

end Runs

section Samples

def sampleMoment : Moment where
  isoformat := "2026-01-01T00:00:00+00:00"
  secondsSince text := if text = "2026-01-01T00:00:00+00:00" then some 0 else none
  after seconds := if seconds = 900 then "2026-01-01T00:15:00+00:00" else "2026-01-01T01:00:00+00:00"

def analysisRequest : Request where
  idempotencyKey := some "k1"
  body := []

/-- A report with one alert, delivered in a state. -/
def sampleReport (deliveryState : String) (escalationDueAt : Option String) : StrategicReport where
  reportId := "r1"
  alerts := [{ alertKey := "ice:s1", dimension := "ice", severity := "high"
               deliveryState := deliveryState, escalationDueAt := escalationDueAt }]

def analyzeEvent : StrategicEvent :=
  .analyze analysisRequest sampleMoment 3600 (.ok (sampleReport "ready" none))

def reportText (report : StrategicReport) : String := String.ofList report.toJson.dumps

def alertCodec : ResponseCodec StrategicReport :=
  .table reportText [sampleReport "ready" (some "2026-01-01T01:00:00+00:00"),
    sampleReport "acknowledged" (some "2026-01-01T01:00:00+00:00")]

theorem alertCodec_readsBack :
    alertCodec.ReadsBack (sampleReport "ready" (some "2026-01-01T01:00:00+00:00")) ∧
      alertCodec.ReadsBack (sampleReport "acknowledged" (some "2026-01-01T01:00:00+00:00")) := by
  apply ResponseCodec.table_pair_readsBack
  simp only [reportText, Ne, String.ofList_inj]
  decide

/-- The alert is acknowledged and reported, the acknowledgement withdrawn and given again, and the
report replayed. -/
def restoredEvents : List StrategicEvent :=
  [.ack "ice:s1" sampleMoment, analyzeEvent, .unack "ice:s1" sampleMoment,
    .ack "ice:s1" sampleMoment, analyzeEvent]

/-- The first analysis finds nothing stored, and the second one the response of the first. -/
theorem restoredEvents_replays :
    ReplaysOfNewest alertCodec ⟨⟨.missing, []⟩, []⟩ restoredEvents := by
  have hfirst : (runStrategic alertCodec ⟨⟨.missing, []⟩, []⟩
      (restoredEvents.take 1)).service.store.getIdempotent "strategic-analyze" "k1"
        analysisRequest.fingerprint = .ok none := by decide +kernel
  have hsecond : (runStrategic alertCodec ⟨⟨.missing, []⟩, []⟩
      (restoredEvents.take 4)).produced.head? =
        some (some "k1", sampleReport "acknowledged" (some "2026-01-01T01:00:00+00:00")) ∧
      (runStrategic alertCodec ⟨⟨.missing, []⟩, []⟩
        (restoredEvents.take 4)).service.acknowledged "ice:s1" = true := by decide +kernel
  refine ⟨trivial, ?_, trivial, trivial, ?_, trivial⟩
  · intro key text hkey hget
    cases hkey
    cases hfirst.symm.trans hget
  · intro key text hkey _
    cases hkey
    refine ⟨_, hsecond.1, ?_⟩
    intro alert halert _
    rw [List.mem_singleton.mp halert]
    exact hsecond.2

theorem runStrategic_consistent_witness :
    AlertsConsistent (runStrategic alertCodec ⟨⟨.missing, []⟩, []⟩ restoredEvents).service ∧
      LatestIsNewest (runStrategic alertCodec ⟨⟨.missing, []⟩, []⟩ restoredEvents) := by
  have hproduced : (runStrategic alertCodec ⟨⟨.missing, []⟩, []⟩ restoredEvents).produced =
      [(some "k1", sampleReport "acknowledged" (some "2026-01-01T01:00:00+00:00"))] := by
    decide +kernel
  refine runStrategic_consistent alertCodec restoredEvents ?_ restoredEvents_replays
  rw [hproduced]
  simpa using alertCodec_readsBack.2

/-- The alert is acknowledged, reported, unacknowledged, and the report replayed. -/
def withdrawnEvents : List StrategicEvent :=
  [.ack "ice:s1" sampleMoment, analyzeEvent, .unack "ice:s1" sampleMoment, analyzeEvent]

/-- The replay shows the alert acknowledged while its record is gone. -/
theorem runStrategic_withdrawn :
    let run := runStrategic alertCodec ⟨⟨.missing, []⟩, []⟩ withdrawnEvents
    run.produced = [(some "k1", sampleReport "acknowledged" (some "2026-01-01T01:00:00+00:00"))] ∧
      (run.service.store.valueAt "strategic" "latest").map (fun latest =>
        (alertsOf latest).map fun alert =>
          (textField "alert_key" alert, textField "delivery_state" alert)) =
        some [(some "ice:s1", some "acknowledged")] ∧
      run.service.acknowledged "ice:s1" = false := by
  decide +kernel

theorem runStrategic_inconsistent :
    ¬ ∀ (codec : ResponseCodec StrategicReport) (events : List StrategicEvent),
      (∀ p ∈ (runStrategic codec ⟨⟨.missing, []⟩, []⟩ events).produced, codec.ReadsBack p.2) →
      AlertsConsistent (runStrategic codec ⟨⟨.missing, []⟩, []⟩ events).service ∧
        LatestIsNewest (runStrategic codec ⟨⟨.missing, []⟩, []⟩ events) := by
  intro h
  obtain ⟨hproduced, hshown, hrecord⟩ := runStrategic_withdrawn
  have hread : ∀ p ∈ (runStrategic alertCodec ⟨⟨.missing, []⟩, []⟩ withdrawnEvents).produced,
      alertCodec.ReadsBack p.2 := by
    rw [hproduced]
    simpa using alertCodec_readsBack.2
  have hconsistent := (h alertCodec withdrawnEvents hread).1
  obtain ⟨latest, hlatest, halerts⟩ := Option.map_eq_some_iff.mp hshown
  obtain ⟨alert, rest, hcons, hfields, -⟩ := List.map_eq_cons_iff.mp halerts
  obtain ⟨hkey, hstate⟩ := Prod.mk.inj hfields
  have htrue := (hconsistent latest hlatest alert (by simp [hcons]) "ice:s1" hkey).mp hstate
  exact absurd (hrecord.symm.trans htrue) (by decide)

end Samples

end ContinuityOS.Service
