import ContinuityOS.Fusion.Rejection
import ContinuityOS.Tactical.Engines

/-! # From tactical channels to fusion

The bridge builds every observation through the checks of its constructor, which refuse a source
name that is too short or too long and a reading that is infinite. None of what it makes can be
fused: the classes are ones no registered source may assert, so the source check refuses the
observations under every source, and with them every list they are in.
-/
namespace ContinuityOS.Tactical
open Library ContinuityOS.Fusion

/-- What the bridge reads from the clock and draws for an observation. -/
structure Stamp where
  observationId : String
  now : Instant

def textMetadata (pairs : List (String × String)) : Dict String MetadataValue :=
  Dict.ofBindings (pairs.map fun pair => (pair.1, .text pair.2))

inductive ObservationError where
  | sourceIdLength
  | notFinite
  | outOfRange
deriving DecidableEq

/-- An observation has a source name of this length. -/
def ProperSourceId (sourceId : String) : Prop := 2 ≤ sourceId.length ∧ sourceId.length ≤ 128

instance properSourceId_decidable (sourceId : String) : Decidable (ProperSourceId sourceId) :=
  inferInstanceAs (Decidable (_ ∧ _))

/-- What the observations of the bridge have in common. The name of the source is checked with
the fields, and the value by the validators that come after. -/
def tacticalObservation (stamp : Stamp) (sourceId : String) (assertionClass : AssertionClass)
    (metric : MetricName) (unit : String) (confidence : Score)
    (metadata : List (String × String)) (value : FloatNumber) :
    Except ObservationError Observation :=
  if ProperSourceId sourceId then
    match value with
    | .finite v =>
      if h : ValidValue metric unit v then
        .ok
          { observationId := stamp.observationId
            sourceId := sourceId
            sourceTrust := .authenticatedOperator
            assertionClass := assertionClass
            metric := metric
            value := v
            unit := unit
            observedAt := stamp.now
            confidence := confidence
            metadata := textMetadata metadata
            validValue := h
            ordered := ordered_none stamp.now }
      else .error .outOfRange
    | _ => .error .notFinite
  else .error .sourceIdLength

def uavToObservations (assessment : UAVSurveillanceAssessment) (frame : UAVTelemetryFrame)
    (first second : Stamp) (sourceId : String := "tactical-uav-fleet") :
    Except ObservationError (List Observation) := do
  let linkMargin ← tacticalObservation first sourceId .tacticalSurveillance .uavLinkMargin "dB"
    (hundredths 95)
    [("drone_id", frame.droneId), ("status", assessment.airworthinessStatus.value)]
    (FloatNumber.greatest (.finite 0) [frame.rfLinkMarginDb])
  let cohesion ← tacticalObservation second sourceId .tacticalSurveillance .uavSwarmCohesion
    "score" (hundredths 92) [("drone_id", frame.droneId)]
    (.finite assessment.swarmCohesionScore.val)
  return [linkMargin, cohesion]

def starlinkToObservations (assessment : StarlinkAssessment) (telemetry : StarlinkTelemetry)
    (first second third : Stamp) (sourceId : String := "starlink-leo-network") :
    Except ObservationError (List Observation) := do
  let latency ← tacticalObservation first sourceId .leoSatcom .starlinkLatencyMs "ms"
    (hundredths 96)
    [("terminal_id", telemetry.terminalId), ("state", assessment.channelState.value)]
    telemetry.roundTripLatencyMs
  let downlink ← tacticalObservation second sourceId .leoSatcom .starlinkDownlinkMbps "mbps"
    (hundredths 96) [("terminal_id", telemetry.terminalId)] telemetry.downlinkThroughputMbps
  let obstruction ← tacticalObservation third sourceId .leoSatcom .starlinkObstructionRate
    "fraction" (hundredths 95) [("terminal_id", telemetry.terminalId)]
    (.finite telemetry.obstructionFraction.val)
  return [latency, downlink, obstruction]

def jammingScore (active : Bool) : Score := if active then Score.one else hundredths 0

def cuasToObservations (assessment : CUASAssessment) (sector : String) (first second : Stamp)
    (sourceId : String := "cuas-air-defense-sensor") :
    Except ObservationError (List Observation) := do
  let density ← tacticalObservation first sourceId .counterUas .cuasThreatDensity "score"
    (hundredths 94) [("sector", sector), ("level", assessment.threatSeverity.level.value)]
    (.finite assessment.threatSeverity.score.val)
  let jamming ← tacticalObservation second sourceId .counterUas .cuasJammingActive "binary"
    (hundredths 99) [("sector", sector)]
    (.finite (jammingScore assessment.electronicWarfareActive).val)
  return [density, jamming]

/-- The bridge makes these observations of some readings, under a source. -/
def Bridged (sourceId : String) (observations : List Observation) : Prop :=
  (∃ frame first second,
    uavToObservations (analyzeFrame frame) frame first second sourceId = .ok observations) ∨
  (∃ telemetry first second third,
    starlinkToObservations (evaluateChannel telemetry) telemetry first second third sourceId =
      .ok observations) ∨
  ∃ sector events first second,
    cuasToObservations (analyzeEvents sector events) sector first second sourceId =
      .ok observations

section Outcome
variable {stamp : Stamp} {sourceId : String} {assertionClass : AssertionClass}
  {metric : MetricName} {unit : String} {confidence : Score} {metadata : List (String × String)}

/-- The result of the bridge under a source, where some reading may be infinite. -/
def Outcome (sourceId : String) (infinite : Prop)
    (result : Except ObservationError (List Observation)) : Prop :=
  (result = .error .sourceIdLength ↔ ¬ ProperSourceId sourceId) ∧
  (result = .error .notFinite ↔ ProperSourceId sourceId ∧ infinite) ∧
  ((∃ observations, observations ≠ [] ∧ result = .ok observations) ↔
    ProperSourceId sourceId ∧ ¬ infinite)

theorem outcome_of {infinite : Prop} {result : Except ObservationError (List Observation)}
    (hsource : ¬ ProperSourceId sourceId → result = .error .sourceIdLength)
    (hinfinite : ProperSourceId sourceId → infinite → result = .error .notFinite)
    (hmade : ProperSourceId sourceId → ¬ infinite →
      ∃ observations, observations ≠ [] ∧ result = .ok observations) :
    Outcome sourceId infinite result := by
  by_cases hproper : ProperSourceId sourceId
  · by_cases hreading : infinite
    · rw [hinfinite hproper hreading]
      simp [Outcome, hproper, hreading]
    · obtain ⟨observations, hsome, hresult⟩ := hmade hproper hreading
      rw [hresult]
      simp [Outcome, hproper, hreading, hsome]
  · rw [hsource hproper]
    simp [Outcome, hproper]

theorem tacticalObservation_improper (h : ¬ ProperSourceId sourceId) (value : FloatNumber) :
    tacticalObservation stamp sourceId assertionClass metric unit confidence metadata value =
      .error .sourceIdLength :=
  if_neg h

theorem tacticalObservation_infinite (h : ProperSourceId sourceId) :
    tacticalObservation stamp sourceId assertionClass metric unit confidence metadata .posInf =
      .error .notFinite :=
  if_pos h

theorem tacticalObservation_made (h : ProperSourceId sourceId) {v : ℚ}
    (hvalid : ValidValue metric unit v) : ∃ o,
      tacticalObservation stamp sourceId assertionClass metric unit confidence metadata
        (.finite v) = .ok o := by
  rw [tacticalObservation, if_pos h]
  exact ⟨_, dif_pos hvalid⟩

/-- What is made is of the source and the class it was asked for, from an operator. -/
theorem tacticalObservation_common {value : FloatNumber} {o : Observation}
    (h : tacticalObservation stamp sourceId assertionClass metric unit confidence metadata value =
      .ok o) : o.sourceId = sourceId ∧ o.sourceTrust = .authenticatedOperator ∧
        o.assertionClass = assertionClass := by
  unfold tacticalObservation at h
  split_ifs at h with hproper
  cases value with
  | nan => cases h
  | negInf => cases h
  | posInf => cases h
  | finite v =>
    simp only at h
    split_ifs at h with hvalid
    cases h
    exact ⟨rfl, rfl, rfl⟩

end Outcome

section Readings
variable (sourceId : String) (first second third : Stamp)

theorem valid_score (metric : MetricName) {unit : String} (s : Score)
    (hice : metric ≠ .seaIceConcentration)
    (hdays : ¬ (metric = .inventoryDays ∨ metric = .mineralReserveDays)) :
    ValidValue metric unit s.val :=
  ⟨fun _ => s.property, fun h => absurd h hice, fun h => absurd h hdays, fun _ => s.nonneg⟩

theorem valid_nonneg (metric : MetricName) {unit : String} {q : ℚ} (hq : 0 ≤ q)
    (hratio : metric ∉ ratioMetrics) (hice : metric ≠ .seaIceConcentration)
    (hdays : ¬ (metric = .inventoryDays ∨ metric = .mineralReserveDays)) :
    ValidValue metric unit q :=
  ⟨fun h => absurd h hratio, fun h => absurd h hice, fun h => absurd h hdays, fun _ => hq⟩

/-- A number from zero on that is not infinite is finite. -/
theorem finite_of_nonneg {x : FloatNumber} (h : FloatNumber.le (.finite 0) x = true)
    (hfinite : x ≠ .posInf) : ∃ q, 0 ≤ q ∧ x = .finite q := by
  obtain ⟨-, hnan, horder⟩ := (FloatNumber.le_iff_order _ _).mp h
  obtain rfl | ⟨q, rfl, hq⟩ := FloatNumber.finite_or_posInf hnan horder
  · exact absurd rfl hfinite
  · exact ⟨q, hq, rfl⟩

/-- Only an infinite margin is infinite above zero; what is no number counts as zero. -/
theorem greatest_zero (margin : FloatNumber) :
    FloatNumber.greatest (.finite 0) [margin] = .posInf ∧ margin = .posInf ∨
      margin ≠ .posInf ∧ ∃ q, 0 ≤ q ∧ FloatNumber.greatest (.finite 0) [margin] = .finite q := by
  cases margin with
  | nan => exact Or.inr ⟨by simp, 0, le_rfl, rfl⟩
  | negInf => exact Or.inr ⟨by simp, 0, le_rfl, rfl⟩
  | posInf => exact Or.inl ⟨rfl, rfl⟩
  | finite q =>
    refine Or.inr ⟨by simp, max 0 q, le_max_left 0 q, ?_⟩
    simp only [FloatNumber.greatest, FloatNumber.best, List.foldl_cons, List.foldl_nil,
      FloatNumber.lt, decide_eq_true_eq]
    split_ifs with hq
    · rw [max_eq_right hq.le]
    · rw [max_eq_left (not_lt.mp hq)]

theorem uav_outcome (assessment : UAVSurveillanceAssessment) (frame : UAVTelemetryFrame) :
    Outcome sourceId (frame.rfLinkMarginDb = .posInf)
      (uavToObservations assessment frame first second sourceId) := by
  refine outcome_of (fun h => ?_) (fun h hinfinite => ?_) (fun h hfinite => ?_)
  · rw [uavToObservations, tacticalObservation_improper h]
    rfl
  · have hmargin : FloatNumber.greatest (.finite 0) [frame.rfLinkMarginDb] = .posInf := by
      rw [hinfinite]
      rfl
    rw [uavToObservations, hmargin, tacticalObservation_infinite h]
    rfl
  · obtain ⟨-, hinfinite⟩ | ⟨-, q, hq, hmargin⟩ := greatest_zero frame.rfLinkMarginDb
    · exact absurd hinfinite hfinite
    · obtain ⟨linkMargin, hlink⟩ := tacticalObservation_made h
        (valid_nonneg .uavLinkMargin hq (by decide) (by decide) (by decide))
      obtain ⟨cohesion, hcohesion⟩ := tacticalObservation_made h
        (valid_score .uavSwarmCohesion assessment.swarmCohesionScore (by decide) (by decide))
      refine ⟨[linkMargin, cohesion], List.cons_ne_nil _ _, ?_⟩
      rw [uavToObservations, hmargin, hlink, ok_bind, hcohesion]
      rfl

theorem starlink_outcome (assessment : StarlinkAssessment) (telemetry : StarlinkTelemetry) :
    Outcome sourceId
      (telemetry.roundTripLatencyMs = .posInf ∨ telemetry.downlinkThroughputMbps = .posInf)
      (starlinkToObservations assessment telemetry first second third sourceId) := by
  refine outcome_of (fun h => ?_) (fun h hinfinite => ?_) (fun h hfinite => ?_)
  · rw [starlinkToObservations, tacticalObservation_improper h]
    rfl
  · by_cases hlatency : telemetry.roundTripLatencyMs = .posInf
    · rw [starlinkToObservations, hlatency, tacticalObservation_infinite h]
      rfl
    · obtain ⟨q, hq, hfinite⟩ := finite_of_nonneg telemetry.latency_nonneg hlatency
      obtain ⟨latency, hmade⟩ := tacticalObservation_made h
        (valid_nonneg .starlinkLatencyMs hq (by decide) (by decide) (by decide))
      rw [starlinkToObservations, hfinite, hmade, ok_bind, hinfinite.resolve_left hlatency,
        tacticalObservation_infinite h]
      rfl
  · obtain ⟨hlatency, hdownlink⟩ := not_or.mp hfinite
    obtain ⟨q, hq, hlatency⟩ := finite_of_nonneg telemetry.latency_nonneg hlatency
    obtain ⟨r, hr, hdownlink⟩ := finite_of_nonneg telemetry.downlink_nonneg hdownlink
    obtain ⟨latency, hfirst⟩ := tacticalObservation_made h
      (valid_nonneg .starlinkLatencyMs hq (by decide) (by decide) (by decide))
    obtain ⟨downlink, hsecond⟩ := tacticalObservation_made h
      (valid_nonneg .starlinkDownlinkMbps hr (by decide) (by decide) (by decide))
    obtain ⟨obstruction, hthird⟩ := tacticalObservation_made h
      (valid_score .starlinkObstructionRate telemetry.obstructionFraction (by decide) (by decide))
    refine ⟨[latency, downlink, obstruction], List.cons_ne_nil _ _, ?_⟩
    rw [starlinkToObservations, hlatency, hdownlink, hfirst, ok_bind, hsecond, ok_bind, hthird]
    rfl

theorem cuas_outcome (assessment : CUASAssessment) (sector : String) :
    Outcome sourceId False (cuasToObservations assessment sector first second sourceId) := by
  refine outcome_of (fun h => ?_) (fun _ hfalse => hfalse.elim) (fun h _ => ?_)
  · rw [cuasToObservations, tacticalObservation_improper h]
    rfl
  · obtain ⟨density, hfirst⟩ := tacticalObservation_made h
      (valid_score .cuasThreatDensity assessment.threatSeverity.score (by decide) (by decide))
    obtain ⟨jamming, hsecond⟩ := tacticalObservation_made h
      (valid_score .cuasJammingActive (jammingScore assessment.electronicWarfareActive)
        (by decide) (by decide))
    refine ⟨[density, jamming], List.cons_ne_nil _ _, ?_⟩
    rw [cuasToObservations, hfirst, ok_bind, hsecond]
    rfl

end Readings

def tacticalClasses : List AssertionClass := [.tacticalSurveillance, .leoSatcom, .counterUas]

section Rejection
variable {sourceId : String} {observations : List Observation} {o : Observation}

theorem Bridged.common (h : Bridged sourceId observations) (ho : o ∈ observations) :
    o.sourceId = sourceId ∧ o.sourceTrust = .authenticatedOperator ∧
      o.assertionClass ∈ tacticalClasses := by
  have hclass {stamp : Stamp} {assertionClass : AssertionClass} {metric : MetricName}
      {unit : String} {confidence : Score} {metadata : List (String × String)}
      {value : FloatNumber} (hmem : assertionClass ∈ tacticalClasses)
      (hmade : tacticalObservation stamp sourceId assertionClass metric unit confidence metadata
        value = .ok o) :
      o.sourceId = sourceId ∧ o.sourceTrust = .authenticatedOperator ∧
        o.assertionClass ∈ tacticalClasses := by
    obtain ⟨hsource, htrust, hasserted⟩ := tacticalObservation_common hmade
    exact ⟨hsource, htrust, hasserted ▸ hmem⟩
  rcases h with ⟨frame, first, second, h⟩ | ⟨telemetry, first, second, third, h⟩ |
    ⟨sector, events, first, second, h⟩
  · obtain ⟨linkMargin, hlink, h⟩ := bind_eq_ok.mp h
    obtain ⟨cohesion, hcohesion, h⟩ := bind_eq_ok.mp h
    cases h
    rcases List.mem_pair.mp ho with rfl | rfl
    · exact hclass (by decide) hlink
    · exact hclass (by decide) hcohesion
  · obtain ⟨latency, hlatency, h⟩ := bind_eq_ok.mp h
    obtain ⟨downlink, hdownlink, h⟩ := bind_eq_ok.mp h
    obtain ⟨obstruction, hobstruction, h⟩ := bind_eq_ok.mp h
    cases h
    rcases List.mem_cons.mp ho with rfl | ho
    · exact hclass (by decide) hlatency
    rcases List.mem_pair.mp ho with rfl | rfl
    · exact hclass (by decide) hdownlink
    · exact hclass (by decide) hobstruction
  · obtain ⟨density, hdensity, h⟩ := bind_eq_ok.mp h
    obtain ⟨jamming, hjamming, h⟩ := bind_eq_ok.mp h
    cases h
    rcases List.mem_pair.mp ho with rfl | rfl
    · exact hclass (by decide) hdensity
    · exact hclass (by decide) hjamming

/-- No registered source may assert a tactical class. -/
theorem tactical_not_allowed : ∀ source ∈ sources, ∀ assertion ∈ tacticalClasses,
    assertion ∉ source.allowedAssertions := by
  decide

/-- How the source check refuses a tactical observation. -/
def refusal (sourceId : String) (assertion : AssertionClass) : AssessError :=
  match getSource sourceId with
  | none => .unknownSource sourceId
  | some source =>
    if source.trust = .authenticatedOperator then
      .cannotAssert sourceId assertion source.allowedAssertions
    else .trustMismatch sourceId source.trust .authenticatedOperator

theorem refusal_isValueError (sourceId : String) (assertion : AssertionClass) :
    (refusal sourceId assertion).isValueError = true := by
  unfold refusal
  split
  · rfl
  · split_ifs <;> rfl

theorem Bridged.refused (h : Bridged sourceId observations) (ho : o ∈ observations) :
    validateObservationSource o = .error (refusal sourceId o.assertionClass) := by
  obtain ⟨hsource, htrust, hclass⟩ := h.common ho
  unfold validateObservationSource refusal
  rw [hsource, htrust]
  cases hget : getSource sourceId with
  | none => rfl
  | some source =>
    have hmem : source ∈ sources := List.mem_of_find?_eq_some hget
    have hallowed := tactical_not_allowed source hmem o.assertionClass hclass
    by_cases hoperator : source.trust = .authenticatedOperator
    · simp [hoperator, hallowed]
    · simp [hoperator, Ne.symm hoperator]

end Rejection

/-- The bridge makes observations of every reading under a source name of two to 128 characters,
unless the link margin, the latency or the throughput is infinite. However the readings are, each
observation it makes is refused under every source, with a value error. So no list it is in is
ever fused, and where the observations before it are valid the assessment fails with its refusal;
and the sources the bridge names by itself are not registered. -/
theorem bridged_never_fused (freshness : Freshness) (assessmentId corridorId : String)
    (now : Instant) :
    (∀ sourceId first second third,
      (∀ frame, Outcome sourceId (frame.rfLinkMarginDb = .posInf)
        (uavToObservations (analyzeFrame frame) frame first second sourceId)) ∧
      (∀ telemetry, Outcome sourceId
        (telemetry.roundTripLatencyMs = .posInf ∨ telemetry.downlinkThroughputMbps = .posInf)
        (starlinkToObservations (evaluateChannel telemetry) telemetry first second third
          sourceId)) ∧
      ∀ sector events, Outcome sourceId False
        (cuasToObservations (analyzeEvents sector events) sector first second sourceId)) ∧
    (∀ sourceId observations, Bridged sourceId observations → ∀ o ∈ observations,
      (refusal sourceId o.assertionClass).isValueError = true ∧
      ∀ before after,
        (∃ e, assess freshness assessmentId corridorId now (before ++ o :: after) = .error e) ∧
        ((∀ p ∈ before, validateObservationSource p = .ok ()) →
          assess freshness assessmentId corridorId now (before ++ o :: after) =
            .error (refusal sourceId o.assertionClass))) ∧
    ∀ sourceId ∈ ["tactical-uav-fleet", "starlink-leo-network", "cuas-air-defense-sensor"],
      ∀ assertion, refusal sourceId assertion = .unknownSource sourceId := by
  refine ⟨fun sourceId first second third => ⟨fun frame => uav_outcome sourceId first second _ frame,
    fun telemetry => starlink_outcome sourceId first second third _ telemetry,
    fun sector _ => cuas_outcome sourceId first second _ sector⟩,
    fun sourceId observations h o ho =>
      ⟨refusal_isValueError _ _, fun before after => ?_⟩, ?_⟩
  · have hassess (e : AssessError) (hscreen : screen now (before ++ o :: after) = .error e) :
        assess freshness assessmentId corridorId now (before ++ o :: after) = .error e := by
      rw [assess, if_neg (by simp), hscreen]
      rfl
    constructor
    · cases hscreen : screen now (before ++ o :: after) with
      | error e => exact ⟨e, hassess e hscreen⟩
      | ok result =>
        have hvalid := valid_of_screen now hscreen o (by simp)
        rw [h.refused ho] at hvalid
        cases hvalid
    · intro hbefore
      exact hassess _ ((screen_eq_error now _ _).mpr (forM_append_error hbefore (h.refused ho)))
  · intro sourceId hmem assertion
    have hunknown : getSource sourceId = none := by
      revert sourceId
      decide
    unfold refusal
    rw [hunknown]

/-- A patrol with everything in order. -/
def patrolFrame : UAVTelemetryFrame :=
  ⟨"drone-1", hundredths 90, .finite 25, hundredths 95, 0, 0, false⟩

def patrolStamp : Stamp := ⟨"observation-1", 0⟩

theorem bridged_never_fused_patrol : ∃ o observations,
    Bridged "tactical-uav-fleet" observations ∧ o ∈ observations ∧
    assess (fun _ _ _ => ⟨1, by norm_num⟩) "assessment" "corridor" 0 [o] =
      .error (.unknownSource "tactical-uav-fleet") := by
  have hnever := bridged_never_fused (fun _ _ _ => ⟨1, by norm_num⟩) "assessment" "corridor" 0
  have hproper : ProperSourceId "tactical-uav-fleet" := by decide
  have hfinite : patrolFrame.rfLinkMarginDb ≠ .posInf := by decide
  have houtcome := (hnever.1 "tactical-uav-fleet" patrolStamp patrolStamp patrolStamp).1 patrolFrame
  obtain ⟨observations, hsome, hmade⟩ := houtcome.2.2.mpr ⟨hproper, hfinite⟩
  obtain ⟨o, ho⟩ := List.exists_mem_of_ne_nil observations hsome
  have hbridged : Bridged "tactical-uav-fleet" observations :=
    Or.inl ⟨patrolFrame, patrolStamp, patrolStamp, hmade⟩
  have hfused := ((hnever.2.1 _ _ hbridged o ho).2 [] []).2 (List.forall_mem_nil _)
  rw [hnever.2.2 "tactical-uav-fleet" List.mem_cons_self] at hfused
  exact ⟨o, observations, hbridged, ho, hfused⟩

end ContinuityOS.Tactical
