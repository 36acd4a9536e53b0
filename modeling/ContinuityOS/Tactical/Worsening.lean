import ContinuityOS.Tactical.Engines

/-! # Worse readings

On a link and in a sector every reading only adds risk. The risk of an aircraft is a mean, which
falls with every further part that is less bad than the others, and flight near stall overrides an
empty battery.
-/
namespace ContinuityOS.Tactical
open Library

section Link
variable {t t' : StarlinkTelemetry}

/-- No reading of the second link is better. -/
structure WorseLink (t t' : StarlinkTelemetry) : Prop where
  downlink : t'.downlinkThroughputMbps.le t.downlinkThroughputMbps = true
  latency : t.roundTripLatencyMs.le t'.roundTripLatencyMs = true
  loss : t.packetLossRate ≤ t'.packetLossRate
  obstruction : t.obstructionFraction ≤ t'.obstructionFraction
  jitter : t.beamHandoverJitterMs.le t'.beamHandoverJitterMs = true
  rainFade : t.rainFadeAttenuationDb.le t'.rainFadeAttenuationDb = true

/-- A finding stays where its reading gets worse. -/
theorem finding_mono {beyond beyond' : Bool} {risk : ℚ} {indicator indicator' : String}
    (hbeyond : beyond = true → beyond' = true) (hrisk : 0 ≤ risk) :
    (finding beyond risk indicator).1 ≤ (finding beyond' risk indicator').1 := by
  cases beyond with
  | true => rw [hbeyond rfl, finding, finding, if_pos rfl, if_pos rfl]
  | false =>
    cases beyond' with
    | true => exact hrisk
    | false => exact le_rfl

theorem latencyFinding_mono (h : t.roundTripLatencyMs.le t'.roundTripLatencyMs = true) :
    (latencyFinding t).1 ≤ (latencyFinding t').1 := by
  have hbeyond (limit : ℚ) : FloatNumber.lt (.finite limit) t.roundTripLatencyMs = true →
      FloatNumber.lt (.finite limit) t'.roundTripLatencyMs = true :=
    fun hlt => FloatNumber.lt_of_lt_of_le hlt h
  have hhigh := hbeyond 120
  have helevated := hbeyond 65
  unfold latencyFinding
  split_ifs <;> first | (exfalso; simp_all; done) | norm_num

theorem channelRisk_mono (h : WorseLink t t') : channelRisk t ≤ channelRisk t' := by
  have hobstruction : t.obstructionFraction.val ≤ t'.obstructionFraction.val := h.obstruction
  have hloss : t.packetLossRate.val ≤ t'.packetLossRate.val := h.loss
  simp only [channelRisk, channelFindings, List.map_cons, List.map_nil, List.sum_cons,
    List.sum_nil]
  refine add_le_add (latencyFinding_mono h.latency) (add_le_add ?_ (add_le_add ?_
    (add_le_add ?_ (add_le_add ?_ le_rfl))))
  · exact finding_mono (fun hlt => FloatNumber.lt_of_lt_of_le hlt h.jitter) (by norm_num)
  · exact finding_mono (fun hlt => FloatNumber.lt_of_lt_of_le hlt h.rainFade) (by norm_num)
  · exact finding_mono (fun hlt => decide_eq_true ((of_decide_eq_true hlt).trans_le hobstruction))
      (by norm_num)
  · exact finding_mono (fun hlt => decide_eq_true ((of_decide_eq_true hlt).trans_le hloss))
      (by norm_num)

theorem channelThreat_mono (h : WorseLink t t') : channelThreat t ≤ channelThreat t' :=
  min_le_min_left 1 (channelRisk_mono h)

theorem availability_anti (h : WorseLink t t') : availability t' ≤ availability t := by
  have hthreat : (channelThreat t).val ≤ (channelThreat t').val := channelThreat_mono h
  exact max_le_max_left 0 (sub_le_sub_left hthreat 1)

theorem throughputShare_mono {x y : FloatNumber} (hx : FloatNumber.le (.finite 0) x = true)
    (h : x.le y = true) : throughputShare x ≤ throughputShare y := by
  have hy := FloatNumber.le_trans hx h
  cases y with
  | nan => cases hy
  | negInf => cases hy
  | posInf => exact (throughputShare_mem hx).2
  | finite q =>
    cases x with
    | nan => cases hx
    | negInf => cases hx
    | posInf => cases h
    | finite p =>
      have hle : p ≤ q := by simpa [FloatNumber.le, FloatNumber.lt] using h
      have hdiv : p / 100 ≤ q / 100 := div_le_div_of_nonneg_right hle (by norm_num)
      simp only [throughputShare, FloatNumber.div, FloatNumber.lt, FloatNumber.value,
        decide_eq_true_eq]
      split_ifs with hp hq
      · exact hdiv
      · exact hp.le
      · linarith
      · exact le_rfl

theorem bandwidth_anti (h : WorseLink t t') : bandwidth t' ≤ bandwidth t :=
  throughputShare_mono t'.downlink_nonneg h.downlink

theorem channelState_mono (h : WorseLink t t') :
    (channelState t).rank ≤ (channelState t').rank := by
  have havailability : max 0 (1 - min 1 (channelRisk t')) ≤ max 0 (1 - min 1 (channelRisk t)) :=
    availability_anti h
  have hrain : FloatNumber.lt (.finite 8) t.rainFadeAttenuationDb = true →
      FloatNumber.lt (.finite 8) t'.rainFadeAttenuationDb = true :=
    fun hlt => FloatNumber.lt_of_lt_of_le hlt h.rainFade
  have hlatency : FloatNumber.lt (.finite 100) t.roundTripLatencyMs = true →
      FloatNumber.lt (.finite 100) t'.roundTripLatencyMs = true :=
    fun hlt => FloatNumber.lt_of_lt_of_le hlt h.latency
  unfold channelState
  split_ifs <;> first | decide | (exfalso; linarith) | (exfalso; simp_all)

theorem rounded_mono {s s' : Score} (digits : ℕ) (h : s ≤ s') :
    s.rounded digits ≤ s'.rounded digits :=
  roundDigits_mono digits h

end Link

section Sector
variable {events events' : List CUASDetectionEvent}

theorem isSwarm_mono (h : events.Subperm events') (hswarm : isSwarm events = true) :
    isSwarm events' = true := by
  rw [isSwarm, Bool.or_eq_true, decide_eq_true_eq] at hswarm ⊢
  rcases hswarm with hcount | hflag
  · exact Or.inl (hcount.trans h.length_le)
  · obtain ⟨e, he, hformation⟩ := List.any_eq_true.mp hflag
    exact Or.inr (List.any_eq_true.mpr ⟨e, h.subset he, hformation⟩)

theorem sectorRisk_mono (h : events.Subperm events') : sectorRisk events ≤ sectorRisk events' := by
  obtain ⟨middle, hperm, hsub⟩ := h
  have hsum : (events.map eventRisk).sum ≤ (events'.map eventRisk).sum := by
    rw [← (hperm.map eventRisk).sum_eq]
    exact (hsub.map eventRisk).sum_le_sum (eventRisks_nonneg events')
  have hswarm := isSwarm_mono (List.Subperm.trans hperm.symm.subperm hsub.subperm)
  unfold sectorRisk
  split_ifs with hfirst hsecond hsecond
  · linarith
  · exact absurd (hswarm hfirst) hsecond
  · linarith
  · linarith

theorem sectorThreat_mono (h : events.Subperm events') :
    sectorThreat events ≤ sectorThreat events' :=
  min_le_min_left 1 (sectorRisk_mono h)

theorem sectorLevel_mono {threat threat' : Score} (h : threat ≤ threat') :
    (sectorLevel threat).rank ≤ (sectorLevel threat').rank := by
  have hval : threat.val ≤ threat'.val := h
  unfold sectorLevel
  split_ifs <;> first | decide | (exfalso; linarith)

theorem swarmLikelihood_mono (h : events.Subperm events') :
    swarmLikelihood events ≤ swarmLikelihood events' := by
  have hcount : ((events.length : ℕ) : ℚ) ≤ events'.length := Nat.cast_le.mpr h.length_le
  have hlone : min (4 / 10) ((events.length : ℚ) * (15 / 100)) ≤ 90 / 100 :=
    (min_le_left _ _).trans (by norm_num)
  unfold swarmLikelihood
  split_ifs with hfirst hsecond hsecond
  · exact le_rfl
  · exact absurd (isSwarm_mono h hfirst) hsecond
  · exact hlone
  · exact min_le_min_left _ (mul_le_mul_of_nonneg_right hcount (by norm_num))

/-- Airspace with a detection is no better than clear airspace. -/
theorem clear_le (hsome : events ≠ []) : hundredths 5 ≤ (sectorThreat events).rounded 3 := by
  obtain ⟨e, rest, rfl⟩ := List.exists_cons_of_ne_nil hsome
  have hrisk : 1 / 10 ≤ sectorRisk (e :: rest) := by
    have hrest : 0 ≤ (rest.map eventRisk).sum := List.sum_nonneg (eventRisks_nonneg rest)
    have hfirst := eventRisk_ge e
    rw [sectorRisk, List.map_cons, List.sum_cons]
    split_ifs <;> linarith
  have hthreat : 1 / 10 ≤ (sectorThreat (e :: rest)).val := le_min (by norm_num) hrisk
  have htenth : (hundredths 5).val ≤ roundDigits 3 (1 / 10) := by decide +kernel
  exact htenth.trans (roundDigits_mono 3 hthreat)

end Sector

section Aircraft
variable (frame : UAVTelemetryFrame)

def linkRisk : Fin 101 :=
  if frame.rfLinkMarginDb.lt (.finite 6) then 80
  else if frame.rfLinkMarginDb.lt (.finite 12) then 40
  else 5

def navigationRisk : Fin 101 :=
  if frame.isGpsSpoofedOrDenied then
    if frame.opticalFlowQuality.val < 4 / 10 then 90 else 35
  else 2

def batteryRisks : List (Fin 101) :=
  if frame.batteryStateOfCharge.val < 15 / 100 then [95]
  else if frame.batteryStateOfCharge.val < 25 / 100 then [40]
  else []

def stallRisks : List (Fin 101) := if nearStall frame then [70] else []

theorem totalRisk_eq : totalRisk frame = (mean (([linkRisk frame, navigationRisk frame] ++
    batteryRisks frame ++ stallRisks frame).map hundredths)).rounded 3 := by
  have hlink : (linkReading frame).risk = hundredths (linkRisk frame) := by
    unfold linkReading linkRisk
    split_ifs <;> rfl
  have hnavigation : (navigationReading frame).risk = hundredths (navigationRisk frame) := by
    unfold navigationReading navigationRisk
    split_ifs <;> rfl
  have hbattery : (batteryReading frame).risks = (batteryRisks frame).map hundredths := by
    unfold batteryReading batteryRisks
    split_ifs <;> rfl
  have hstall : (if nearStall frame then [hundredths 70] else []) =
      (stallRisks frame).map hundredths := by
    unfold stallRisks
    split_ifs <;> rfl
  rw [totalRisk, riskComponents, hlink, hnavigation, hbattery, hstall, List.map_append,
    List.map_append]
  rfl

/-- The means that reach three quarters, over everything the parts can give. -/
theorem high_iff : ∀ link ∈ ([80, 40, 5] : List (Fin 101)), ∀ navigation ∈ [90, 35, 2],
    ∀ battery ∈ [[95], [40], []], ∀ stall ∈ [[70], []],
      (75 / 100 ≤ ((mean (([link, navigation] ++ battery ++ stall).map hundredths)).rounded 3).val ↔
        navigation = 90 ∧ (link = 80 ∧ battery ≠ [40] ∨
          link = 40 ∧ battery = [95] ∧ stall = [])) := by
  decide +kernel

/-- The battery is critical, or between critical and caution. -/
def BatteryCritical : Prop := frame.batteryStateOfCharge.val < 15 / 100

def BatteryCaution : Prop :=
  15 / 100 ≤ frame.batteryStateOfCharge.val ∧ frame.batteryStateOfCharge.val < 25 / 100

def NavigationLost : Prop :=
  frame.isGpsSpoofedOrDenied = true ∧ frame.opticalFlowQuality.val < 4 / 10

theorem linkRisk_eq_iff : linkRisk frame = 80 ↔ frame.rfLinkMarginDb.lt (.finite 6) := by
  unfold linkRisk
  split_ifs with h <;> simp [h]

theorem navigationRisk_eq_iff : navigationRisk frame = 90 ↔ NavigationLost frame := by
  unfold navigationRisk NavigationLost
  split_ifs with hdenied hflow <;> simp_all

theorem batteryRisks_eq_iff : (batteryRisks frame = [95] ↔ BatteryCritical frame) ∧
    (batteryRisks frame = [40] ↔ BatteryCaution frame) := by
  unfold batteryRisks BatteryCritical BatteryCaution
  split_ifs with hcritical hcaution <;> simp_all

theorem stallRisks_eq_iff : stallRisks frame = [] ↔ nearStall frame = false := by
  unfold stallRisks
  split_ifs with h <;> simp [h]

theorem batteryStatus_iff :
    (batteryReading frame).status = .criticalReturnToBase ↔ BatteryCritical frame := by
  unfold batteryReading BatteryCritical
  split_ifs with hcritical hcaution <;> simp [hcritical]

theorem totalRisk_high_iff : 75 / 100 ≤ (totalRisk frame).val ↔ NavigationLost frame ∧
    (frame.rfLinkMarginDb.lt (.finite 6) ∧ ¬ BatteryCaution frame ∨
      linkRisk frame = 40 ∧ BatteryCritical frame ∧ nearStall frame = false) := by
  have hlink : linkRisk frame ∈ ([80, 40, 5] : List (Fin 101)) := by
    unfold linkRisk
    split_ifs <;> simp
  have hnavigation : navigationRisk frame ∈ ([90, 35, 2] : List (Fin 101)) := by
    unfold navigationRisk
    split_ifs <;> simp
  have hbattery : batteryRisks frame ∈ ([[95], [40], []] : List (List (Fin 101))) := by
    unfold batteryRisks
    split_ifs <;> simp
  have hstall : stallRisks frame ∈ ([[70], []] : List (List (Fin 101))) := by
    unfold stallRisks
    split_ifs <;> simp
  have hhigh := high_iff _ hlink _ hnavigation _ hbattery _ hstall
  rw [← totalRisk_eq, navigationRisk_eq_iff, linkRisk_eq_iff, ne_eq,
    (batteryRisks_eq_iff frame).1, (batteryRisks_eq_iff frame).2, stallRisks_eq_iff] at hhigh
  exact hhigh

/-- An aircraft is told to return when its battery is critical and it does not fly near stall, or
when navigation and link are lost and the battery is not merely low. -/
theorem airworthiness_iff : airworthiness frame = .criticalReturnToBase ↔
    BatteryCritical frame ∧ nearStall frame = false ∨
      NavigationLost frame ∧ frame.rfLinkMarginDb.lt (.finite 6) ∧ ¬ BatteryCaution frame := by
  have hhigh := totalRisk_high_iff frame
  unfold airworthiness
  split_ifs with h hstall
  · refine iff_of_true rfl ?_
    obtain ⟨hlost, ⟨hlink, hcaution⟩ | ⟨-, hcritical, hlevel⟩⟩ := hhigh.mp h
    · exact Or.inr ⟨hlost, hlink, hcaution⟩
    · exact Or.inl ⟨hcritical, hlevel⟩
  · refine iff_of_false (by decide) ?_
    rintro (⟨-, hlevel⟩ | ⟨hlost, hlink, hcaution⟩)
    · rw [hstall] at hlevel
      cases hlevel
    · exact h (hhigh.mpr ⟨hlost, Or.inl ⟨hlink, hcaution⟩⟩)
  · rw [batteryStatus_iff]
    constructor
    · exact fun hcritical => Or.inl ⟨hcritical, Bool.eq_false_iff.mpr hstall⟩
    · rintro (⟨hcritical, -⟩ | ⟨hlost, hlink, hcaution⟩)
      · exact hcritical
      · exact absurd (hhigh.mpr ⟨hlost, Or.inl ⟨hlink, hcaution⟩⟩) h

end Aircraft

/-- Over a worse link and over more detections, in any order, nothing that is assessed looks
better; and an aircraft with a critical battery is told to return unless it flies near stall, and
then only when navigation and link are lost. -/
theorem worse_readings :
    (∀ t t', WorseLink t t' →
      (evaluateChannel t').availabilityScore ≤ (evaluateChannel t).availabilityScore ∧
      (evaluateChannel t').effectiveBandwidthScore ≤
        (evaluateChannel t).effectiveBandwidthScore ∧
      (evaluateChannel t).latencyThreatScore ≤ (evaluateChannel t').latencyThreatScore ∧
      (evaluateChannel t).channelState.rank ≤ (evaluateChannel t').channelState.rank) ∧
    (∀ sector events events', List.Subperm events events' →
      (analyzeEvents sector events).threatSeverity.score ≤
        (analyzeEvents sector events').threatSeverity.score ∧
      (analyzeEvents sector events).threatSeverity.level.rank ≤
        (analyzeEvents sector events').threatSeverity.level.rank ∧
      (analyzeEvents sector events).swarmLikelihood ≤
        (analyzeEvents sector events').swarmLikelihood) ∧
    ∀ frame, (analyzeFrame frame).airworthinessStatus = .criticalReturnToBase ↔
      BatteryCritical frame ∧ nearStall frame = false ∨
        NavigationLost frame ∧ frame.rfLinkMarginDb.lt (.finite 6) ∧ ¬ BatteryCaution frame := by
  refine ⟨fun t t' h => ⟨rounded_mono 2 (availability_anti h), rounded_mono 2 (bandwidth_anti h),
    rounded_mono 2 (channelThreat_mono h), channelState_mono h⟩, fun sector events events' h => ?_,
    airworthiness_iff⟩
  by_cases hnone' : events' = []
  · obtain rfl : events = [] := List.subperm_nil.mp (hnone' ▸ h)
    rw [hnone']
    exact ⟨le_rfl, le_rfl, le_rfl⟩
  by_cases hnone : events = []
  · have hzero : (hundredths 0).val = 0 := by simp [hundredths]
    have hlikelihood : (hundredths 0).val ≤ (swarmLikelihood events').val := by
      rw [hzero]
      exact (swarmLikelihood events').nonneg
    rw [analyzeEvents, if_pos hnone, analyzeEvents, if_neg hnone']
    exact ⟨clear_le hnone', Nat.zero_le _, hlikelihood⟩
  · rw [analyzeEvents, if_neg hnone, analyzeEvents, if_neg hnone']
    exact ⟨rounded_mono 3 (sectorThreat_mono h), sectorLevel_mono (sectorThreat_mono h),
      swarmLikelihood_mono h⟩

end ContinuityOS.Tactical
