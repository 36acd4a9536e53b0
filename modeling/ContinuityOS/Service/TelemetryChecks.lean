import ContinuityOS.Service.Telemetry

/-! # Checks of telemetry

What signatures verify, and that an observation with a verified signature passes every check
once its payload is normalized.
-/
namespace ContinuityOS.Service
open Library

section Signing
variable {p : Platform} {body : List UInt8} {timestamp signature secret : String} {now : ℤ}

theorem prefixRemoved_append (start text : String) : prefixRemoved start (start ++ text) = text := by
  have hprefix : start.toList.isPrefixOf (start ++ text).toList = true := by
    rw [List.isPrefixOf_iff_prefix, String.toList_append]
    exact List.prefix_append _ _
  rw [prefixRemoved, if_pos hprefix, String.toList_append, List.drop_left, String.ofList_toList]

/-- Only a signature of sixty-four digits verifies. -/
theorem verifyOperatorSignature_length
    (h : verifyOperatorSignature p body timestamp signature secret now = .ok ()) :
    (prefixRemoved "sha256=" signature).toList.length = 64 := by
  unfold verifyOperatorSignature at h
  split at h
  · cases h
  · split_ifs at h with _ _ heq
    rw [← heq]
    exact hmacHexdigest_length _ _

theorem hexDigit_ascii (n : ℕ) : (hexDigit n).toNat < 128 := by
  by_cases h : n < 16
  · interval_cases n <;> decide
  · have hlength : hexAlphabet.length ≤ n := by
      have : hexAlphabet.length = 16 := by decide
      omega
    rw [hexDigit, List.getD_eq_getElem?_getD, List.getElem?_eq_none hlength]
    decide

theorem expectedSignature_ascii (secret timestamp : String) (body : List UInt8) :
    ∀ c ∈ (expectedSignature secret timestamp body).toList, c.toNat < 128 := by
  intro c hc
  rw [expectedSignature, hmacHexdigest, String.toList_ofList, hexEncode, List.mem_flatMap] at hc
  obtain ⟨b, -, hc⟩ := hc
  simp only [List.mem_cons, List.not_mem_nil, or_false] at hc
  rcases hc with rfl | rfl <;> exact hexDigit_ascii _

/-- What a holder of the secret signs within the allowed skew verifies. -/
theorem verifyOperatorSignature_expected {value : ℤ} (htime : p.int.ofText timestamp = some value)
    (hskew : |now - value| ≤ 300) :
    verifyOperatorSignature p body timestamp ("sha256=" ++ expectedSignature secret timestamp body)
      secret now = .ok () := by
  have hascii : ¬ ((expectedSignature secret timestamp body).toList.any fun c =>
      128 ≤ c.toNat) = true := by
    simp only [List.any_eq_true, decide_eq_true_eq, not_exists, not_and, not_le]
    exact expectedSignature_ascii secret timestamp body
  simp only [verifyOperatorSignature, htime, prefixRemoved_append]
  rw [if_neg (not_lt.mpr hskew), if_neg hascii, if_pos trivial]

end Signing

section Sources
variable {p : Platform} {payload : Members} {body : List UInt8}

/-- What operators may assert about a metric is what the source policy lets them assert. -/
theorem metricAssertions_of_assertionMap {metric : MetricName} {assertion : AssertionClass}
    (h : assertionMap metric = some assertion) :
    Fusion.metricAssertions metric = some assertion ∧
      assertion ∈ [AssertionClass.liveCapacity, .liveAvailability, .cyberHealth,
        .insuranceAccess] := by
  cases metric <;> simp_all [assertionMap, Fusion.metricAssertions]

theorem buildObservation_source {observationId unit : String} {assertion : AssertionClass}
    {metric : MetricName} {observedAt : Instant} {value confidence : FloatValue}
    {metadata : Dict String MetadataValue} {o : Observation}
    (h : buildObservation p observationId assertion metric unit observedAt value confidence
      metadata = .ok o) :
    o.sourceId = "operator-telemetry" ∧ o.sourceTrust = .authenticatedOperator ∧
      o.assertionClass = assertion ∧ o.metric = metric := by
  unfold buildObservation at h
  split at h
  · split_ifs at h
    cases h
    exact ⟨rfl, rfl, rfl, rfl⟩
  · cases h

/-- Every normalized observation may come from its source. -/
theorem validateObservationSource_normalized {observationId : String} {retrievedAt : Instant}
    {o : OperatorObservation}
    (h : normalizedOperatorObservation p observationId retrievedAt payload body = .ok o) :
    Fusion.validateObservationSource o.toObservation = .ok () := by
  simp only [normalizedOperatorObservation, bind_eq_ok, pure_eq_ok, Except.ok.injEq] at h
  obtain ⟨tenantId, -, assetId, -, sequence, -, _, -, metric, -, assertion, hassertion, _, -,
    observedAt, -, _, -, value, -, unit, -, confidence, -, built, hbuilt, rfl⟩ := h
  obtain ⟨hsource, htrust, hclass, hmetric⟩ := buildObservation_source hbuilt
  have hmap : assertionMap metric = some assertion := by
    unfold assertionOf at hassertion
    split at hassertion
    · cases hassertion
      assumption
    · cases hassertion
  obtain ⟨hpolicy, hallowed⟩ := metricAssertions_of_assertionMap hmap
  have hfound : Fusion.getSource "operator-telemetry" = some ⟨"operator-telemetry",
      .authenticatedOperator, [.liveCapacity, .liveAvailability, .cyberHealth,
        .insuranceAccess]⟩ := by
    simp [Fusion.getSource, Fusion.sources]
  simp only [Fusion.validateObservationSource, hsource, hfound, htrust, hclass, hmetric, hpolicy]
  simp [hallowed]

/-- A verified signature and a normalized payload are all that is needed. -/
theorem validatedObservation_of {q : Submission} {secret : String} {o : OperatorObservation}
    (hsecret : p.operatorWebhookSecret = some secret)
    (hverify : verifyOperatorSignature p body q.timestamp q.signature secret q.seconds = .ok ())
    (hnormalized : normalizedOperatorObservation p q.observationId q.now payload body = .ok o) :
    validatedObservation p q payload body = .ok o := by
  have hauthentic : authenticObservation p q secret payload body = .ok o := by
    rw [authenticObservation, hverify, ok_bind, hnormalized, ok_bind,
      validateObservationSource_normalized hnormalized]
    rfl
  rw [validatedObservation, hsecret]
  simp only [hauthentic]

end Sources

end ContinuityOS.Service
