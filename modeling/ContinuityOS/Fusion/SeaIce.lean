import ContinuityOS.Fusion.Policy
import Mathlib.Algebra.Order.Ring.Star
import Mathlib.Data.Rat.Star

/-! # Sea ice in percent and as a ratio

The validator reads the unit, the transform guesses the scale from the size of the
value. They disagree on the percentages up to one.
-/
namespace ContinuityOS.Fusion

/-- The same observation in another unit. -/
def reexpressed (o : Observation) (unit : String) (value : ℚ)
    (h : ValidValue o.metric unit value) : Observation :=
  { o with unit := unit, value := value, validValue := h }

/-- The transform of the sea-ice metric. -/
def iceShare (x : ℚ) : ℚ := if 1 < x then x / 100 else x

theorem iceShare_of_le_one {x : ℚ} (h : x ≤ 1) : iceShare x = x := if_neg (not_lt.mpr h)

theorem iceShare_of_one_lt {x : ℚ} (h : 1 < x) : iceShare x = x / 100 := if_pos h

section Observations
variable {o : Observation} (hmetric : o.metric = .seaIceConcentration)
include hmetric

theorem seaIce_nonneg : 0 ≤ o.value := (o.validValue.2.1 hmetric).1

theorem seaIce_le_hundred : o.value ≤ 100 := by
  have hle := (o.validValue.2.1 hmetric).2
  split_ifs at hle
  · exact hle
  · exact hle.trans (by norm_num)

/-- The transform of a valid observation already lies in the unit interval. -/
theorem bounded_iceShare : (bounded (iceShare o.value)).val = iceShare o.value := by
  have hnonneg := seaIce_nonneg hmetric
  have hle := seaIce_le_hundred hmetric
  have hshare : 0 ≤ iceShare o.value ∧ iceShare o.value ≤ 1 := by
    unfold iceShare
    split_ifs with h
    · exact ⟨by positivity, by linarith⟩
    · exact ⟨hnonneg, not_lt.mp h⟩
  change min 1 (max 0 (iceShare o.value)) = iceShare o.value
  rw [max_eq_right hshare.1, min_eq_right hshare.2]

theorem metricRisk_seaIce : metricRisk o = .ok (bounded (iceShare o.value)) := by
  rw [metricRisk, hmetric]
  rfl

end Observations

section Agreement
variable {o : Observation} (hmetric : o.metric = .seaIceConcentration)
include hmetric

/-- A percentage and its ratio agree at zero and above one percent. -/
theorem metricRisk_reexpressed_iff {unit : String}
    (h : ValidValue o.metric unit (o.value / 100)) :
    metricRisk o = metricRisk (reexpressed o unit (o.value / 100) h) ↔
      o.value = 0 ∨ 1 < o.value := by
  have hratio : iceShare (o.value / 100) = o.value / 100 :=
    iceShare_of_le_one (by linarith [seaIce_le_hundred hmetric])
  have hbounded := bounded_iceShare (o := reexpressed o unit (o.value / 100) h) hmetric
  rw [metricRisk_seaIce hmetric, metricRisk_seaIce (o := reexpressed o unit (o.value / 100) h) hmetric,
    Except.ok.injEq, Subtype.ext_iff, bounded_iceShare hmetric, hbounded]
  change iceShare o.value = iceShare (o.value / 100) ↔ _
  rw [hratio]
  rcases le_or_gt o.value 1 with hle | hlt
  · rw [iceShare_of_le_one hle]
    constructor
    · intro heq
      exact Or.inl (by linarith)
    · rintro (hzero | hlt)
      · rw [hzero, zero_div]
      · exact absurd hlt (not_lt.mpr hle)
  · simp [iceShare_of_one_lt hlt, hlt]

/-- The order of two readings is kept unless the guess sets them on two scales. -/
theorem bounded_iceShare_le_iff {o' : Observation} (hmetric' : o'.metric = .seaIceConcentration)
    (hle : o.value ≤ o'.value) :
    (bounded (iceShare o.value)).val ≤ (bounded (iceShare o'.value)).val ↔
      o'.value ≤ 1 ∨ 1 < o.value ∨ o.value ≤ o'.value / 100 := by
  rw [bounded_iceShare hmetric, bounded_iceShare hmetric']
  rcases le_or_gt o'.value 1 with h' | h'
  · rw [iceShare_of_le_one h', iceShare_of_le_one (hle.trans h')]
    exact iff_of_true hle (Or.inl h')
  · rw [iceShare_of_one_lt h']
    rcases le_or_gt o.value 1 with h | h
    · simp [iceShare_of_le_one h, not_le.mpr h', not_lt.mpr h]
    · rw [iceShare_of_one_lt h]
      exact iff_of_true (by linarith) (Or.inr (Or.inl h))

end Agreement

/-- For valid sea-ice observations: when the risk of a percentage is that of its
ratio, and when a larger value has the larger or equal risk. -/
theorem seaIce_consistent_iff (o : Observation) (hmetric : o.metric = .seaIceConcentration) :
    (∀ unit, ∀ h : ValidValue o.metric unit (o.value / 100),
      isPercent o.unit = true → isPercent unit = false →
        (metricRisk o = metricRisk (reexpressed o unit (o.value / 100) h) ↔
          o.value = 0 ∨ 1 < o.value)) ∧
      ∀ o' : Observation, o'.metric = .seaIceConcentration → o.unit = o'.unit →
        o.value ≤ o'.value →
          ((∃ risk risk', metricRisk o = .ok risk ∧ metricRisk o' = .ok risk' ∧
            risk.val ≤ risk'.val) ↔
            o'.value ≤ 1 ∨ 1 < o.value ∨ o.value ≤ o'.value / 100) := by
  refine ⟨fun unit h _ _ => metricRisk_reexpressed_iff hmetric h, ?_⟩
  intro o' hmetric' _ hle
  rw [← bounded_iceShare_le_iff hmetric hmetric' hle, metricRisk_seaIce hmetric,
    metricRisk_seaIce hmetric']
  simp

theorem validValue_seaIce {unit : String} {value : ℚ}
    (h : 0 ≤ value ∧ value ≤ if isPercent unit then 100 else 1) :
    ValidValue .seaIceConcentration unit value :=
  ⟨fun hmem => absurd hmem (by decide), fun _ => h, fun hor => absurd hor (by decide),
    fun hmem => absurd hmem (by decide)⟩

theorem isPercent_percent : isPercent "percent" = true := by with_unfolding_all decide

theorem isPercent_ratio : isPercent "ratio" = false := by with_unfolding_all decide

/-- A reading of the ice chart in percent. -/
def icePercentage (value : ℚ) (h : 0 ≤ value ∧ value ≤ 100) : Observation where
  observationId := "ice"
  sourceId := "nsidc-sea-ice-index"
  sourceTrust := .authoritativePublic
  assertionClass := .ice
  metric := .seaIceConcentration
  value := value
  unit := "percent"
  observedAt := 0
  confidence := Score.one
  validValue := validValue_seaIce (by rwa [if_pos isPercent_percent])
  ordered := ordered_none_zero

theorem validValue_ratio {value : ℚ} (h : 0 ≤ value ∧ value ≤ 100) :
    ValidValue .seaIceConcentration "ratio" (value / 100) := by
  refine validValue_seaIce ⟨div_nonneg h.1 (by norm_num), ?_⟩
  rw [isPercent_ratio]
  norm_num
  linarith [h.2]

theorem seaIce_consistent_icePercentage :
    metricRisk (icePercentage 50 (by norm_num)) = metricRisk
      (reexpressed (icePercentage 50 (by norm_num)) "ratio" (50 / 100)
        (validValue_ratio (by norm_num))) :=
  ((seaIce_consistent_iff (icePercentage 50 (by norm_num)) rfl).1 "ratio"
    (validValue_ratio (by norm_num [icePercentage])) isPercent_percent isPercent_ratio).mpr
      (Or.inr (by norm_num [icePercentage]))

/-- One percent of ice is rated as a full ratio of one: above two percent, and not
as its ratio is. -/
theorem seaIce_one_percent :
    (¬ ∀ o : Observation, o.metric = .seaIceConcentration → isPercent o.unit = true →
      ∀ unit, ∀ h : ValidValue o.metric unit (o.value / 100), isPercent unit = false →
        metricRisk o = metricRisk (reexpressed o unit (o.value / 100) h)) ∧
      ¬ ∀ o o' : Observation, o.metric = .seaIceConcentration →
        o'.metric = .seaIceConcentration → o.unit = o'.unit → o.value ≤ o'.value →
          ∃ risk risk', metricRisk o = .ok risk ∧ metricRisk o' = .ok risk' ∧
            risk.val ≤ risk'.val := by
  constructor
  · intro h
    have heq := h (icePercentage 1 (by norm_num)) rfl isPercent_percent "ratio"
      (validValue_ratio (by norm_num [icePercentage])) isPercent_ratio
    have hvalue := (metricRisk_reexpressed_iff (o := icePercentage 1 (by norm_num)) rfl _).mp heq
    norm_num [icePercentage] at hvalue
  · intro h
    obtain ⟨risk, risk', h1, h2, hle⟩ := h (icePercentage 1 (by norm_num))
      (icePercentage 2 (by norm_num)) rfl rfl rfl (by norm_num [icePercentage])
    rw [metricRisk_seaIce rfl, Except.ok.injEq] at h1 h2
    subst h1 h2
    rw [bounded_iceShare_le_iff rfl rfl (by norm_num [icePercentage])] at hle
    norm_num [icePercentage] at hle

end ContinuityOS.Fusion
