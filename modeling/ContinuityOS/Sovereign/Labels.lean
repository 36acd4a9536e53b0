import Mathlib.Data.Finset.Basic
import Mathlib.Tactic

/-! # Security labels

A label admits a reader by clearance, by compartments and by the reader's nation. Controls
are compared in upper case.
-/
namespace ContinuityOS.Sovereign

inductive DataClassification where
  | publicData
  | internal
  | unclassified
  | protectedA
  | protectedB
  | protectedC
  | restricted
  | confidential
  | secret
  | topSecret
  | cosmicTopSecret
deriving DecidableEq

namespace DataClassification

def value : DataClassification → String
  | publicData => "public"
  | internal => "internal"
  | unclassified => "unclassified"
  | protectedA => "protected_a"
  | protectedB => "protected_b"
  | protectedC => "protected_c"
  | restricted => "restricted"
  | confidential => "confidential"
  | secret => "secret"
  | topSecret => "top_secret"
  | cosmicTopSecret => "cosmic_top_secret"

/-- Clearance level for comparison. -/
def level : DataClassification → ℕ
  | publicData => 0
  | unclassified => 0
  | internal => 1
  | protectedA => 1
  | protectedB => 2
  | restricted => 2
  | protectedC => 3
  | confidential => 3
  | secret => 4
  | topSecret => 5
  | cosmicTopSecret => 6

end DataClassification

inductive DisseminationControl where
  | canadianEyesOnly
  | fiveEyes
  | natoSecret
  | noforn
deriving DecidableEq

/-- The upper case of a character. Only the characters whose upper case is made of basic
letters are changed. -/
def upperChar (c : Char) : List Char :=
  if c = '\u0131' then ['I']
  else if c = '\u017f' then ['S']
  else if c = '\u00df' then ['S', 'S']
  else if c = '\ufb00' then ['F', 'F']
  else if c = '\ufb01' then ['F', 'I']
  else if c = '\ufb02' then ['F', 'L']
  else if c = '\ufb03' then ['F', 'F', 'I']
  else if c = '\ufb04' then ['F', 'F', 'L']
  else if c = '\ufb05' then ['S', 'T']
  else if c = '\ufb06' then ['S', 'T']
  else [c.toUpper]

def upper (s : String) : String := String.ofList (s.toList.flatMap upperChar)

def fiveEyesNations : List String := ["CAN", "USA", "GBR", "AUS", "NZL"]

structure SecurityLabel where
  classification : DataClassification
  compartments : Finset String
  disseminationControls : Finset String
  releasableTo : Finset String
  ownerNation : String

namespace SecurityLabel
variable (label : SecurityLabel)

/-- Whether some control of the label has the name in upper case. -/
def controlled (name : String) : Bool := name ∈ label.disseminationControls.image upper

def isAuthorized (userClearance : DataClassification) (userNation : String)
    (userCompartments : Finset String) : Bool :=
  if userClearance.level < label.classification.level then false
  else if ¬ label.compartments ⊆ userCompartments then false
  else if (label.controlled "CANADIAN_EYES_ONLY" ∨ label.controlled "CEO") ∧ userNation ≠ "CAN" then
    false
  else if (label.controlled "CAN_US_FVEY" ∨ label.controlled "REL_TO_FVEY") ∧
      userNation ∉ fiveEyesNations then false
  else if label.controlled "NOFORN" ∧ userNation ≠ label.ownerNation then false
  else if label.controlled "REL_TO_CAN" ∧ userNation ≠ "CAN" ∧ userNation ≠ label.ownerNation then
    false
  else !(label.releasableTo.Nonempty ∧ userNation ∉ label.releasableTo ∧
    userNation ≠ label.ownerNation)

theorem isAuthorized_iff (userClearance : DataClassification) (userNation : String)
    (userCompartments : Finset String) :
    label.isAuthorized userClearance userNation userCompartments = true ↔
      label.classification.level ≤ userClearance.level ∧ label.compartments ⊆ userCompartments ∧
      ((label.controlled "CANADIAN_EYES_ONLY" ∨ label.controlled "CEO") → userNation = "CAN") ∧
      ((label.controlled "CAN_US_FVEY" ∨ label.controlled "REL_TO_FVEY") →
        userNation ∈ fiveEyesNations) ∧
      (label.controlled "NOFORN" → userNation = label.ownerNation) ∧
      (label.controlled "REL_TO_CAN" → userNation = "CAN" ∨ userNation = label.ownerNation) ∧
      (label.releasableTo.Nonempty → userNation ∈ label.releasableTo ∨
        userNation = label.ownerNation) := by
  unfold isAuthorized
  split_ifs with hlevel hcompartments hcanadian hallied hnoforn hreleased
  · simp [hlevel]
  · simp only [false_iff]
    exact fun h => hcanadian.2 (h.2.2.1 hcanadian.1)
  · simp only [false_iff]
    exact fun h => hallied.2 (h.2.2.2.1 hallied.1)
  · simp only [false_iff]
    exact fun h => hnoforn.2 (h.2.2.2.2.1 hnoforn.1)
  · simp only [false_iff]
    intro h
    cases h.2.2.2.2.2.1 hreleased.1 with
    | inl hcan => exact hreleased.2.1 hcan
    | inr howner => exact hreleased.2.2 howner
  · rw [not_and, not_not] at hcanadian hallied hnoforn
    simp only [not_and, not_not] at hreleased
    simp only [Bool.not_eq_true', decide_eq_false_iff_not, not_and, not_not]
    constructor
    · intro h
      refine ⟨not_lt.mp hlevel, hcompartments, hcanadian, hallied, hnoforn, ?_, ?_⟩
      · exact fun hcontrol => or_iff_not_imp_left.mpr (hreleased hcontrol)
      · exact fun hsome => or_iff_not_imp_left.mpr (h hsome)
    · exact fun h hsome => or_iff_not_imp_left.mp (h.2.2.2.2.2.2 hsome)
  · simp [hcompartments]

end SecurityLabel

end ContinuityOS.Sovereign
