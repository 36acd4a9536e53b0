import ContinuityOS.Library.Masking
import ContinuityOS.Sovereign.Labels

/-! # Transfer across domains

A transfer that the label allows drops five sensitive keys from the payload. Only the keys of
the payload itself are dropped: below them the payload passes as it is.
-/
namespace ContinuityOS.Sovereign
open Library Json

def sensitiveKeys : List String :=
  ["private_key", "internal_api_key", "raw_sensor_ip", "source_jwt", "hmac_secret"]

structure CrossDomainTransferResult where
  allowed : Bool
  sourceClassification : DataClassification
  targetClassification : DataClassification
  sanitizedFields : List String
  rejectionReasons : List String
  sanitizedPayload : List (String × Json)

def pop (payload : List (String × Json)) (key : String) : List (String × Json) :=
  payload.filter fun m => m.1 ≠ key

/-- What is left of the payload, and the keys that were dropped. -/
def stripSensitive (payload : List (String × Json)) : List (String × Json) × List String :=
  sensitiveKeys.foldl (fun stripped key =>
    if key ∈ stripped.1.map Prod.fst then (pop stripped.1 key, stripped.2 ++ [key]) else stripped)
    (payload, [])

section Filter
variable (showSet : Finset String → String) (payload : List (String × Json))
  (sourceLabel : SecurityLabel) (targetClearance : DataClassification) (targetNation : String)
  (targetCompartments : Finset String)

def rejected (reason : String) : CrossDomainTransferResult where
  allowed := false
  sourceClassification := sourceLabel.classification
  targetClassification := targetClearance
  sanitizedFields := []
  rejectionReasons := [reason]
  sanitizedPayload := []

/-- How a set is printed depends on the interpreter and is a parameter. -/
def filterPayload : CrossDomainTransferResult :=
  if targetClearance.level < sourceLabel.classification.level then
    rejected sourceLabel targetClearance
      ("Classification downgrade prohibited: source is " ++ sourceLabel.classification.value ++
        " but target clearance is " ++ targetClearance.value)
  else if ¬ sourceLabel.isAuthorized targetClearance targetNation targetCompartments then
    rejected sourceLabel targetClearance
      ("Dissemination controls violated for nation=" ++ targetNation ++ " controls=" ++
        showSet sourceLabel.disseminationControls)
  else
    { allowed := true
      sourceClassification := sourceLabel.classification
      targetClassification := targetClearance
      sanitizedFields := (stripSensitive payload).2
      rejectionReasons := []
      sanitizedPayload := (stripSensitive payload).1 }

end Filter

section Strip

/-- Two payloads that differ at most in the values under sensitive keys, at any depth. -/
def SameExceptSecrets (p q : List (String × Json)) : Prop :=
  SameDict (maskMembers (· ∈ sensitiveKeys) .null p) (maskMembers (· ∈ sensitiveKeys) .null q)

/-- A sensitive key below the keys of the payload itself. -/
def NestedSecret (p : List (String × Json)) : Prop :=
  ∃ m ∈ p, m.1 ∉ sensitiveKeys ∧ holdsHidden (· ∈ sensitiveKeys) m.2 = true

theorem strip_eq (keys : List String) (payload : List (String × Json)) (fields : List String) :
    (keys.foldl (fun (stripped : List (String × Json) × List String) key =>
      if key ∈ stripped.1.map Prod.fst then (pop stripped.1 key, stripped.2 ++ [key])
      else stripped) (payload, fields)).1 = payload.filter fun m => m.1 ∉ keys := by
  induction keys generalizing payload fields with
  | nil => simp
  | cons key keys ih =>
    have hpop : (pop payload key).filter (fun m => m.1 ∉ keys) =
        payload.filter fun m => m.1 ∉ key :: keys := by
      rw [pop, List.filter_filter]
      apply List.filter_congr
      intro m _
      simp [Bool.and_comm]
    rw [List.foldl_cons]
    by_cases hkey : key ∈ payload.map Prod.fst
    · rw [if_pos hkey, ih, hpop]
    · have hsame : pop payload key = payload := by
        apply List.filter_eq_self.mpr
        intro m hm
        refine decide_eq_true fun heq => hkey ?_
        rw [← heq]
        exact List.mem_map_of_mem hm
      rw [if_neg hkey, ih, ← hpop, hsame]

theorem stripSensitive_eq (payload : List (String × Json)) :
    (stripSensitive payload).1 = payload.filter fun m => m.1 ∉ sensitiveKeys :=
  strip_eq sensitiveKeys payload []

theorem nestedSecret_iff (p : List (String × Json)) : NestedSecret p ↔
    holdsHiddenMembers (· ∈ sensitiveKeys) (stripSensitive p).1 = true := by
  rw [stripSensitive_eq, holdsHiddenMembers_eq_any, List.any_eq_true]
  simp only [NestedSecret, List.mem_filter, decide_eq_true_eq, Bool.or_eq_true, and_assoc]
  refine exists_congr fun m => and_congr_right fun _ => and_congr_right fun hkey => ?_
  exact ⟨Or.inr, fun h => h.resolve_left hkey⟩

theorem stripSensitive_mask (c : Json) (p : List (String × Json)) :
    (stripSensitive (maskMembers (· ∈ sensitiveKeys) c p)).1 =
      maskMembers (· ∈ sensitiveKeys) c (stripSensitive p).1 := by
  rw [stripSensitive_eq, stripSensitive_eq]
  exact (maskMembers_filter (fun key => key ∉ sensitiveKeys) p).symm

theorem stripSensitive_sameDict {p q : List (String × Json)} (h : SameDict p q) :
    SameDict (stripSensitive p).1 (stripSensitive q).1 := by
  rw [stripSensitive_eq, stripSensitive_eq]
  exact h.filter fun key => key ∉ sensitiveKeys

theorem sameExceptSecrets_mask (c : Json) (p : List (String × Json)) :
    SameExceptSecrets p (maskMembers (· ∈ sensitiveKeys) c p) := by
  rw [SameExceptSecrets, maskMembers_mask]
  rfl

/-- Stripping hides the secrets of a payload exactly when none is nested. -/
theorem stripSensitive_hides_iff (p : List (String × Json)) :
    (∀ q, SameExceptSecrets p q → SameDict (stripSensitive p).1 (stripSensitive q).1) ↔
      ¬ NestedSecret p := by
  rw [nestedSecret_iff, Bool.not_eq_true]
  constructor
  · intro h
    have hnull := h _ (sameExceptSecrets_mask .null p)
    have htrue := h _ (sameExceptSecrets_mask (.bool true) p)
    rw [stripSensitive_mask] at hnull htrue
    exact clear_of_sameDict rfl rfl (by simp) (hnull.symm.trans htrue)
  · intro hclear q hq
    have hmasked := stripSensitive_sameDict hq
    rw [stripSensitive_mask, stripSensitive_mask] at hmasked
    exact sameDict_of_masked hclear hmasked

end Strip

section Transfer
variable {showSet : Finset String → String} {payload : List (String × Json)}
  {sourceLabel : SecurityLabel} {targetClearance : DataClassification} {targetNation : String}
  {targetCompartments : Finset String}

theorem filterPayload_allowed (h : (filterPayload showSet payload sourceLabel targetClearance
    targetNation targetCompartments).allowed = true) (other : List (String × Json)) :
    (filterPayload showSet other sourceLabel targetClearance targetNation
      targetCompartments).sanitizedPayload = (stripSensitive other).1 := by
  unfold filterPayload at h ⊢
  split_ifs at h ⊢
  · cases h
  · rfl
  · cases h

/-- An allowed transfer shows nothing of the secrets exactly when no secret is nested. -/
theorem filterPayload_hides_iff (showSet : Finset String → String)
    (payload : List (String × Json)) (sourceLabel : SecurityLabel)
    (targetClearance : DataClassification) (targetNation : String)
    (targetCompartments : Finset String)
    (hallowed : (filterPayload showSet payload sourceLabel targetClearance targetNation
      targetCompartments).allowed = true) :
    (∀ other, SameExceptSecrets payload other →
      SameDict
        (filterPayload showSet payload sourceLabel targetClearance targetNation
          targetCompartments).sanitizedPayload
        (filterPayload showSet other sourceLabel targetClearance targetNation
          targetCompartments).sanitizedPayload) ↔
      ¬ NestedSecret payload := by
  simp only [filterPayload_allowed hallowed]
  exact stripSensitive_hides_iff payload

/-- A label that everyone may read. -/
def openLabel : SecurityLabel where
  classification := .unclassified
  compartments := ∅
  disseminationControls := ∅
  releasableTo := ∅
  ownerNation := "CAN"

theorem openLabel_allowed (payload : List (String × Json)) :
    (filterPayload (fun _ => "set()") payload openLabel .unclassified "CAN" ∅).allowed = true := by
  rfl

theorem filterPayload_hides_flat :
    (∀ other, SameExceptSecrets [("private_key", .string "k"), ("port", .int 1)] other →
      SameDict
        (filterPayload (fun _ => "set()") [("private_key", .string "k"), ("port", .int 1)] openLabel
          .unclassified "CAN" ∅).sanitizedPayload
        (filterPayload (fun _ => "set()") other openLabel .unclassified "CAN" ∅).sanitizedPayload) ↔
      ¬ NestedSecret [("private_key", .string "k"), ("port", .int 1)] :=
  filterPayload_hides_iff (fun _ => "set()") _ openLabel .unclassified "CAN" ∅ (openLabel_allowed _)

/-- Two payloads with a different key for the device come out different. -/
theorem filterPayload_leaks :
    ¬ ∀ (showSet : Finset String → String) (payload : List (String × Json))
      (sourceLabel : SecurityLabel) (targetClearance : DataClassification) (targetNation : String)
      (targetCompartments : Finset String),
      (filterPayload showSet payload sourceLabel targetClearance targetNation
        targetCompartments).allowed = true →
      ∀ other, SameExceptSecrets payload other →
        SameDict
          (filterPayload showSet payload sourceLabel targetClearance targetNation
            targetCompartments).sanitizedPayload
          (filterPayload showSet other sourceLabel targetClearance targetNation
            targetCompartments).sanitizedPayload := by
  intro h
  have hleak := h (fun _ => "set()") [("device", .object [("private_key", .string "k")])] openLabel
    .unclassified "CAN" ∅ (openLabel_allowed _) [("device", .object [("private_key", .string "l")])] rfl
  rw [filterPayload_allowed (openLabel_allowed []), filterPayload_allowed (openLabel_allowed []),
    stripSensitive_eq, stripSensitive_eq] at hleak
  simp [sameDict_iff, sensitiveKeys, sortKeysMembers, sortKeys, sortedBy] at hleak

end Transfer

end ContinuityOS.Sovereign
