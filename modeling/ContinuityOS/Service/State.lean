import ContinuityOS.Library.Dict
import ContinuityOS.Library.Fallible
import ContinuityOS.Library.Json
import ContinuityOS.Library.Text

/-! # The persistent state store

One JSON object in one file, read whole and replaced whole under an exclusive lock. An
operation reads the file and says what it would put in its place, if anything.
-/
namespace ContinuityOS.Service
open Library

abbrev Members := List (String × Json)

/-- What stands at the path of the state file. -/
inductive StateFile where
  | missing
  | unreadable
  | parsed (value : Json)

/-- `conflict` is the reuse of a key for a different request; `malformed` stands for the
exceptions of the language on values of foreign shape. -/
inductive StateError where
  | unreadable | notObject | conflict | noResponse | malformed
  | namespaceNotObject (name : String)
deriving DecidableEq

/-- The integer that a float literal and a text are converted to, if any. -/
structure IntReading where
  ofFloat : String → Option ℤ
  ofText : String → Option ℤ

def IntReading.int (r : IntReading) : Json → Option ℤ
  | .int n => some n
  | .bool b => some (if b then 1 else 0)
  | .float literal => r.ofFloat literal
  | .string text => r.ofText text
  | _ => none

namespace StateFile

def readUnlocked : StateFile → Except StateError Members
  | .missing => .ok []
  | .unreadable => .error .unreadable
  | .parsed (.object members) => .ok members
  | .parsed _ => .error .notObject

end StateFile

def recordKey (left right : String) : String := left ++ ":" ++ right

/-- Keys are told apart when their left parts have no colon. -/
theorem recordKey_inj {left left' right right' : String} (hl : ':' ∉ left.toList)
    (hl' : ':' ∉ left'.toList) (h : recordKey left right = recordKey left' right') :
    left = left' ∧ right = right' :=
  joined_inj (by decide) hl hl' h

/-- A section of the state, empty when it is absent. -/
def sectionOf (state : Members) (name : String) : Json :=
  (Bindings.lookup state name).getD (.object [])

def asObject (error : StateError) : Json → Except StateError Members
  | .object members => .ok members
  | _ => .error error

/-- A value under a key; null counts as absent. -/
def present (members : Members) (key : String) : Option Json :=
  match Bindings.lookup members key with
  | some .null => none
  | found => found

/-- Whether a value is the given text. -/
def isText (text : String) : Option Json → Bool
  | some (.string found) => found = text
  | _ => false

def idempotencyRecord (fingerprint response : String) : Json :=
  .object [("fingerprint", .string fingerprint), ("response", .string response)]

namespace StateFile
variable (file : StateFile)

def getIdempotent (space key fingerprint : String) : Except StateError (Option String) := do
  let state ← file.readUnlocked
  let records ← asObject .malformed (sectionOf state "idempotency")
  match present records (recordKey space key) with
  | none => return none
  | some (.object record) =>
    if isText fingerprint (Bindings.lookup record "fingerprint") then
      match Bindings.lookup record "response" with
      | some (.string response) => return some response
      | _ => throw .noResponse
    else throw .conflict
  | some _ => throw .conflict

def saveIdempotent (space key fingerprint response : String) : Except StateError Members := do
  let state ← file.readUnlocked
  let records ← asObject .malformed (sectionOf state "idempotency")
  let saved := Bindings.assign state "idempotency" <| .object <|
    Bindings.assign records (recordKey space key) (idempotencyRecord fingerprint response)
  match present records (recordKey space key) with
  | none => return saved
  | some existing =>
    let record ← asObject .malformed existing
    if isText fingerprint (Bindings.lookup record "fingerprint") then return saved
    else throw .conflict

/-- Nothing is written when the sequence is not above the previous one. -/
def claimSequence (r : IntReading) (tenantId assetId : String) (sequence : ℤ) :
    Except StateError (Option Members) := do
  let state ← file.readUnlocked
  let sequences ← asObject .malformed (sectionOf state "telemetry_sequences")
  let claimed := Bindings.assign state "telemetry_sequences" <| .object <|
    Bindings.assign sequences (recordKey tenantId assetId) (.int sequence)
  match present sequences (recordKey tenantId assetId) with
  | none => return some claimed
  | some found =>
    match r.int found with
    | none => throw .malformed
    | some previous => if sequence ≤ previous then return none else return some claimed

def getValue (name key : String) : Except StateError (Option Json) := do
  let state ← file.readUnlocked
  let members ← asObject (.namespaceNotObject name) (sectionOf state name)
  return present members key

def setValue (name key : String) (value : Json) : Except StateError Members := do
  let state ← file.readUnlocked
  let members ← asObject (.namespaceNotObject name) (sectionOf state name)
  return Bindings.assign state name (.object (Bindings.assign members key value))

end StateFile

section Sections

@[simp] theorem readUnlocked_object (members : Members) :
    (StateFile.parsed (.object members)).readUnlocked = .ok members := rfl

theorem sectionOf_assign (state : Members) (name other : String) (value : Json) :
    sectionOf (Bindings.assign state name value) other =
      if name = other then value else sectionOf state other := by
  unfold sectionOf
  rw [Bindings.lookup_assign]
  split_ifs <;> rfl

theorem present_assign (members : Members) (key other : String) {value : Json}
    (h : value ≠ .null) :
    present (Bindings.assign members key value) other =
      if key = other then some value else present members other := by
  unfold present
  rw [Bindings.lookup_assign]
  split_ifs
  · cases value <;> first | rfl | exact absurd rfl h
  · rfl

theorem asObject_eq_ok {error : StateError} {value : Json} {members : Members} :
    asObject error value = .ok members ↔ value = .object members := by
  cases value <;> simp [asObject]

@[simp] theorem isText_self (text : String) : isText text (some (.string text)) = true := by
  simp [isText]

end Sections

namespace StateFile
variable {file : StateFile}

/-- What a claim that writes has read, and what it writes. -/
theorem claimSequence_writes {r : IntReading} {tenantId assetId : String} {sequence : ℤ}
    {members : Members} (h : file.claimSequence r tenantId assetId sequence = .ok (some members)) :
    ∃ state sequences, file.readUnlocked = .ok state ∧
      sectionOf state "telemetry_sequences" = .object sequences ∧
      (∀ previous, (present sequences (recordKey tenantId assetId)).bind r.int = some previous →
        previous < sequence) ∧
      members = Bindings.assign state "telemetry_sequences" (.object
        (Bindings.assign sequences (recordKey tenantId assetId) (.int sequence))) := by
  simp only [claimSequence, bind_eq_ok, asObject_eq_ok] at h
  obtain ⟨state, hread, sequences, hsection, hmatch⟩ := h
  refine ⟨state, sequences, hread, hsection, ?_⟩
  cases hpresent : present sequences (recordKey tenantId assetId) with
  | none =>
    simp only [hpresent, pure_eq_ok, Except.ok.injEq, Option.some.injEq] at hmatch
    exact ⟨by simp, hmatch.symm⟩
  | some found =>
    cases hint : r.int found with
    | none => simp [hpresent, hint] at hmatch
    | some previous =>
      by_cases hle : sequence ≤ previous
      · simp [hpresent, hint, hle] at hmatch
      · simp only [hpresent, hint, hle, if_false, pure_eq_ok, Except.ok.injEq,
          Option.some.injEq] at hmatch
        refine ⟨?_, hmatch.symm⟩
        intro p hp
        rw [Option.bind_some, hint, Option.some.injEq] at hp
        omega

/-- A saved record goes into the idempotency section, and only there. -/
theorem saveIdempotent_writes {space key fingerprint response : String} {members : Members}
    (h : file.saveIdempotent space key fingerprint response = .ok members) :
    ∃ state records, file.readUnlocked = .ok state ∧
      sectionOf state "idempotency" = .object records ∧
      members = Bindings.assign state "idempotency" (.object (Bindings.assign records
        (recordKey space key) (idempotencyRecord fingerprint response))) := by
  simp only [saveIdempotent, bind_eq_ok, asObject_eq_ok] at h
  obtain ⟨state, hread, records, hsection, hmatch⟩ := h
  refine ⟨state, records, hread, hsection, ?_⟩
  cases hpresent : present records (recordKey space key) with
  | none =>
    simp only [hpresent, pure_eq_ok, Except.ok.injEq] at hmatch
    exact hmatch.symm
  | some existing =>
    simp only [hpresent, bind_eq_ok, asObject_eq_ok] at hmatch
    obtain ⟨record, -, hrecord⟩ := hmatch
    split_ifs at hrecord
    exact (Except.ok.inj hrecord).symm

theorem setValue_writes {name key : String} {value : Json} {members : Members}
    (h : file.setValue name key value = .ok members) :
    ∃ state found, file.readUnlocked = .ok state ∧ sectionOf state name = .object found ∧
      members = Bindings.assign state name (.object (Bindings.assign found key value)) := by
  simp only [setValue, bind_eq_ok, asObject_eq_ok] at h
  obtain ⟨state, hread, found, hsection, hmembers⟩ := h
  exact ⟨state, found, hread, hsection, (Except.ok.inj hmembers).symm⟩

/-- The lookup reads nothing but the idempotency section. -/
theorem getIdempotent_of_section {state records : Members} (hread : file.readUnlocked = .ok state)
    (hsection : sectionOf state "idempotency" = .object records) (space key fingerprint : String) :
    file.getIdempotent space key fingerprint =
      match present records (recordKey space key) with
      | none => .ok none
      | some (.object record) =>
        if isText fingerprint (Bindings.lookup record "fingerprint") then
          match Bindings.lookup record "response" with
          | some (.string response) => .ok (some response)
          | _ => .error .noResponse
        else .error .conflict
      | some _ => .error .conflict := by
  rw [getIdempotent, hread, ok_bind, hsection]
  rfl

/-- A saved response is found under its key and fingerprint; a different fingerprint
conflicts, and other keys are as before. -/
theorem getIdempotent_saveIdempotent {space key fingerprint response : String} {members : Members}
    (h : file.saveIdempotent space key fingerprint response = .ok members)
    (space' key' fingerprint' : String) :
    (parsed (.object members)).getIdempotent space' key' fingerprint' =
      if recordKey space key = recordKey space' key' then
        if fingerprint = fingerprint' then .ok (some response) else .error .conflict
      else file.getIdempotent space' key' fingerprint' := by
  obtain ⟨state, records, hread, hsection, rfl⟩ := saveIdempotent_writes h
  rw [getIdempotent_of_section (readUnlocked_object _) ((sectionOf_assign _ _ _ _).trans
    (if_pos rfl)), getIdempotent_of_section hread hsection,
    present_assign _ _ _ (by simp [idempotencyRecord])]
  by_cases hkey : recordKey space key = recordKey space' key'
  · by_cases hfingerprint : fingerprint = fingerprint'
    · simp [hkey, hfingerprint, idempotencyRecord, Bindings.lookup]
    · simp [hkey, hfingerprint, idempotencyRecord, Bindings.lookup, isText]
  · simp [hkey]

/-- Where the lookup raises nothing, a response can be saved. -/
theorem saveIdempotent_of_getIdempotent {space key fingerprint : String} {found : Option String}
    (h : file.getIdempotent space key fingerprint = .ok found) (response : String) :
    ∃ members, file.saveIdempotent space key fingerprint response = .ok members := by
  simp only [getIdempotent, bind_eq_ok, asObject_eq_ok] at h
  obtain ⟨state, hread, records, hsection, hmatch⟩ := h
  rw [saveIdempotent, hread, ok_bind, hsection, asObject, ok_bind]
  cases hpresent : present records (recordKey space key) with
  | none => exact ⟨_, rfl⟩
  | some existing =>
    rw [hpresent] at hmatch
    cases existing with
    | object record =>
      by_cases htext : isText fingerprint (Bindings.lookup record "fingerprint")
      · simp [asObject, htext]
      · simp [htext] at hmatch
    | _ => simp at hmatch

/-- The file can be read, and every section is an object. -/
def Sound (file : StateFile) : Prop :=
  ∃ state, file.readUnlocked = .ok state ∧ ∀ name, ∃ members, sectionOf state name = .object members

/-- The value under a key of a section. -/
def valueAt (file : StateFile) (name key : String) : Option Json :=
  match file.getValue name key with
  | .ok found => found
  | .error _ => none

theorem sound_missing : missing.Sound := ⟨[], rfl, fun _ => ⟨[], rfl⟩⟩

theorem getValue_of_section {state members : Members} {name : String}
    (hread : file.readUnlocked = .ok state) (hsection : sectionOf state name = .object members)
    (key : String) : file.getValue name key = .ok (present members key) := by
  rw [getValue, hread, ok_bind, hsection]
  rfl

theorem Sound.getValue (h : file.Sound) (name key : String) :
    file.getValue name key = .ok (file.valueAt name key) := by
  obtain ⟨state, hread, hsections⟩ := h
  obtain ⟨members, hsection⟩ := hsections name
  rw [valueAt, getValue_of_section hread hsection]

theorem sound_assign {state : Members}
    (hsections : ∀ name, ∃ members, sectionOf state name = .object members) (name : String)
    (members : Members) :
    (parsed (.object (Bindings.assign state name (.object members)))).Sound := by
  refine ⟨_, readUnlocked_object _, fun other => ?_⟩
  rw [sectionOf_assign]
  split_ifs
  · exact ⟨members, rfl⟩
  · exact hsections other

/-- The file after a value is set: the value is there, and everything else as before. -/
structure SetTo (file file' : StateFile) (name key : String) (value : Json) : Prop where
  sound : file'.Sound
  value : ∀ other k, file'.valueAt other k =
    if name = other ∧ key = k then some value else file.valueAt other k
  lookup : name ≠ "idempotency" → ∀ space k fingerprint,
    file'.getIdempotent space k fingerprint = file.getIdempotent space k fingerprint

theorem Sound.setValue (h : file.Sound) (name key : String) {value : Json}
    (hvalue : value ≠ .null) : ∃ members, file.setValue name key value = .ok members ∧
      SetTo file (parsed (.object members)) name key value := by
  obtain ⟨state, hread, hsections⟩ := h
  obtain ⟨found, hsection⟩ := hsections name
  refine ⟨Bindings.assign state name (.object (Bindings.assign found key value)), ?_, ?_⟩
  · rw [StateFile.setValue, hread, ok_bind, hsection]
    rfl
  · constructor
    · exact sound_assign hsections name _
    · intro other k
      obtain ⟨members, hother⟩ := hsections other
      rw [valueAt, valueAt, getValue_of_section hread hother]
      by_cases hname : name = other
      · subst hname
        obtain rfl : found = members := Json.object.inj (hsection.symm.trans hother)
        rw [getValue_of_section (readUnlocked_object _)
          ((sectionOf_assign _ _ _ _).trans (if_pos rfl)), present_assign _ _ _ hvalue]
        simp
      · rw [getValue_of_section (readUnlocked_object _)
          ((sectionOf_assign _ _ _ _).trans ((if_neg hname).trans hother))]
        simp [hname]
    · intro hname space k fingerprint
      obtain ⟨records, hrecords⟩ := hsections "idempotency"
      rw [getIdempotent_of_section hread hrecords, getIdempotent_of_section (readUnlocked_object _)
        ((sectionOf_assign _ _ _ _).trans ((if_neg hname).trans hrecords))]

/-- The file after a response is saved. -/
structure SavedTo (file file' : StateFile) (space key fingerprint response : String) : Prop where
  sound : file'.Sound
  value : ∀ name k, name ≠ "idempotency" → file'.valueAt name k = file.valueAt name k
  lookup : ∀ space' k fingerprint', file'.getIdempotent space' k fingerprint' =
    if recordKey space key = recordKey space' k then
      if fingerprint = fingerprint' then .ok (some response) else .error .conflict
    else file.getIdempotent space' k fingerprint'

theorem Sound.saveIdempotent (h : file.Sound) {space key fingerprint : String}
    {found : Option String} (hget : file.getIdempotent space key fingerprint = .ok found)
    (response : String) :
    ∃ members, file.saveIdempotent space key fingerprint response = .ok members ∧
      SavedTo file (parsed (.object members)) space key fingerprint response := by
  obtain ⟨state, hread, hsections⟩ := h
  obtain ⟨members, hsave⟩ := saveIdempotent_of_getIdempotent hget response
  refine ⟨members, hsave, ?_⟩
  have hlookup := getIdempotent_saveIdempotent hsave
  obtain ⟨state', records, hread', hsection, rfl⟩ := saveIdempotent_writes hsave
  obtain rfl : state = state' := Except.ok.inj (hread.symm.trans hread')
  constructor
  · exact sound_assign hsections _ _
  · intro name k hname
    obtain ⟨found, hfound⟩ := hsections name
    rw [valueAt, valueAt, getValue_of_section hread hfound,
      getValue_of_section (readUnlocked_object _)
        ((sectionOf_assign _ _ _ _).trans ((if_neg (Ne.symm hname)).trans hfound))]
  · exact hlookup

/-- The text that a lookup finds in a record. -/
def recordedResponse (fingerprint : String) : Option Json → Except StateError (Option String)
  | none => .ok none
  | some (.object record) =>
    if isText fingerprint (Bindings.lookup record "fingerprint") then
      match Bindings.lookup record "response" with
      | some (.string response) => .ok (some response)
      | _ => .error .noResponse
    else .error .conflict
  | some _ => .error .conflict

/-- Whether a sequence is claimed over what is stored. -/
def claimDecision (r : IntReading) (sequence : ℤ) : Option Json → Except StateError Bool
  | none => .ok true
  | some found =>
    match r.int found with
    | none => .error .malformed
    | some previous => .ok (previous < sequence)

/-- Whether a response may be saved over what is stored. -/
def saveDecision (fingerprint : String) : Option Json → Except StateError Bool
  | none => .ok true
  | some (.object record) =>
    if isText fingerprint (Bindings.lookup record "fingerprint") then .ok true
    else .error .conflict
  | some _ => .error .malformed

/-- A call that reads one value, decides, and sets it or leaves the file. -/
def Updates (call : StateFile → Except StateError (Option Members)) (name key : String)
    (value : Json) (decision : Option Json → Except StateError Bool) : Prop :=
  ∀ file : StateFile, file.Sound → call file = do
    let granted ← decision (file.valueAt name key)
    if granted then some <$> file.setValue name key value else return none

theorem valueAt_of_section {state members : Members} {name : String}
    (hread : file.readUnlocked = .ok state) (hsection : sectionOf state name = .object members)
    (key : String) : file.valueAt name key = present members key := by
  rw [valueAt, getValue_of_section hread hsection]

theorem setValue_of_section {state members : Members} {name : String}
    (hread : file.readUnlocked = .ok state) (hsection : sectionOf state name = .object members)
    (key : String) (value : Json) : file.setValue name key value =
      .ok (Bindings.assign state name (.object (Bindings.assign members key value))) := by
  rw [StateFile.setValue, hread, ok_bind, hsection]
  rfl

theorem Sound.getIdempotent_eq (h : file.Sound) (space key fingerprint : String) :
    file.getIdempotent space key fingerprint =
      recordedResponse fingerprint (file.valueAt "idempotency" (recordKey space key)) := by
  obtain ⟨state, hread, hsections⟩ := h
  obtain ⟨records, hrecords⟩ := hsections "idempotency"
  rw [getIdempotent_of_section hread hrecords, valueAt_of_section hread hrecords]
  rfl

theorem claimSequence_updates (r : IntReading) (tenantId assetId : String) (sequence : ℤ) :
    Updates (fun file => file.claimSequence r tenantId assetId sequence) "telemetry_sequences"
      (recordKey tenantId assetId) (.int sequence) (claimDecision r sequence) := by
  rintro file ⟨state, hread, hsections⟩
  obtain ⟨sequences, hsequences⟩ := hsections "telemetry_sequences"
  rw [valueAt_of_section hread hsequences, setValue_of_section hread hsequences]
  simp only [claimSequence, hread, ok_bind, hsequences, asObject]
  cases present sequences (recordKey tenantId assetId) with
  | none => rfl
  | some found =>
    cases hint : r.int found with
    | none => simp [claimDecision, hint]
    | some previous =>
      by_cases hle : sequence ≤ previous
      · simp [claimDecision, hint, hle]
      · have hlt : previous < sequence := not_le.mp hle
        simp [claimDecision, hint, hlt, hle]

theorem saveIdempotent_updates (space key fingerprint response : String) :
    Updates (fun file => some <$> file.saveIdempotent space key fingerprint response)
      "idempotency" (recordKey space key) (idempotencyRecord fingerprint response)
      (saveDecision fingerprint) := by
  rintro file ⟨state, hread, hsections⟩
  obtain ⟨records, hrecords⟩ := hsections "idempotency"
  rw [valueAt_of_section hread hrecords, setValue_of_section hread hrecords]
  simp only [saveIdempotent, hread, ok_bind, hrecords, asObject]
  cases present records (recordKey space key) with
  | none => rfl
  | some existing =>
    cases existing with
    | object record =>
      by_cases htext : isText fingerprint (Bindings.lookup record "fingerprint")
      · simp [saveDecision, htext]
      · simp [saveDecision, htext]
    | _ => rfl

/-- The lookup sees only the idempotency section of a file that can be read. -/
theorem getIdempotent_assign {state : Members} (hread : file.readUnlocked = .ok state)
    {name : String} (hname : name ≠ "idempotency") (value : Json)
    (space key fingerprint : String) :
    (parsed (.object (Bindings.assign state name value))).getIdempotent space key fingerprint =
      file.getIdempotent space key fingerprint := by
  rw [getIdempotent, getIdempotent, hread, readUnlocked_object, ok_bind, ok_bind,
    sectionOf_assign, if_neg hname]

end StateFile

end ContinuityOS.Service
