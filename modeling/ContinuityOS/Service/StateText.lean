import ContinuityOS.Library.JsonOrder
import ContinuityOS.Service.State

/-! # The state store on the disk

A state is written as text to a temporary file that then takes the place of the state file. The
process may be killed, or the disk may refuse, after any of these steps. A store in which this
happens is compared with a map of values: what a call answers is what the map says, and an
interrupted call has either changed the map or left it.
-/
namespace ContinuityOS.Service
open Library StateFile

def stateText (state : Members) : List Char :=
  Json.Style.compactAscii.write (Json.object state).sortKeys

/-- The state file, and a temporary file while it is written. -/
structure Disk where
  path : Option (List Char) := none
  temporary : Option (List Char) := none
  abandoned : List (List Char) := []

inductive FileStep where
  | mkstemp
  | put (c : Char)
  | replace

namespace Disk

def apply (disk : Disk) : FileStep → Disk
  | .mkstemp => { disk with temporary := some [] }
  | .put c => { disk with temporary := disk.temporary.map (· ++ [c]) }
  | .replace => { disk with path := disk.temporary, temporary := none }

def applyAll (disk : Disk) (steps : List FileStep) : Disk := steps.foldl apply disk

def file (disk : Disk) : StateFile :=
  match disk.path with
  | none => .missing
  | some text =>
    match Json.loads text with
    | none => .unreadable
    | some value => .parsed value

end Disk

def writeUnlocked (state : Members) : List FileStep :=
  .mkstemp :: ((stateText state).map .put ++ [.replace])

inductive StateCall where
  | getIdempotent (space key fingerprint : String)
  | saveIdempotent (space key fingerprint response : String)
  | claimSequence (tenantId assetId : String) (sequence : ℤ)
  | getValue (name key : String)
  | setValue (name key : String) (value : Json)

inductive StateAnswer where
  | response (found : Option String)
  | saved
  | claimed (granted : Bool)
  | value (found : Option Json)

/-- How a call ends: it returns, the process is killed after some steps on the files, or the
step after them fails. -/
inductive CallFate where
  | returns
  | killed (steps : ℕ)
  | fails (steps : ℕ)

inductive Outcome where
  | answered (answer : Except StateError StateAnswer)
  | osError
  | lost

def CallFate.outcome (answer : Except StateError StateAnswer) : CallFate → Outcome
  | .returns => .answered answer
  | .killed _ => .lost
  | .fails _ => .osError

/-- What a call answers, and the state that it writes. -/
def StateFile.perform (r : IntReading) (file : StateFile) :
    StateCall → Except StateError (StateAnswer × Option Members)
  | .getIdempotent space key fingerprint => do
    let found ← file.getIdempotent space key fingerprint
    return (.response found, none)
  | .saveIdempotent space key fingerprint response => do
    let state ← file.saveIdempotent space key fingerprint response
    return (.saved, some state)
  | .claimSequence tenantId assetId sequence => do
    let state ← file.claimSequence r tenantId assetId sequence
    return (.claimed state.isSome, state)
  | .getValue name key => do
    let found ← file.getValue name key
    return (.value found, none)
  | .setValue name key value => do
    let state ← file.setValue name key value
    return (.saved, some state)

/-- The steps on the files that a call makes when nothing interrupts it. -/
def stepsOf : Except StateError (StateAnswer × Option Members) → List FileStep
  | .ok (_, some state) => writeUnlocked state
  | _ => []

namespace Disk

/-- A killed process leaves its temporary file behind; one that goes on removes it. -/
def interrupted (disk : Disk) (steps : List FileStep) : CallFate → Disk
  | .returns => disk.applyAll steps
  | .killed n =>
    let left := disk.applyAll (steps.take n)
    { left with temporary := none, abandoned := left.abandoned ++ left.temporary.toList }
  | .fails n => { disk.applyAll (steps.take n) with temporary := none }

def perform (r : IntReading) (disk : Disk) (call : StateCall) (fate : CallFate) : Outcome × Disk :=
  let done := disk.file.perform r call
  (fate.outcome (Prod.fst <$> done), disk.interrupted (stepsOf done) fate)

end Disk

/-- The value under each key of each section. -/
abbrev Values := String → String → Option Json

/-- A value as it is read back; null counts as absent. -/
def readBack : Json → Option Json
  | .null => none
  | value => some value.sortKeys

namespace Values

def empty : Values := fun _ _ => none

def put (values : Values) (name key : String) (value : Json) : Values := fun other k =>
  if name = other ∧ key = k then readBack value else values other k

def perform (r : IntReading) (values : Values) :
    StateCall → Except StateError (StateAnswer × Values)
  | .getIdempotent space key fingerprint => do
    let found ← recordedResponse fingerprint (values "idempotency" (recordKey space key))
    return (.response found, values)
  | .saveIdempotent space key fingerprint response => do
    let _ ← saveDecision fingerprint (values "idempotency" (recordKey space key))
    return (.saved, values.put "idempotency" (recordKey space key)
      (idempotencyRecord fingerprint response))
  | .claimSequence tenantId assetId sequence => do
    let granted ← claimDecision r sequence
      (values "telemetry_sequences" (recordKey tenantId assetId))
    return (.claimed granted, if granted then
      values.put "telemetry_sequences" (recordKey tenantId assetId) (.int sequence) else values)
  | .getValue name key => return (.value (values name key), values)
  | .setValue name key value => return (.saved, values.put name key value)

/-- The map after a call; an error leaves it. -/
def next (r : IntReading) (values : Values) (call : StateCall) : Values :=
  match values.perform r call with
  | .ok (_, after) => after
  | .error _ => values

end Values

/-- Every call on the disk ends as the map says; an interrupted one has changed the map or left
it. In the end every value is read as the map has it. -/
def Explained (r : IntReading) : Values → Disk → List (StateCall × CallFate) → Prop
  | values, disk, [] => ∀ name key, disk.file.getValue name key = .ok (values name key)
  | values, disk, (call, fate) :: calls =>
    (disk.perform r call fate).1 = fate.outcome (Prod.fst <$> values.perform r call) ∧
    ∃ after, (after = values.next r call ∨ fate ≠ .returns ∧ after = values) ∧
      Explained r after (disk.perform r call fate).2 calls

/-- The values of a state, each as it is read back. -/
structure KeepsValues (state : Members) (values : Values) : Prop where
  proper : (Json.object state).proper = true
  sections : ∀ name, ∃ members, sectionOf state name = .object members
  values : ∀ name members, sectionOf state name = .object members → ∀ key,
    values name key = (present members key).map Json.sortKeys

def Disk.Holds (disk : Disk) (values : Values) : Prop :=
  ∃ state, KeepsValues state values ∧ disk.file.readUnlocked = .ok (Json.sortedMembers state)

section Sorted

theorem present_eq_bind (members : Members) (key : String) : present members key =
    (Bindings.lookup members key).bind fun value => (readBack value).map fun _ => value := by
  unfold present
  cases Bindings.lookup members key with
  | none => rfl
  | some value => cases value <;> rfl

theorem present_set (members : Members) (key other : String) (value : Json) :
    (present (Bindings.assign members key value) other).map Json.sortKeys =
      if key = other then readBack value else (present members other).map Json.sortKeys := by
  rw [present_eq_bind, present_eq_bind, Bindings.lookup_assign]
  split_ifs
  · cases value <;> rfl
  · rfl

theorem present_sortedMembers {members : Members} (h : (members.map Prod.fst).Nodup)
    (key : String) :
    present (Json.sortedMembers members) key = (present members key).map Json.sortKeys := by
  rw [present_eq_bind, present_eq_bind, Json.lookup_sortedMembers h]
  cases Bindings.lookup members key with
  | none => rfl
  | some value => cases value <;> rfl

theorem sectionOf_sortedMembers {state : Members} (h : (state.map Prod.fst).Nodup)
    (name : String) :
    sectionOf (Json.sortedMembers state) name = (sectionOf state name).sortKeys := by
  rw [sectionOf, sectionOf, Json.lookup_sortedMembers h]
  cases Bindings.lookup state name <;> rfl

theorem proper_section {state members : Members} {name : String}
    (h : (Json.object state).proper = true) (hsection : sectionOf state name = .object members) :
    (Json.object members).proper = true := by
  unfold sectionOf at hsection
  cases hfound : Bindings.lookup state name with
  | none =>
    rw [hfound, Option.getD_none] at hsection
    cases hsection
    rfl
  | some value =>
    rw [hfound, Option.getD_some] at hsection
    subst hsection
    exact Json.proper_of_lookup h hfound

theorem proper_present {members : Members} {key : String} {value : Json}
    (h : (Json.object members).proper = true) (hfound : present members key = some value) :
    value.proper = true := by
  rw [present_eq_bind] at hfound
  obtain ⟨found, hlookup, hread⟩ := Option.bind_eq_some_iff.mp hfound
  obtain ⟨-, -, rfl⟩ := Option.map_eq_some_iff.mp hread
  exact Json.proper_of_lookup h hlookup

end Sorted

namespace KeepsValues
variable {state : Members} {values : Values}

theorem nodup (h : KeepsValues state values) : (state.map Prod.fst).Nodup :=
  (Json.proper_object_iff.mp h.proper).1

theorem map_sortKeys (h : KeepsValues state values) (name key : String) :
    (values name key).map Json.sortKeys = values name key := by
  obtain ⟨members, hsection⟩ := h.sections name
  rw [h.values name members hsection, Option.map_map]
  cases hfound : present members key with
  | none => rfl
  | some value =>
    exact congrArg some (Json.sortKeys_sortKeys value
      (proper_present (proper_section h.proper hsection) hfound))

/-- The sections of the state that is read. -/
theorem sorted_section (h : KeepsValues state values) (name : String) :
    ∃ members, sectionOf (Json.sortedMembers state) name = .object members ∧
      (Json.object members).proper = true ∧ ∀ key, present members key = values name key := by
  obtain ⟨members, hsection⟩ := h.sections name
  have hproper := proper_section h.proper hsection
  refine ⟨Json.sortedMembers members, ?_, ?_, fun key => ?_⟩
  · rw [sectionOf_sortedMembers h.nodup, hsection, Json.sortKeys_object]
  · rw [← Json.sortKeys_object]
    exact Json.proper_sortKeys _ hproper
  · rw [present_sortedMembers (Json.proper_object_iff.mp hproper).1, h.values name members hsection]

end KeepsValues

theorem keeps_nil : KeepsValues [] Values.empty where
  proper := rfl
  sections _ := ⟨[], rfl⟩
  values _ _ hsection _ := by cases hsection; rfl

namespace Disk.Holds
variable {disk : Disk} {values : Values}

theorem sound (h : disk.Holds values) : disk.file.Sound := by
  obtain ⟨state, hkeeps, hread⟩ := h
  refine ⟨_, hread, fun name => ?_⟩
  obtain ⟨members, hsection, -⟩ := hkeeps.sorted_section name
  exact ⟨members, hsection⟩

theorem valueAt (h : disk.Holds values) (name key : String) :
    disk.file.valueAt name key = values name key := by
  obtain ⟨state, hkeeps, hread⟩ := h
  obtain ⟨members, hsection, -, hpresent⟩ := hkeeps.sorted_section name
  rw [valueAt_of_section hread hsection, hpresent]

theorem getValue (h : disk.Holds values) (name key : String) :
    disk.file.getValue name key = .ok (values name key) := by
  rw [h.sound.getValue, h.valueAt]

theorem setValue (h : disk.Holds values) (name key : String) {value : Json}
    (hvalue : value.proper = true) :
    ∃ state, disk.file.setValue name key value = .ok state ∧
      KeepsValues state (values.put name key value) := by
  obtain ⟨state, hkeeps, hread⟩ := h
  obtain ⟨found, hfound, hproper, hpresent⟩ := hkeeps.sorted_section name
  have hstate : (Json.object (Json.sortedMembers state)).proper = true := by
    rw [← Json.sortKeys_object]
    exact Json.proper_sortKeys _ hkeeps.proper
  refine ⟨_, setValue_of_section hread hfound key value, ?_, fun other => ?_, ?_⟩
  · exact Json.proper_assign hstate (Json.proper_assign hproper hvalue)
  · rw [sectionOf_assign]
    split_ifs
    · exact ⟨_, rfl⟩
    · obtain ⟨members, hmembers, -⟩ := hkeeps.sorted_section other
      exact ⟨members, hmembers⟩
  · intro other members hmembers k
    rw [sectionOf_assign] at hmembers
    by_cases hname : name = other
    · rw [if_pos hname, Json.object.injEq] at hmembers
      subst hname hmembers
      rw [present_set, hpresent, hkeeps.map_sortKeys]
      simp [Values.put]
    · rw [if_neg hname] at hmembers
      obtain ⟨members', hmembers', -, hpresent'⟩ := hkeeps.sorted_section other
      cases hmembers.symm.trans hmembers'
      rw [hpresent', hkeeps.map_sortKeys]
      simp [Values.put, hname]

end Disk.Holds

section Writing
variable {disk : Disk} {state : Members} {values : Values}

theorem applyAll_put (disk : Disk) {text : List Char} (h : disk.temporary = some text)
    (more : List Char) :
    disk.applyAll (more.map .put) = { disk with temporary := some (text ++ more) } := by
  induction more generalizing disk text with
  | nil => rw [List.append_nil, ← h]; rfl
  | cons c more ih =>
    have hput : disk.apply (.put c) = { disk with temporary := some (text ++ [c]) } := by
      rw [Disk.apply, h]
      rfl
    calc disk.applyAll ((c :: more).map .put)
        = (disk.apply (.put c)).applyAll (more.map .put) := rfl
      _ = { disk with temporary := some (text ++ [c] ++ more) } := by rw [hput, ih _ rfl]
      _ = { disk with temporary := some (text ++ c :: more) } := by
        rw [List.append_assoc, List.singleton_append]

/-- All steps put the text at the path. -/
theorem path_writeUnlocked (disk : Disk) (state : Members) :
    (disk.applyAll (writeUnlocked state)).path = some (stateText state) := by
  have hsplit : disk.applyAll (writeUnlocked state) =
      ((disk.apply .mkstemp).applyAll ((stateText state).map .put)).apply .replace := by
    rw [writeUnlocked, Disk.applyAll, List.foldl_cons, List.foldl_append]
    rfl
  rw [hsplit, applyAll_put _ rfl, List.nil_append]
  rfl

theorem path_applyAll (disk : Disk) {steps : List FileStep} (h : FileStep.replace ∉ steps) :
    (disk.applyAll steps).path = disk.path := by
  induction steps generalizing disk with
  | nil => rfl
  | cons step steps ih =>
    have hsame : (disk.apply step).path = disk.path := by
      cases step with
      | replace => exact absurd List.mem_cons_self h
      | _ => rfl
    exact (ih _ (List.not_mem_of_not_mem_cons h)).trans hsame

/-- A write that is cut short leaves the path, or has put the whole text there. -/
theorem path_take (disk : Disk) (state : Members) (n : ℕ) :
    (disk.applyAll ((writeUnlocked state).take n)).path = disk.path ∨
      (disk.applyAll ((writeUnlocked state).take n)).path = some (stateText state) := by
  by_cases hn : n ≤ ((stateText state).map FileStep.put).length + 1
  · refine Or.inl (path_applyAll disk fun hmem => ?_)
    have hprefix : FileStep.replace ∈ FileStep.mkstemp :: (stateText state).map FileStep.put := by
      rw [writeUnlocked, ← List.cons_append, List.take_append_of_le_length hn] at hmem
      exact List.mem_of_mem_take hmem
    simp at hprefix
  · have hall : (writeUnlocked state).length ≤ n := by
      simp only [writeUnlocked, List.length_cons, List.length_append, List.length_nil]
      omega
    rw [List.take_of_length_le hall]
    exact Or.inr (path_writeUnlocked disk state)

theorem file_of_path {disk disk' : Disk} (h : disk'.path = disk.path) : disk'.file = disk.file := by
  rw [Disk.file, Disk.file, h]

theorem KeepsValues.holds (h : KeepsValues state values)
    (hpath : disk.path = some (stateText state)) : disk.Holds values := by
  refine ⟨state, h, ?_⟩
  have hloads : Json.loads (stateText state) = some (.object (Json.sortedMembers state)) := by
    rw [stateText, Json.loads_write _ (Json.proper_sortKeys _ h.proper), Json.sortKeys_object]
  rw [Disk.file, hpath]
  simp only [hloads]
  rfl

theorem Disk.Holds.of_path (h : disk.Holds values) {disk' : Disk} (hpath : disk'.path = disk.path) :
    disk'.Holds values := by
  obtain ⟨state, hkeeps, hread⟩ := h
  exact ⟨state, hkeeps, (file_of_path hpath).symm ▸ hread⟩

end Writing

section Calls
variable {r : IntReading} {disk : Disk} {values : Values}

/-- What a call on the disk answers and writes, in terms of the map. -/
structure Agrees (r : IntReading) (disk : Disk) (values : Values) (call : StateCall) : Prop where
  answer : Prod.fst <$> disk.file.perform r call = Prod.fst <$> values.perform r call
  writes : stepsOf (disk.file.perform r call) = [] ∧ values.next r call = values ∨
    ∃ state, stepsOf (disk.file.perform r call) = writeUnlocked state ∧
      KeepsValues state (values.next r call)

theorem agrees_of_error {call : StateCall} {e : StateError}
    (hdisk : disk.file.perform r call = .error e) (hvalues : values.perform r call = .error e) :
    Agrees r disk values call where
  answer := by rw [hdisk, hvalues]; rfl
  writes := Or.inl ⟨by rw [hdisk]; rfl, by rw [Values.next, hvalues]⟩

theorem agrees_of_reads {call : StateCall} {answer : StateAnswer}
    (hdisk : disk.file.perform r call = .ok (answer, none))
    (hvalues : values.perform r call = .ok (answer, values)) : Agrees r disk values call where
  answer := by rw [hdisk, hvalues]; rfl
  writes := Or.inl ⟨by rw [hdisk]; rfl, by rw [Values.next, hvalues]⟩

theorem agrees_of_writes {call : StateCall} {answer : StateAnswer} {state : Members}
    {after : Values} (hdisk : disk.file.perform r call = .ok (answer, some state))
    (hvalues : values.perform r call = .ok (answer, after)) (hkeeps : KeepsValues state after) :
    Agrees r disk values call where
  answer := by rw [hdisk, hvalues]; rfl
  writes := Or.inr ⟨state, by rw [hdisk]; rfl, by rwa [Values.next, hvalues]⟩

/-- A call that reads one value, decides, and sets it. -/
theorem Disk.Holds.updates (h : disk.Holds values) {call : StateCall}
    {update : StateFile → Except StateError (Option Members)} {name key : String} {value : Json}
    {decision : Option Json → Except StateError Bool} (answer : Bool → StateAnswer)
    (hupdates : Updates update name key value decision) (hproper : value.proper = true)
    (hdisk : disk.file.perform r call = do
      let state ← update disk.file
      return (answer state.isSome, state))
    (hvalues : values.perform r call = do
      let granted ← decision (values name key)
      return (answer granted, if granted then values.put name key value else values)) :
    Agrees r disk values call := by
  rw [hupdates disk.file h.sound, h.valueAt] at hdisk
  cases hdecision : decision (values name key) with
  | error e =>
    rw [hdecision] at hdisk hvalues
    exact agrees_of_error hdisk hvalues
  | ok granted =>
    rw [hdecision, ok_bind] at hdisk hvalues
    cases granted with
    | false => exact agrees_of_reads hdisk hvalues
    | true =>
      obtain ⟨state, hset, hkeeps⟩ := h.setValue name key hproper
      rw [if_pos rfl, hset] at hdisk
      exact agrees_of_writes hdisk hvalues hkeeps

theorem Disk.Holds.saveIdempotent (h : disk.Holds values)
    (space key fingerprint response : String) :
    Agrees r disk values (.saveIdempotent space key fingerprint response) := by
  refine h.updates (fun _ => .saved)
    (saveIdempotent_updates space key fingerprint response) rfl ?_ ?_
  · rw [StateFile.perform]
    cases disk.file.saveIdempotent space key fingerprint response <;> rfl
  · rw [Values.perform]
    cases values "idempotency" (recordKey space key) with
    | none => rfl
    | some found =>
      cases found with
      | object record =>
        rw [saveDecision]
        split_ifs <;> rfl
      | _ => rfl

theorem Disk.Holds.agrees (h : disk.Holds values) (call : StateCall)
    (hproper : ∀ name key value, call = .setValue name key value → value.proper = true) :
    Agrees r disk values call := by
  cases call with
  | getIdempotent space key fingerprint =>
    have hget := h.sound.getIdempotent_eq space key fingerprint
    rw [h.valueAt] at hget
    cases hfound : recordedResponse fingerprint (values "idempotency" (recordKey space key)) with
    | error e =>
      rw [hfound] at hget
      exact agrees_of_error (by rw [StateFile.perform, hget]; rfl)
        (by rw [Values.perform, hfound]; rfl)
    | ok found =>
      rw [hfound] at hget
      exact agrees_of_reads (by rw [StateFile.perform, hget]; rfl)
        (by rw [Values.perform, hfound]; rfl)
  | saveIdempotent space key fingerprint response => exact h.saveIdempotent _ _ _ _
  | claimSequence tenantId assetId sequence =>
    exact h.updates .claimed (claimSequence_updates r tenantId assetId sequence) rfl
      rfl rfl
  | getValue name key =>
    exact agrees_of_reads (by rw [StateFile.perform, h.getValue]; rfl) rfl
  | setValue name key value =>
    obtain ⟨state, hset, hkeeps⟩ := h.setValue name key (hproper name key value rfl)
    exact agrees_of_writes (by rw [StateFile.perform, hset]; rfl) rfl hkeeps

/-- However a call ends, the disk holds the map before it or the map after it. -/
theorem Disk.Holds.perform (h : disk.Holds values) {call : StateCall}
    (hagrees : Agrees r disk values call) (fate : CallFate) :
    ∃ after, (after = values.next r call ∨ fate ≠ .returns ∧ after = values) ∧
      (disk.perform r call fate).2.Holds after := by
  rcases hagrees.writes with ⟨hsteps, hsame⟩ | ⟨state, hsteps, hkeeps⟩
  · refine ⟨values, Or.inl hsame.symm, h.of_path ?_⟩
    rw [Disk.perform, hsteps]
    cases fate <;> simp [Disk.interrupted, Disk.applyAll]
  · have htake : ∀ n, (disk.applyAll ((writeUnlocked state).take n)).path = disk.path ∨
        (disk.applyAll ((writeUnlocked state).take n)).path = some (stateText state) :=
      path_take disk state
    cases fate with
    | returns =>
      refine ⟨values.next r call, Or.inl rfl, hkeeps.holds ?_⟩
      rw [Disk.perform, hsteps]
      exact path_writeUnlocked disk state
    | killed n =>
      rcases htake n with hold | hnew
      · refine ⟨values, Or.inr ⟨CallFate.noConfusion, rfl⟩, h.of_path ?_⟩
        rw [Disk.perform, hsteps]
        exact hold
      · refine ⟨values.next r call, Or.inl rfl, hkeeps.holds ?_⟩
        rw [Disk.perform, hsteps]
        exact hnew
    | fails n =>
      rcases htake n with hold | hnew
      · refine ⟨values, Or.inr ⟨CallFate.noConfusion, rfl⟩, h.of_path ?_⟩
        rw [Disk.perform, hsteps]
        exact hold
      · refine ⟨values.next r call, Or.inl rfl, hkeeps.holds ?_⟩
        rw [Disk.perform, hsteps]
        exact hnew

theorem Disk.Holds.run (h : disk.Holds values) (calls : List (StateCall × CallFate))
    (hproper : ∀ name key value fate, (StateCall.setValue name key value, fate) ∈ calls →
      value.proper = true) : Explained r values disk calls := by
  induction calls generalizing disk values with
  | nil => exact h.getValue
  | cons call calls ih =>
    obtain ⟨call, fate⟩ := call
    have hagrees : Agrees r disk values call := h.agrees call fun name key value hcall =>
      hproper name key value fate (hcall ▸ List.mem_cons_self)
    obtain ⟨after, hafter, hholds⟩ := h.perform hagrees fate
    refine ⟨congrArg fate.outcome hagrees.answer, after, hafter, ih hholds ?_⟩
    exact fun name key value fate hmem =>
      hproper name key value fate (List.mem_cons_of_mem _ hmem)

end Calls

theorem holds_missing : ({} : Disk).Holds Values.empty := ⟨[], keeps_nil, rfl⟩

/-- In every run from no state file, through kills and failures of the disk after any step,
every call that returns answers from a map of values that each interrupted call has changed
whole or not at all, and the state file can be read throughout. -/
theorem explained_runs (r : IntReading) (calls : List (StateCall × CallFate))
    (hproper : ∀ name key value fate, (StateCall.setValue name key value, fate) ∈ calls →
      value.proper = true) : Explained r Values.empty {} calls :=
  holds_missing.run calls hproper

section Sample

def noReading : IntReading := ⟨fun _ => none, fun _ => none⟩

/-- The second claim is lost in the middle of its write, and a value is set after it. -/
theorem explained_runs_sample : Explained noReading Values.empty {}
    [(.claimSequence "t" "a" 4, .returns), (.claimSequence "t" "a" 9, .killed 12),
      (.setValue "alerts" "last" (.object [("id", .string "x")]), .returns),
      (.claimSequence "t" "a" 7, .fails 3)] :=
  explained_runs _ _ fun name key value fate hmem => by
    simp only [List.mem_cons, List.not_mem_nil, Prod.mk.injEq, StateCall.setValue.injEq,
      reduceCtorEq, false_and, false_or, or_false] at hmem
    obtain ⟨⟨-, -, rfl⟩, -⟩ := hmem
    rfl

end Sample

end ContinuityOS.Service
