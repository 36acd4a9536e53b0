import ContinuityOS.Library.HighWater
import ContinuityOS.Service.State

/-! # Replay protection of telemetry sequences

Calls run one after the other under the lock, in any order and from any process, and each
may fail before or after the file is replaced. The number stored under a key is a mark that
a claim must exceed.
-/
namespace ContinuityOS.Service
open Library

/-- A call of the store with its arguments. -/
inductive Call where
  | claimSequence (tenantId assetId : String) (sequence : ℤ)
  | saveIdempotent (space key fingerprint response : String)
  | getIdempotent (space key fingerprint : String)
  | getValue (name key : String)
  | setValue (name key : String) (value : Json)

/-- Whether a call returns, or fails before or after the file is replaced. -/
inductive Fate where
  | returns | failsBefore | failsAfter

structure Event where
  call : Call
  fate : Fate

section Calls
variable (r : IntReading)

/-- What a call would put in place of the file; nothing when it only reads. -/
def Call.replacement (file : StateFile) : Call → Except StateError (Option Members)
  | .claimSequence tenantId assetId sequence => file.claimSequence r tenantId assetId sequence
  | .saveIdempotent space key fingerprint response => do
    return some (← file.saveIdempotent space key fingerprint response)
  | .getIdempotent space key fingerprint => do
    let _ ← file.getIdempotent space key fingerprint
    return none
  | .getValue name key => do
    let _ ← file.getValue name key
    return none
  | .setValue name key value => do
    return some (← file.setValue name key value)

/-- The file after an event: replaced as a whole or not at all. -/
def applyEvent (file : StateFile) (e : Event) : StateFile :=
  match e.fate, e.call.replacement r file with
  | .failsBefore, _ => file
  | _, .ok (some members) => .parsed (.object members)
  | _, _ => file

/-- The file after some events. -/
def applyEvents (file : StateFile) (events : List Event) : StateFile :=
  events.foldl (applyEvent r) file

/-- What a claim returns to its caller, if it returns. -/
def claimReturned (file : StateFile) (e : Event) : Option Bool :=
  match e.fate, e.call with
  | .returns, .claimSequence tenantId assetId sequence =>
    match file.claimSequence r tenantId assetId sequence with
    | .ok written => some written.isSome
    | .error _ => none
  | _, _ => none

/-- The number a call claims under a storage key. -/
def Call.claimFor (key : String) : Call → Option ℤ
  | .claimSequence tenantId assetId sequence =>
    if recordKey tenantId assetId = key then some sequence else none
  | _ => none

/-- The number that an event has accepted under a storage key. -/
def acceptedNumber (key : String) (file : StateFile) (e : Event) : Option ℤ :=
  if claimReturned r file e = some true then e.call.claimFor key else none

def acceptedSequences (key : String) (file : StateFile) (events : List Event) : List ℤ :=
  HighWater.acceptedValues (applyEvent r) (acceptedNumber r key) file events

end Calls

/-- The table of sequences in the file. -/
def sequenceTable (file : StateFile) : Option Json :=
  match file.readUnlocked with
  | .ok state => Bindings.lookup state "telemetry_sequences"
  | .error _ => none

/-- Values are set in other sections than the table of sequences. -/
def Call.SetsElsewhere : Call → Prop
  | .setValue name _ _ => name ≠ "telemetry_sequences"
  | _ => True

def Call.isClaim : Call → Bool
  | .claimSequence _ _ _ => true
  | _ => false

section Steps
variable {r : IntReading} {file : StateFile}

/-- The number stored under a key, as a claim reads it. -/
def storedSequence (r : IntReading) (key : String) (file : StateFile) : Option ℤ :=
  match (sequenceTable file).getD (.object []) with
  | .object sequences => (present sequences key).bind r.int
  | _ => none

theorem sequenceTable_readUnlocked {state : Members} (h : file.readUnlocked = .ok state) :
    sequenceTable file = Bindings.lookup state "telemetry_sequences" := by
  rw [sequenceTable, h]

theorem storedSequence_section {state sequences : Members} (hread : file.readUnlocked = .ok state)
    (hsection : sectionOf state "telemetry_sequences" = .object sequences) (key : String) :
    storedSequence r key file = (present sequences key).bind r.int := by
  rw [storedSequence, sequenceTable_readUnlocked hread]
  rw [sectionOf] at hsection
  rw [hsection]

/-- Writing another section leaves the table of sequences. -/
theorem sequenceTable_assign {state : Members} (hread : file.readUnlocked = .ok state)
    {name : String} (hname : name ≠ "telemetry_sequences") (value : Json) :
    sequenceTable (.parsed (.object (Bindings.assign state name value))) = sequenceTable file := by
  rw [sequenceTable_readUnlocked hread, sequenceTable_readUnlocked (readUnlocked_object _),
    Bindings.lookup_assign, if_neg hname]

/-- What replaces the file in a call that is no claim. -/
theorem replacement_of_not_claim {call : Call} (hclaim : call.isClaim = false)
    (hset : call.SetsElsewhere) {members : Members}
    (h : call.replacement r file = .ok (some members)) :
    ∃ state name value, file.readUnlocked = .ok state ∧ name ≠ "telemetry_sequences" ∧
      members = Bindings.assign state name value := by
  cases call with
  | claimSequence tenantId assetId sequence => cases hclaim
  | saveIdempotent space key fingerprint response =>
    obtain ⟨saved, hsaved, hsome⟩ := bind_eq_ok.mp h
    obtain ⟨state, records, hread, -, hmembers⟩ := StateFile.saveIdempotent_writes hsaved
    exact ⟨state, "idempotency", _, hread, by decide,
      (Option.some.inj (Except.ok.inj hsome)).symm.trans hmembers⟩
  | getIdempotent space key fingerprint =>
    obtain ⟨_, -, hnone⟩ := bind_eq_ok.mp h
    cases hnone
  | getValue name key =>
    obtain ⟨_, -, hnone⟩ := bind_eq_ok.mp h
    cases hnone
  | setValue name key value =>
    obtain ⟨saved, hsaved, hsome⟩ := bind_eq_ok.mp h
    obtain ⟨state, found, hread, -, hmembers⟩ := StateFile.setValue_writes hsaved
    exact ⟨state, name, _, hread, hset,
      (Option.some.inj (Except.ok.inj hsome)).symm.trans hmembers⟩

/-- An event leaves the file or replaces it by what its call planned. -/
theorem applyEvent_cases (r : IntReading) (file : StateFile) (e : Event) :
    applyEvent r file e = file ∨ ∃ members, e.call.replacement r file = .ok (some members) ∧
      applyEvent r file e = .parsed (.object members) := by
  unfold applyEvent
  split
  · exact Or.inl rfl
  · exact Or.inr ⟨_, by assumption, rfl⟩
  · exact Or.inl rfl

/-- Calls on other sections never change the table of sequences. -/
theorem sequenceTable_applyEvent {e : Event} (hclaim : e.call.isClaim = false)
    (hset : e.call.SetsElsewhere) : sequenceTable (applyEvent r file e) = sequenceTable file := by
  rcases applyEvent_cases r file e with h | ⟨members, hmembers, h⟩
  · rw [h]
  · obtain ⟨state, name, value, hread, hname, rfl⟩ := replacement_of_not_claim hclaim hset hmembers
    rw [h, sequenceTable_assign hread hname]

/-- A claim that writes raises the number under its key and leaves the others. -/
theorem storedSequence_claim {tenantId assetId : String} {sequence : ℤ} {members : Members}
    (h : file.claimSequence r tenantId assetId sequence = .ok (some members)) (key : String) :
    (recordKey tenantId assetId = key → ∀ m ∈ storedSequence r key file, m < sequence) ∧
      storedSequence r key (.parsed (.object members)) =
        if recordKey tenantId assetId = key then some sequence else storedSequence r key file := by
  obtain ⟨state, sequences, hread, hsection, habove, rfl⟩ := StateFile.claimSequence_writes h
  rw [storedSequence_section hread hsection]
  constructor
  · intro hkey m hm
    rw [← hkey] at hm
    exact habove m hm
  · rw [storedSequence_section (readUnlocked_object _)
      ((sectionOf_assign _ _ _ _).trans (if_pos rfl)), present_assign _ _ _ (by simp)]
    split_ifs <;> rfl

theorem acceptedNumber_eq_some {key : String} {e : Event} {n : ℤ}
    (h : acceptedNumber r key file e = some n) :
    ∃ tenantId assetId members, recordKey tenantId assetId = key ∧
      file.claimSequence r tenantId assetId n = .ok (some members) ∧
      applyEvent r file e = .parsed (.object members) := by
  obtain ⟨call, fate⟩ := e
  unfold acceptedNumber at h
  split_ifs at h with hreturned
  cases call with
  | claimSequence tenantId assetId sequence =>
    cases fate with
    | returns =>
      simp only [Call.claimFor] at h
      split_ifs at h with hkey
      cases h
      cases hclaim : file.claimSequence r tenantId assetId n with
      | error e => simp [claimReturned, hclaim] at hreturned
      | ok written =>
        cases written with
        | none => simp [claimReturned, hclaim] at hreturned
        | some members =>
          exact ⟨tenantId, assetId, members, hkey, hclaim,
            by simp [applyEvent, Call.replacement, hclaim]⟩
    | failsBefore => simp [claimReturned] at hreturned
    | failsAfter => simp [claimReturned] at hreturned
  | _ => simp [Call.claimFor] at h

/-- The stored number is a high-water mark of the accepted ones. -/
theorem claims_guarded (r : IntReading) (key : String) :
    HighWater.Guarded (applyEvent r) (acceptedNumber r key) (storedSequence r key)
      (fun e => e.call.SetsElsewhere) where
  above := by
    intro file e n _ haccepted
    obtain ⟨tenantId, assetId, members, hkey, hclaim, -⟩ := acceptedNumber_eq_some haccepted
    exact (storedSequence_claim hclaim key).1 hkey
  raised := by
    intro file e n _ haccepted
    obtain ⟨tenantId, assetId, members, hkey, hclaim, happly⟩ := acceptedNumber_eq_some haccepted
    rw [happly, (storedSequence_claim hclaim key).2, if_pos hkey]
  kept := by
    intro file e hset _ m hm
    cases hclaim : e.call.isClaim with
    | false =>
      have hsame : storedSequence r key (applyEvent r file e) = storedSequence r key file := by
        simp only [storedSequence, sequenceTable_applyEvent hclaim hset]
      exact ⟨m, hsame ▸ hm, le_rfl⟩
    | true =>
      rcases applyEvent_cases r file e with h | ⟨members, hmembers, h⟩
      · rw [h]
        exact ⟨m, hm, le_rfl⟩
      · obtain ⟨call, fate⟩ := e
        cases call with
        | claimSequence tenantId assetId sequence =>
          obtain ⟨habove, hstored⟩ := storedSequence_claim hmembers key
          rw [h, hstored]
          split_ifs with hkey
          · exact ⟨sequence, rfl, (habove hkey m hm).le⟩
          · exact ⟨m, hm, le_rfl⟩
        | _ => cases hclaim

/-- A claim that returns false has left the file as it was. -/
theorem applyEvent_of_returned_false {e : Event} (h : claimReturned r file e = some false) :
    applyEvent r file e = file := by
  obtain ⟨call, fate⟩ := e
  cases fate with
  | returns =>
    cases call with
    | claimSequence tenantId assetId sequence =>
      cases hclaim : file.claimSequence r tenantId assetId sequence with
      | error e => simp [claimReturned, hclaim] at h
      | ok written =>
        cases written with
        | none => simp [applyEvent, Call.replacement, hclaim]
        | some members => simp [claimReturned, hclaim] at h
    | _ => simp [claimReturned] at h
  | failsBefore => rfl
  | failsAfter => simp [claimReturned] at h

end Steps

/-- Whatever the calls, their order and their failures: the numbers accepted under a storage
key increase strictly, a refused claim changes nothing, and calls on other sections leave the
table of sequences. -/
theorem claims_replay_protected (r : IntReading) (file : StateFile) (events : List Event)
    (hset : ∀ e ∈ events, e.call.SetsElsewhere) (key : String) :
    (acceptedSequences r key file events).Pairwise (· < ·) ∧
    (acceptedSequences r key file events).Nodup ∧
    ∀ before e after, events = before ++ e :: after →
      (claimReturned r (applyEvents r file before) e = some false →
        applyEvents r file (before ++ [e]) = applyEvents r file before) ∧
      (e.call.isClaim = false →
        sequenceTable (applyEvents r file (before ++ [e])) =
          sequenceTable (applyEvents r file before)) := by
  have hincreasing : (acceptedSequences r key file events).Pairwise (· < ·) :=
    HighWater.acceptedValues_pairwise (claims_guarded r key) hset file
  refine ⟨hincreasing, hincreasing.imp fun hlt => hlt.ne, ?_⟩
  intro before e after hevents
  have he : e ∈ events := by simp [hevents]
  have hsnoc : applyEvents r file (before ++ [e]) =
      applyEvent r (applyEvents r file before) e := by simp [applyEvents]
  rw [hsnoc]
  constructor
  · exact applyEvent_of_returned_false
  · intro hclaim
    exact sequenceTable_applyEvent hclaim (hset e he)

/-- Claims out of order, one of which fails after its file is in place. -/
def outOfOrderClaims : List Event :=
  [⟨.claimSequence "T1" "A1" 10, .returns⟩, ⟨.claimSequence "T1" "A1" 10, .returns⟩,
    ⟨.setValue "strategic" "latest" (.int 1), .returns⟩, ⟨.claimSequence "T1" "A1" 5, .returns⟩,
    ⟨.claimSequence "T1" "A1" 11, .failsAfter⟩, ⟨.claimSequence "T1" "A1" 11, .returns⟩,
    ⟨.claimSequence "T1" "A1" 12, .returns⟩]

example : acceptedSequences ⟨fun _ => none, fun _ => none⟩ "T1:A1" .missing outOfOrderClaims =
    [10, 12] := by decide

theorem claims_replay_protected_witness :
    (acceptedSequences ⟨fun _ => none, fun _ => none⟩ "T1:A1" .missing outOfOrderClaims).Pairwise
      (· < ·) ∧
    (acceptedSequences ⟨fun _ => none, fun _ => none⟩ "T1:A1" .missing outOfOrderClaims).Nodup ∧
    ∀ before e after, outOfOrderClaims = before ++ e :: after →
      (claimReturned ⟨fun _ => none, fun _ => none⟩
          (applyEvents ⟨fun _ => none, fun _ => none⟩ .missing before) e = some false →
        applyEvents ⟨fun _ => none, fun _ => none⟩ .missing (before ++ [e]) =
          applyEvents ⟨fun _ => none, fun _ => none⟩ .missing before) ∧
      (e.call.isClaim = false →
        sequenceTable (applyEvents ⟨fun _ => none, fun _ => none⟩ .missing (before ++ [e])) =
          sequenceTable (applyEvents ⟨fun _ => none, fun _ => none⟩ .missing before)) :=
  claims_replay_protected _ _ outOfOrderClaims (by
    simp [outOfOrderClaims, Call.SetsElsewhere]) _

end ContinuityOS.Service
