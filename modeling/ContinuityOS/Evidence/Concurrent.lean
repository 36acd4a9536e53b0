import ContinuityOS.Evidence.Tamper

/-! # Concurrent appends

Any number of processes append under the exclusive lock, in the steps of the code: acquire,
read the last hash, read the existing bytes, replace the file, release. Readers check that
the file exists and read it without the lock. The file holds the records of the completed
appends, and the one its lock holder has just written, as one chain.
-/
namespace ContinuityOS.Evidence
open Library

/-- Where a process stands in one append. -/
inductive AppendPhase where
  | idle
  | locked (call : AppendCall)
  | hashed (call : AppendCall) (previousHash : String)
  | loaded (record : EvidenceRecord) (existing : List UInt8)
  | replaced (record : EvidenceRecord)

/-- Where a reader stands in one verification, with the file it read and its result. -/
inductive ReaderPhase where
  | idle
  | found
  | finished (seen : File) (result : Except LedgerError (List VerifyError))

structure LedgerState (π ρ : Type*) where
  file : File
  lock : Option π
  phase : π → AppendPhase
  reader : ρ → ReaderPhase
  completed : List (π × EvidenceRecord)

namespace LedgerState
variable {π ρ : Type*}

def initial : LedgerState π ρ where
  file := none
  lock := none
  phase _ := .idle
  reader _ := .idle
  completed := []

/-- The record that the lock holder has written and not yet returned. -/
def pending (s : LedgerState π ρ) : List EvidenceRecord :=
  match s.lock with
  | none => []
  | some p =>
    match s.phase p with
    | .replaced record => [record]
    | _ => []

/-- The records of completed appends in the order of their return, then the pending one. -/
def written (s : LedgerState π ρ) : List EvidenceRecord := s.completed.map Prod.snd ++ s.pending

variable {s : LedgerState π ρ} {p : π}

theorem written_of_free (hlock : s.lock = none) : s.written = s.completed.map Prod.snd := by
  rw [written, pending, hlock, List.append_nil]

/-- Before the file is replaced the lock holder has nothing pending. -/
theorem written_of_before (hlock : s.lock = some p)
    (hbefore : ∀ record, s.phase p ≠ .replaced record) :
    s.written = s.completed.map Prod.snd := by
  have hpending : s.pending = [] := by
    rw [pending, hlock]
    cases hp : s.phase p with
    | replaced record => exact absurd hp (hbefore record)
    | _ => simp [hp]
  rw [written, hpending, List.append_nil]

theorem written_of_replaced (hlock : s.lock = some p) {record : EvidenceRecord}
    (hphase : s.phase p = .replaced record) :
    s.written = s.completed.map Prod.snd ++ [record] := by
  rw [written, pending, hlock]
  simp only [hphase]

end LedgerState

namespace EvidenceLedger
variable {ed : Ed25519} {π ρ : Type*}

/-- A record of the lawful set on one line of at most 4000 bytes. -/
def Short (L : EvidenceLedger ed) (R : Set EvidenceRecord) (r : EvidenceRecord) : Prop :=
  r ∈ R ∧ (∀ c ∈ (L.codec.dumpJson r).toList, c ∉ separators) ∧
    (encodeUtf8 (L.codec.dumpJson r).toList).length ≤ 4000

/-- The steps of appenders whose records are short, and of readers. An append that raises
before it has replaced the file gives the lock back. -/
inductive Step [DecidableEq π] [DecidableEq ρ] (L : EvidenceLedger ed) (R : Set EvidenceRecord) :
    LedgerState π ρ → LedgerState π ρ → Prop where
  | acquire {s : LedgerState π ρ} (p : π) (call : AppendCall) (hphase : s.phase p = .idle)
      (hfree : s.lock = none) :
      Step L R s { s with lock := some p, phase := Function.update s.phase p (.locked call) }
  | readLastHash {s : LedgerState π ρ} (p : π) {call : AppendCall} {previousHash : String}
      (hphase : s.phase p = .locked call) (hread : L.lastHash s.file = .ok previousHash) :
      Step L R s { s with phase := Function.update s.phase p (.hashed call previousHash) }
  | readExisting {s : LedgerState π ρ} (p : π) {call : AppendCall} {previousHash : String}
      {record : EvidenceRecord} (hphase : s.phase p = .hashed call previousHash)
      (hbuild : L.buildRecord previousHash call = .ok record) (hshort : L.Short R record) :
      Step L R s { s with phase := Function.update s.phase p (.loaded record (s.file.getD [])) }
  | replace {s : LedgerState π ρ} (p : π) {record : EvidenceRecord} {existing : List UInt8}
      (hphase : s.phase p = .loaded record existing) :
      Step L R s { s with file := some (existing ++ L.lineOf record)
                          phase := Function.update s.phase p (.replaced record) }
  | release {s : LedgerState π ρ} (p : π) {record : EvidenceRecord}
      (hphase : s.phase p = .replaced record) :
      Step L R s { s with lock := none, phase := Function.update s.phase p .idle
                          completed := s.completed ++ [(p, record)] }
  | abandon {s : LedgerState π ρ} (p : π) (hactive : s.phase p ≠ .idle)
      (hbefore : ∀ record, s.phase p ≠ .replaced record) :
      Step L R s { s with lock := none, phase := Function.update s.phase p .idle }
  | checkExists {s : LedgerState π ρ} (q : ρ) (hphase : s.reader q = .idle) :
      Step L R s { s with reader := Function.update s.reader q
                            (if s.file.isSome then .found else .finished none (.ok [])) }
  | readFile {s : LedgerState π ρ} (q : ρ) (hphase : s.reader q = .found) :
      Step L R s { s with reader := Function.update s.reader q
                            (.finished s.file (L.verify s.file)) }

/-- A chain of short records from the first hash with accepted signatures. -/
structure ShortChain (L : EvidenceLedger ed) (R : Set EvidenceRecord) (rs : List EvidenceRecord) :
    Prop where
  short : ∀ r ∈ rs, L.Short R r
  linked : chain.Linked genesis rs
  signed : ∀ r ∈ rs, L.SignatureAccepted r

/-- What the lock holder has read belongs to the chain in the file. -/
def PhaseOk (L : EvidenceLedger ed) (R : Set EvidenceRecord) (rs : List EvidenceRecord) :
    AppendPhase → Prop
  | .hashed _ previousHash => previousHash = chain.head genesis rs
  | .loaded record existing => existing = L.fileBytes rs ∧ L.ShortChain R (rs ++ [record])
  | _ => True

/-- A reader that has finished saw a prefix of the chain and no error. -/
def ReaderOk (L : EvidenceLedger ed) (rs : List EvidenceRecord) : ReaderPhase → Prop
  | .finished seen result => result = .ok [] ∧ L.fileRecords seen <+: rs
  | _ => True

structure Invariant (L : EvidenceLedger ed) (R : Set EvidenceRecord) (s : LedgerState π ρ) :
    Prop where
  file_eq : s.file.getD [] = L.fileBytes s.written
  shortChain : L.ShortChain R s.written
  exclusive : ∀ p, s.phase p ≠ .idle → s.lock = some p
  phases : ∀ p, L.PhaseOk R s.written (s.phase p)
  readers : ∀ q, L.ReaderOk s.written (s.reader q)

variable {L : EvidenceLedger ed} {R : Set EvidenceRecord} {rs : List EvidenceRecord}

section ShortChain

theorem ShortChain.separable (h : L.ShortChain R rs) : L.Separable R rs :=
  fun r hr => ⟨(h.short r hr).1, (h.short r hr).2.1⟩

theorem lineOf_length_of_short {r : EvidenceRecord} (h : L.Short R r) :
    (L.lineOf r).length ≤ chunkSize := by
  have hlen := h.2.2
  have hchunk : chunkSize = 4096 := rfl
  rw [lineOf, List.length_append, List.length_singleton]
  omega

theorem lastHash_of_shortChain (hlaw : L.codec.LawfulOn R) (h : L.ShortChain R rs) {file : File}
    (hfile : file.getD [] = L.fileBytes rs) : L.lastHash file = .ok (chain.head genesis rs) := by
  cases rs using List.reverseRecOn with
  | nil =>
    cases file with
    | none => rfl
    | some bytes =>
      have hbytes : bytes = [] := hfile
      rw [hbytes]
      rfl
  | append_singleton rs r =>
    have hr := h.short r (List.mem_append_right rs List.mem_cons_self)
    rw [lastHash_concat hlaw hr.1 hfile (lineOf_length_of_short hr), HashChain.head_concat]
    rfl

/-- The record built from the head of a chain continues it. -/
theorem ShortChain.concat (hed : ed.Correct) (hkeys : L.KeysMatch) (h : L.ShortChain R rs)
    {call : AppendCall} {record : EvidenceRecord}
    (hbuild : L.buildRecord (chain.head genesis rs) call = .ok record)
    (hshort : L.Short R record) : L.ShortChain R (rs ++ [record]) := by
  rw [buildRecord_eq] at hbuild
  have hrecord : L.recordFor (chain.head genesis rs) call = record := Except.ok.inj hbuild
  constructor
  · rw [List.forall_mem_append, List.forall_mem_singleton]
    exact ⟨h.short, hshort⟩
  · rw [HashChain.linked_concat, ← hrecord]
    exact ⟨h.linked, rfl, rfl⟩
  · rw [List.forall_mem_append, List.forall_mem_singleton, ← hrecord]
    exact ⟨h.signed, L.signatureAccepted_recordFor hed hkeys _ call⟩

end ShortChain

section Others
variable [DecidableEq π] {s : LedgerState π ρ} {p : π} (hothers : ∀ p', p' ≠ p → s.phase p' = .idle)
include hothers

theorem exclusive_update (x : AppendPhase) :
    ∀ p', Function.update s.phase p x p' ≠ .idle → some p = some p' := by
  intro p' hactive
  by_cases hp : p' = p
  · rw [hp]
  · rw [Function.update_of_ne hp] at hactive
    exact absurd (hothers p' hp) hactive

theorem phases_update {x : AppendPhase} (hx : L.PhaseOk R rs x) :
    ∀ p', L.PhaseOk R rs (Function.update s.phase p x p') := by
  intro p'
  by_cases hp : p' = p
  · rw [hp, Function.update_self]
    exact hx
  · rw [Function.update_of_ne hp, hothers p' hp]
    exact trivial

theorem idle_update : ∀ p', Function.update s.phase p .idle p' = .idle := by
  intro p'
  by_cases hp : p' = p
  · rw [hp, Function.update_self]
  · rw [Function.update_of_ne hp]
    exact hothers p' hp

end Others

section Frame
variable {s : LedgerState π ρ} (hinv : L.Invariant R s) {p : π}
include hinv

theorem Invariant.lock_eq (hactive : s.phase p ≠ .idle) : s.lock = some p :=
  hinv.exclusive p hactive

/-- Only the lock holder is inside an append. -/
theorem Invariant.idle_of_ne (hlock : s.lock = some p) (p' : π) (hne : p' ≠ p) :
    s.phase p' = .idle := by
  by_contra hactive
  have hlock' := hinv.exclusive p' hactive
  rw [hlock] at hlock'
  exact hne (Option.some.inj hlock').symm

theorem Invariant.idle_of_free (hfree : s.lock = none) (p' : π) : s.phase p' = .idle := by
  by_contra hactive
  have hlock := hinv.exclusive p' hactive
  rw [hfree] at hlock
  cases hlock

theorem Invariant.readers_mono (h : s.written <+: rs) : ∀ q, L.ReaderOk rs (s.reader q) := by
  intro q
  have hq := hinv.readers q
  cases hreader : s.reader q with
  | idle => exact trivial
  | found => exact trivial
  | finished seen result =>
    rw [hreader] at hq
    exact ⟨hq.1, hq.2.trans h⟩

theorem Invariant.readers_update [DecidableEq ρ] {q : ρ} {x : ReaderPhase} (hx : L.ReaderOk s.written x) :
    ∀ q', L.ReaderOk s.written (Function.update s.reader q x q') := by
  intro q'
  by_cases hq : q' = q
  · rw [hq, Function.update_self]
    exact hx
  · rw [Function.update_of_ne hq]
    exact hinv.readers q'

theorem Invariant.verify_eq (hlaw : L.codec.LawfulOn R) : L.verify s.file = .ok [] :=
  verify_eq_nil_of_linked hlaw hinv.shortChain.separable hinv.shortChain.linked
    hinv.shortChain.signed hinv.file_eq

theorem Invariant.fileRecords_eq (hlaw : L.codec.LawfulOn R) :
    L.fileRecords s.file = s.written :=
  fileRecords_fileBytes hlaw hinv.shortChain.separable hinv.file_eq

end Frame

section Run
variable {s s' : LedgerState π ρ}

theorem initial_invariant : L.Invariant R (LedgerState.initial : LedgerState π ρ) where
  file_eq := rfl
  shortChain := ⟨List.forall_mem_nil _, trivial, List.forall_mem_nil _⟩
  exclusive _ hactive := absurd rfl hactive
  phases _ := trivial
  readers _ := trivial

/-- A step that leaves the chain in the file as it is. -/
theorem Invariant.of_written_eq (hinv : L.Invariant R s) (hfile : s'.file = s.file)
    (hwritten : s'.written = s.written) (hexclusive : ∀ p, s'.phase p ≠ .idle → s'.lock = some p)
    (hphases : ∀ p, L.PhaseOk R s.written (s'.phase p))
    (hreaders : ∀ q, L.ReaderOk s.written (s'.reader q)) :
    L.Invariant R s' ∧ s.written <+: s'.written := by
  constructor
  · constructor
    · rw [hfile, hwritten, hinv.file_eq]
    · rw [hwritten]
      exact hinv.shortChain
    · exact hexclusive
    · rw [hwritten]
      exact hphases
    · rw [hwritten]
      exact hreaders
  · rw [hwritten]

/-- A step that gives the lock back. -/
theorem Invariant.of_unlocked [DecidableEq π] (hinv : L.Invariant R s) {p : π}
    (hlock : s.lock = some p) (hfile : s'.file = s.file) (hfree : s'.lock = none)
    (hphase : s'.phase = Function.update s.phase p .idle) (hreader : s'.reader = s.reader)
    (hcompleted : s'.completed.map Prod.snd = s.written) :
    L.Invariant R s' ∧ s.written <+: s'.written := by
  have hidle := idle_update (hinv.idle_of_ne hlock)
  have hwritten : s'.written = s.written := by
    rw [LedgerState.written_of_free hfree, hcompleted]
  apply hinv.of_written_eq hfile hwritten
  · intro p' hactive
    rw [hphase] at hactive
    exact absurd (hidle p') hactive
  · intro p'
    rw [hphase, hidle p']
    exact trivial
  · rw [hreader]
    exact hinv.readers

variable [DecidableEq π]

/-- The lock holder moves to a phase in which nothing is pending yet. -/
theorem Invariant.of_move (hinv : L.Invariant R s) {p : π} {x : AppendPhase}
    (hactive : s.phase p ≠ .idle) (hbefore : ∀ record, s.phase p ≠ .replaced record)
    (hx : ∀ record, x ≠ .replaced record) (hok : L.PhaseOk R s.written x) :
    L.Invariant R { s with phase := Function.update s.phase p x } ∧
      s.written <+: { s with phase := Function.update s.phase p x }.written := by
  have hlock := hinv.lock_eq hactive
  have hafter : ∀ record, Function.update s.phase p x p ≠ .replaced record := by
    rw [Function.update_self]
    exact hx
  refine hinv.of_written_eq ?_ ?_ ?_ ?_ ?_
  · rfl
  · rw [LedgerState.written_of_before hlock hbefore]
    exact LedgerState.written_of_before (s := { s with phase := Function.update s.phase p x })
      hlock hafter
  · rw [hlock]
    exact exclusive_update (hinv.idle_of_ne hlock) x
  · exact phases_update (hinv.idle_of_ne hlock) hok
  · exact hinv.readers

theorem acquire_invariant (hinv : L.Invariant R s) (p : π) (call : AppendCall)
    (hfree : s.lock = none) :
    L.Invariant R
        { s with lock := some p, phase := Function.update s.phase p (.locked call) } ∧
      s.written <+:
        { s with lock := some p, phase := Function.update s.phase p (.locked call) }.written := by
  have hidle : ∀ p', p' ≠ p → s.phase p' = .idle := fun p' _ => hinv.idle_of_free hfree p'
  have hafter : ∀ record, Function.update s.phase p (.locked call) p ≠ .replaced record := by
    rw [Function.update_self]
    simp
  refine hinv.of_written_eq ?_ ?_ ?_ ?_ ?_
  · rfl
  · rw [LedgerState.written_of_free hfree]
    exact LedgerState.written_of_before
      (s := { s with lock := some p, phase := Function.update s.phase p (.locked call) })
      rfl hafter
  · exact exclusive_update hidle _
  · exact phases_update hidle trivial
  · exact hinv.readers

theorem replace_invariant (hinv : L.Invariant R s) {p : π} {record : EvidenceRecord}
    {existing : List UInt8} (hphase : s.phase p = .loaded record existing) :
    L.Invariant R { s with file := some (existing ++ L.lineOf record)
                           phase := Function.update s.phase p (.replaced record) } ∧
      s.written <+: { s with file := some (existing ++ L.lineOf record)
                             phase := Function.update s.phase p (.replaced record) }.written := by
  have hactive : s.phase p ≠ .idle := by simp [hphase]
  have hlock := hinv.lock_eq hactive
  have hloaded := hinv.phases p
  rw [hphase] at hloaded
  obtain ⟨hexisting, hchain⟩ := hloaded
  have hbefore := LedgerState.written_of_before hlock (by simp [hphase])
  have hwritten : { s with file := some (existing ++ L.lineOf record)
                           phase := Function.update s.phase p (.replaced record) }.written
      = s.written ++ [record] := by
    rw [hbefore]
    apply LedgerState.written_of_replaced (p := p)
    · exact hlock
    · exact Function.update_self ..
  have hprefix : s.written <+: s.written ++ [record] := List.prefix_append _ _
  constructor
  · constructor
    · rw [hwritten, fileBytes_concat, ← hexisting]
      rfl
    · rw [hwritten]
      exact hchain
    · rw [hlock]
      exact exclusive_update (hinv.idle_of_ne hlock) _
    · exact phases_update (hinv.idle_of_ne hlock) trivial
    · rw [hwritten]
      exact hinv.readers_mono hprefix
  · rw [hwritten]
    exact hprefix

variable [DecidableEq ρ]

/-- Every step keeps the invariant and only extends the chain. -/
theorem step_invariant (hed : ed.Correct) (hkeys : L.KeysMatch) (hlaw : L.codec.LawfulOn R)
    (hstep : L.Step R s s') (hinv : L.Invariant R s) :
    L.Invariant R s' ∧ s.written <+: s'.written := by
  cases hstep with
  | acquire p call hphase hfree => exact acquire_invariant hinv p call hfree
  | readLastHash p hphase hread =>
    rw [lastHash_of_shortChain hlaw hinv.shortChain hinv.file_eq] at hread
    apply hinv.of_move
    · simp [hphase]
    · simp [hphase]
    · simp
    · exact (Except.ok.inj hread).symm
  | readExisting p hphase hbuild hshort =>
    have hhashed := hinv.phases p
    rw [hphase] at hhashed
    rw [hhashed] at hbuild
    apply hinv.of_move
    · simp [hphase]
    · simp [hphase]
    · simp
    · exact ⟨hinv.file_eq, hinv.shortChain.concat hed hkeys hbuild hshort⟩
  | replace p hphase => exact replace_invariant hinv hphase
  | release p hphase =>
    have hactive : s.phase p ≠ .idle := by simp [hphase]
    have hlock := hinv.lock_eq hactive
    refine hinv.of_unlocked hlock rfl rfl rfl rfl ?_
    rw [LedgerState.written_of_replaced hlock hphase, List.map_append]
    rfl
  | abandon p hactive hbefore =>
    have hlock := hinv.lock_eq hactive
    exact hinv.of_unlocked hlock rfl rfl rfl rfl
      (LedgerState.written_of_before hlock hbefore).symm
  | checkExists q hphase =>
    refine hinv.of_written_eq rfl rfl hinv.exclusive hinv.phases (hinv.readers_update ?_)
    split_ifs
    · exact trivial
    · exact ⟨rfl, List.nil_prefix⟩
  | readFile q hphase =>
    refine hinv.of_written_eq rfl rfl hinv.exclusive hinv.phases (hinv.readers_update ?_)
    refine ⟨hinv.verify_eq hlaw, ?_⟩
    rw [hinv.fileRecords_eq hlaw]

theorem run_invariant (hed : ed.Correct) (hkeys : L.KeysMatch) (hlaw : L.codec.LawfulOn R)
    (hrun : Relation.ReflTransGen (L.Step R) s s') (hinv : L.Invariant R s) :
    L.Invariant R s' ∧ s.written <+: s'.written := by
  induction hrun with
  | refl => exact ⟨hinv, List.prefix_rfl⟩
  | tail _ hstep ih =>
    have hnext := step_invariant hed hkeys hlaw hstep ih.1
    exact ⟨hnext.1, ih.2.trans hnext.2⟩

/-- In every reachable state the file holds the record of every completed append exactly
once, and at most one more that its lock holder has just written. They are one chain from
the first hash, every reader saw a prefix of it without an error, and no later step takes
anything away. -/
theorem concurrent_appends_chain (hed : ed.Correct) (L : EvidenceLedger ed) (hkeys : L.KeysMatch)
    (R : Set EvidenceRecord) (hlaw : L.codec.LawfulOn R) (s : LedgerState π ρ)
    (hreach : Relation.ReflTransGen (L.Step R) LedgerState.initial s) :
    L.fileRecords s.file = s.completed.map Prod.snd ++ s.pending ∧ s.pending.length ≤ 1 ∧
      (s.lock = none → L.fileRecords s.file = s.completed.map Prod.snd) ∧
      chain.Linked genesis (L.fileRecords s.file) ∧
      (chain.CollisionFree (L.fileRecords s.file) (L.fileRecords s.file) →
        (∀ r ∈ L.fileRecords s.file, r.recordHash ≠ genesis) →
        ((L.fileRecords s.file).map EvidenceRecord.previousHash).Nodup) ∧
      L.verify s.file = .ok [] ∧
      (∀ q seen result, s.reader q = .finished seen result →
        result = .ok [] ∧ L.fileRecords seen <+: L.fileRecords s.file) ∧
      ∀ s' : LedgerState π ρ, Relation.ReflTransGen (L.Step R) s s' →
        L.fileRecords s.file <+: L.fileRecords s'.file := by
  have hinv := (run_invariant hed hkeys hlaw hreach initial_invariant).1
  have hrecords := hinv.fileRecords_eq hlaw
  rw [hrecords]
  refine ⟨rfl, ?_, ?_, hinv.shortChain.linked, ?_, hinv.verify_eq hlaw, ?_, ?_⟩
  · rw [LedgerState.pending]
    repeat' split
    all_goals simp
  · intro hfree
    exact LedgerState.written_of_free hfree
  · intro hcf hgenesis
    exact HashChain.previous_nodup hinv.shortChain.linked hcf hgenesis
  · intro q seen result hfinished
    have hq := hinv.readers q
    rw [hfinished] at hq
    exact hq
  · intro s' hrun
    have hlater := run_invariant hed hkeys hlaw hrun hinv
    rw [hlater.1.fileRecords_eq hlaw]
    exact hlater.2

/-- A process that raises before it has replaced the file leaves everything but the lock. -/
theorem exists_abandoned (hfree : s.lock = none) {p : π} (hidle : s.phase p = .idle)
    (call : AppendCall) :
    ∃ s' : LedgerState π ρ, Relation.ReflTransGen (L.Step R) s s' ∧ s'.lock = none ∧
      s'.completed = s.completed ∧ s'.reader = s.reader := by
  have h₁ := Step.acquire (L := L) (R := R) p call hidle hfree
  have hactive : Function.update s.phase p (.locked call) p ≠ .idle := by
    rw [Function.update_self]
    exact AppendPhase.noConfusion
  have hbefore : ∀ record, Function.update s.phase p (.locked call) p ≠ .replaced record := by
    intro record
    rw [Function.update_self]
    exact AppendPhase.noConfusion
  exact ⟨_, (Relation.ReflTransGen.single h₁).tail (Step.abandon p hactive hbefore), rfl, rfl, rfl⟩

/-- An append that is not disturbed completes. -/
theorem Invariant.exists_append (hlaw : L.codec.LawfulOn R) (hinv : L.Invariant R s)
    (hfree : s.lock = none) (p : π) (call : AppendCall)
    (hshort : L.Short R (L.recordFor (chain.head genesis s.written) call)) :
    ∃ s' : LedgerState π ρ, Relation.ReflTransGen (L.Step R) s s' ∧ s'.lock = none ∧
      s'.completed = s.completed ++ [(p, L.recordFor (chain.head genesis s.written) call)] ∧
      s'.file.isSome ∧ s'.reader = s.reader := by
  have hread := lastHash_of_shortChain hlaw hinv.shortChain hinv.file_eq
  have hbuild := L.buildRecord_eq (chain.head genesis s.written) call
  have h₁ := Step.acquire (L := L) (R := R) p call (hinv.idle_of_free hfree p) hfree
  have h₂ := Relation.ReflTransGen.single h₁ |>.tail
    (Step.readLastHash p (Function.update_self ..) hread)
  have h₃ := h₂.tail (Step.readExisting p (Function.update_self ..) hbuild hshort)
  have h₄ := h₃.tail (Step.replace p (Function.update_self ..))
  have h₅ := h₄.tail (Step.release p (Function.update_self ..))
  exact ⟨_, h₅, rfl, rfl, rfl, rfl⟩

/-- A reader that finds the file while a process holds the lock reads what that process has
written and not yet returned. -/
theorem Invariant.exists_append_read (hlaw : L.codec.LawfulOn R) (hinv : L.Invariant R s)
    (hfree : s.lock = none) (p : π) (call : AppendCall)
    (hshort : L.Short R (L.recordFor (chain.head genesis s.written) call)) (hfile : s.file.isSome)
    (q : ρ) (hidle : s.reader q = .idle) :
    ∃ s' : LedgerState π ρ, Relation.ReflTransGen (L.Step R) s s' ∧ s'.lock = none ∧
      s'.completed = s.completed ++ [(p, L.recordFor (chain.head genesis s.written) call)] ∧
      s'.reader q = .finished s'.file (L.verify s'.file) := by
  have hread := lastHash_of_shortChain hlaw hinv.shortChain hinv.file_eq
  have hbuild := L.buildRecord_eq (chain.head genesis s.written) call
  have h₁ := Step.acquire (L := L) (R := R) p call (hinv.idle_of_free hfree p) hfree
  have h₂ := Relation.ReflTransGen.single h₁ |>.tail
    (Step.readLastHash p (Function.update_self ..) hread)
  have h₃ := h₂.tail (Step.checkExists q hidle)
  have h₄ := h₃.tail (Step.readExisting p (Function.update_self ..) hbuild hshort)
  have h₅ := h₄.tail (Step.replace p (Function.update_self ..))
  have hfound : Function.update s.reader q
      (if s.file.isSome then .found else .finished none (.ok [])) q = ReaderPhase.found := by
    rw [Function.update_self, if_pos hfile]
  have h₆ := h₅.tail (Step.readFile q hfound)
  have h₇ := h₆.tail (Step.release p (Function.update_self ..))
  exact ⟨_, h₇, rfl, rfl, Function.update_self ..⟩

end Run

section Sample

theorem sampleRecords_short :
    ∀ r ∈ [firstRecord, secondRecord], sampleLedger.Short {r | r ∈ [firstRecord, secondRecord]} r := by
  intro r hr
  refine ⟨hr, (sampleRecords_separable r hr).2, ?_⟩
  have hline := sampleRecords_lines r hr
  rw [lineOf, List.length_append, List.length_singleton] at hline
  omega

/-- The second process raises under the lock, the first one appends, and a reader finds and reads
the file while the second one appends. -/
theorem sampleLedger_run :
    ∃ s : LedgerState Bool Unit,
      Relation.ReflTransGen (sampleLedger.Step {r | r ∈ [firstRecord, secondRecord]})
        LedgerState.initial s ∧
      s.lock = none ∧ s.completed = [(false, firstRecord), (true, secondRecord)] ∧
      s.reader () = .finished s.file (sampleLedger.verify s.file) := by
  have hlaw := sampleLedger_lawfulOn
  have hinv : sampleLedger.Invariant {r | r ∈ [firstRecord, secondRecord]}
      (LedgerState.initial : LedgerState Bool Unit) := initial_invariant
  have hrun {s s' : LedgerState Bool Unit} (h : Relation.ReflTransGen (sampleLedger.Step
      {r | r ∈ [firstRecord, secondRecord]}) s s')
      (hinv : sampleLedger.Invariant {r | r ∈ [firstRecord, secondRecord]} s) :=
    (run_invariant sampleScheme_correct sampleLedger_keysMatch hlaw h hinv).1
  obtain ⟨s₀, hrun₀, hfree₀, hdone₀, hreader₀⟩ :=
    exists_abandoned (L := sampleLedger) (R := {r | r ∈ [firstRecord, secondRecord]})
      (s := (LedgerState.initial : LedgerState Bool Unit)) rfl (p := true) rfl secondCall
  have hinv₀ := hrun hrun₀ hinv
  have hwritten₀ : s₀.written = [] := by
    rw [LedgerState.written_of_free hfree₀, hdone₀]
    rfl
  have hfirst : sampleLedger.recordFor (chain.head genesis s₀.written) firstCall = firstRecord := by
    rw [hwritten₀]
    exact recordFor_sampleCalls.1
  obtain ⟨s₁, hrun₁, hfree₁, hdone₁, hfile₁, hreader₁⟩ :=
    hinv₀.exists_append hlaw hfree₀ false firstCall (by
      rw [hfirst]
      exact sampleRecords_short firstRecord List.mem_cons_self)
  rw [hfirst, hdone₀] at hdone₁
  have hinv₁ := hrun hrun₁ hinv₀
  have hwritten₁ : s₁.written = [firstRecord] := by
    rw [LedgerState.written_of_free hfree₁, hdone₁]
    rfl
  have hsecond : sampleLedger.recordFor (chain.head genesis s₁.written) secondCall
      = secondRecord := by
    rw [hwritten₁]
    exact recordFor_sampleCalls.2
  have hidle : s₁.reader () = .idle := by
    rw [hreader₁, hreader₀]
    rfl
  obtain ⟨s₂, hrun₂, hfree₂, hdone₂, hseen₂⟩ :=
    hinv₁.exists_append_read hlaw hfree₁ true secondCall (by
      rw [hsecond]
      exact sampleRecords_short secondRecord (List.mem_cons_of_mem _ List.mem_cons_self))
      hfile₁ () hidle
  rw [hsecond, hdone₁] at hdone₂
  exact ⟨s₂, (hrun₀.trans hrun₁).trans hrun₂, hfree₂, hdone₂, hseen₂⟩

theorem concurrent_appends_chain_sample :
    ∃ s : LedgerState Bool Unit, s.completed = [(false, firstRecord), (true, secondRecord)] ∧
      sampleLedger.fileRecords s.file = [firstRecord, secondRecord] ∧
      ([firstRecord, secondRecord].map EvidenceRecord.previousHash).Nodup ∧
      s.reader () = .finished s.file (.ok []) := by
  obtain ⟨s, hreach, hfree, hdone, hseen⟩ := sampleLedger_run
  obtain ⟨-, -, hfile, -, hnodup, -, hreaders, -⟩ := concurrent_appends_chain sampleScheme_correct
    sampleLedger sampleLedger_keysMatch _ sampleLedger_lawfulOn s hreach
  have hrecords : sampleLedger.fileRecords s.file = [firstRecord, secondRecord] := by
    rw [hfile hfree, hdone]
    rfl
  rw [hrecords] at hnodup
  have hgenesis : ∀ r ∈ [firstRecord, secondRecord], r.recordHash ≠ genesis := by decide +kernel
  have hresult := (hreaders () _ _ hseen).1
  rw [hresult] at hseen
  exact ⟨s, hdone, hrecords, hnodup sampleRecords_collisionFree hgenesis, hseen⟩

end Sample

end EvidenceLedger

end ContinuityOS.Evidence
