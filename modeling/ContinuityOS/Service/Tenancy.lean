import ContinuityOS.Evidence.TailRead
import ContinuityOS.Library.Noninterference
import ContinuityOS.Service.Acceptance

/-! # Isolation of tenants

The requests of one asset read and write the cell of its sequence and the cells of its keys, and
append to the ledger of all tenants, which fails when the last line cannot be read back. As long
as no request of another asset writes into these cells or leaves such a line, deleting such
requests changes no answer. Cells are shared when joined identifiers coincide, or when keys do.
-/
namespace ContinuityOS.Service
open Library Handler Noninterference
open Evidence.EvidenceLedger (chunkSize)

section Tail
variable (lineLength : LedgerRecord → ℕ)

/-- The next append reads back the last line of the ledger, given the lengths in bytes of the
lines of records. -/
def TailReadable (ledger : List LedgerRecord) : Prop :=
  ∀ record ∈ ledger.getLast?, lineLength record < chunkSize

instance (ledger : List LedgerRecord) : Decidable (TailReadable lineLength ledger) :=
  inferInstanceAs (Decidable (∀ record ∈ ledger.getLast?, lineLength record < chunkSize))

variable {lineLength}

theorem tailReadable_concat {ledger : List LedgerRecord} {record : LedgerRecord} :
    TailReadable lineLength (ledger ++ [record]) ↔ lineLength record < chunkSize := by
  simp [TailReadable]

/-- For the records that stand in a ledger file, its tail read answers when the last line is
readable. -/
theorem lastHash_reads_iff {ed : Evidence.Ed25519} {L : Evidence.EvidenceLedger ed}
    {R : Set Evidence.EvidenceRecord} (hlaw : L.codec.LawfulOn R) (hframed : L.codec.FramedOn R)
    {file : Evidence.File} {ledger : List LedgerRecord} {written : List Evidence.EvidenceRecord}
    (hwritten : ∀ r ∈ written, r ∈ R) (hfile : file.getD [] = L.fileBytes written)
    (hlines : ledger.map lineLength =
      written.map fun r => (encodeUtf8 (L.codec.dumpJson r).toList).length) :
    (∃ hash, L.lastHash file = .ok hash) ↔ TailReadable lineLength ledger := by
  have htail : TailReadable lineLength ledger ↔
      ∀ n ∈ (ledger.map lineLength).getLast?, n < chunkSize := by
    simp [TailReadable, List.getLast?_map]
  rw [htail, hlines]
  cases written using List.reverseRecOn with
  | nil =>
    have hempty : L.lastHash file = .ok Evidence.genesis := by
      cases file with
      | none => rfl
      | some bytes =>
        obtain rfl : bytes = [] := hfile
        rfl
    simp [hempty]
  | append_singleton written r =>
    have hr : r ∈ R := hwritten r (List.mem_append_right written List.mem_cons_self)
    have hlength : (L.lineOf r).length = (encodeUtf8 (L.codec.dumpJson r).toList).length + 1 := by
      rw [Evidence.EvidenceLedger.lineOf, List.length_append, List.length_singleton]
    simp only [List.map_append, List.map_cons, List.map_nil, List.getLast?_concat,
      Option.mem_some_iff, forall_eq']
    constructor
    · rintro ⟨hash, hok⟩
      by_contra hlong
      exact Evidence.EvidenceLedger.lastHash_concat_long hlaw hframed hr hfile (not_lt.mp hlong)
        hash hok
    · intro hshort
      exact ⟨_, Evidence.EvidenceLedger.lastHash_concat hlaw hr hfile (by omega)⟩

end Tail

section Scopes

def identifier (payload : Members) (name : String) : String :=
  match Bindings.lookup payload name with
  | some (.string text) => text
  | _ => ""

/-- The tenant and the asset that a submission names. -/
def Submission.scope (q : Submission) : String × String :=
  (identifier q.payload "tenant_id", identifier q.payload "asset_id")

/-- The storage key of the sequence of a submission. -/
def Submission.sequenceKey (q : Submission) : String := recordKey q.scope.1 q.scope.2

end Scopes

/-- Two states that agree on the owned cells and on whether their ledgers can be appended to. -/
structure AgreeRecorded (lineLength : LedgerRecord → ℕ) (owned : String → String → Prop)
    (s t : ServiceState) : Prop extends AgreeOn owned s t where
  readable : TailReadable lineLength s.ledger ↔ TailReadable lineLength t.ledger

section Steps
variable {p : Platform} {codec : ResponseCodec TelemetryResponse} {lineLength : LedgerRecord → ℕ}
  {requests : List Submission} {r q : Submission} {observation : OperatorObservation}
  {owned : String → String → Prop}

theorem nonBlankText_eq {detail text : String} {payload : Members} {name : String}
    (h : nonBlankText detail (Bindings.lookup payload name) = .ok text) :
    identifier payload name = text := by
  have hstring : ∀ found, Bindings.lookup payload name = some found → found = .string text := by
    intro found hfound
    rw [hfound] at h
    cases found with
    | string content =>
      rw [nonBlankText] at h
      split_ifs at h
      cases h
      rfl
    | _ => cases h
  cases hfound : Bindings.lookup payload name with
  | none =>
    rw [hfound] at h
    cases h
  | some found => rw [identifier, hfound, hstring found hfound]

/-- An observation is about the tenant and the asset that its submission names. -/
theorem Submission.Observes.scope (h : q.Observes p observation) :
    recordKey observation.tenantId observation.assetId = q.sequenceKey := by
  obtain ⟨body, -, hvalidated⟩ := h
  unfold validatedObservation at hvalidated
  cases hsecret : p.operatorWebhookSecret with
  | none => simp [hsecret] at hvalidated
  | some secret =>
    cases hauthentic : authenticObservation p q secret q.payload body with
    | error e => simp [hsecret, hauthentic] at hvalidated
    | ok o =>
      simp only [hsecret, hauthentic, Except.ok.injEq] at hvalidated
      subst hvalidated
      obtain ⟨_, -, hrest⟩ := bind_eq_ok.mp hauthentic
      obtain ⟨normalized, hnormalized, hsource⟩ := bind_eq_ok.mp hrest
      have hsame : normalized = o := by
        rw [validateObservationSource_normalized hnormalized] at hsource
        exact Except.ok.inj hsource
      subst hsame
      simp only [normalizedOperatorObservation, bind_eq_ok, pure_eq_ok, Except.ok.injEq]
        at hnormalized
      obtain ⟨tenantId, htenant, assetId, hasset, _, -, _, -, _, -, _, -, _, -, _, -, _, -, _, -,
        _, -, _, -, _, -, rfl⟩ := hnormalized
      rw [Submission.sequenceKey, Submission.scope, nonBlankText_eq htenant, nonBlankText_eq hasset]

theorem AgreeRecorded.symm {s t : ServiceState} (h : AgreeRecorded lineLength owned s t) :
    AgreeRecorded lineLength owned t s :=
  ⟨h.toAgreeOn.symm, h.readable.symm⟩

section Frame
variable {α : Type} {h : Handler α}

end Frame

/-- The record that is appended in both runs decides alone whether it is read back. -/
theorem AgreeRecorded.append {s t : ServiceState} (h : AgreeRecorded lineLength owned s t)
    (record : LedgerRecord) :
    AgreeRecorded lineLength owned (s.append record) (t.append record) where
  left := h.left
  right := h.right
  value := h.value
  readable := tailReadable_concat.trans tailReadable_concat.symm

end Steps

section Samples

end Samples

end ContinuityOS.Service
