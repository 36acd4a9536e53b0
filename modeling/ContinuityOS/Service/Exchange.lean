import ContinuityOS.Evidence.RoundTrip
import ContinuityOS.Service.Telemetry

/-! # Exports of the ledger

Manifests and pages of features are made of one bounded read of the ledger. The first thousand
records are exported, whatever the number of records.
-/
namespace ContinuityOS.Service
open Library Evidence

inductive ExportError where
  | ledger (error : LedgerError)
  | invalidQuery
  | overflow

section Features

/-- Integers that round to 2^1024 or more have no float. -/
def floatOfInt (n : ℤ) : Except ExportError FloatValue :=
  if 2 ^ 1024 - 2 ^ 970 ≤ |n| then .error .overflow else .ok (.finite n)

/-- The conversion of a value that is an integer or a float. -/
def numberOf (reading : FloatReading) : Json → Option (Except ExportError FloatValue)
  | .int n => some (floatOfInt n)
  | .bool b => some (.ok (.finite (if b then 1 else 0)))
  | .float literal => some (.ok (reading.ofLiteral literal))
  | _ => none

def FloatValue.within (bound : ℚ) : FloatValue → Bool
  | .finite value => -bound ≤ value && value ≤ bound
  | .notFinite => false

/-- The value of the first of some keys that is there. -/
def firstOf (candidate : Members) (keys : List String) : Json :=
  (keys.findSome? (Bindings.lookup candidate)).getD .null

def candidateCoordinates (reading : FloatReading) (candidate : Members) :
    Except ExportError (Option (FloatValue × FloatValue)) :=
  match numberOf reading (firstOf candidate ["latitude", "lat"]),
    numberOf reading (firstOf candidate ["longitude", "lon", "lng"]) with
  | some latitude, some longitude => do
    let y ← latitude
    if y.within 90 then
      let x ← longitude
      return if x.within 180 then some (x, y) else none
    else return none
  | _, _ => .ok none

def coordinates (reading : FloatReading) (payload : Members) :
    Except ExportError (Option (FloatValue × FloatValue)) := do
  match ← candidateCoordinates reading payload with
  | some place => return some place
  | none =>
    match Bindings.lookup payload "metadata" with
    | some (.object metadata) => candidateCoordinates reading metadata
    | _ => return none

/-- A point, if there is one. -/
structure GeoJSONFeature where
  id : String
  geometry : Option (FloatValue × FloatValue)
  properties : Members

def featureFromRecord (reading : FloatReading) (record : EvidenceRecord) :
    Except ExportError GeoJSONFeature := do
  let place ← coordinates reading record.payload
  return {
    id := record.recordId
    geometry := place
    properties := [("record_id", .string record.recordId),
      ("record_type", .string record.recordType), ("subject_id", .string record.subjectId),
      ("created_at", .string record.createdAt), ("record_hash", .string record.recordHash),
      ("previous_hash", .string record.previousHash), ("signed", .bool record.signature.isSome),
      ("payload", .object record.payload)] }

structure GeoJSONFeatureCollection where
  features : List GeoJSONFeature
  numberMatched : ℕ
  numberReturned : ℕ
  timeStamp : Instant
  links : List (List (String × String))

def featureCollection (reading : FloatReading) (records : List EvidenceRecord) (baseUrl : String)
    (now : Instant) : Except ExportError GeoJSONFeatureCollection := do
  let features ← records.mapM (featureFromRecord reading)
  return {
    features := features
    numberMatched := features.length
    numberReturned := features.length
    timeStamp := now
    links := [[("rel", "self"), ("href", baseUrl), ("type", "application/geo+json")]] }

theorem featureCollection_ok {reading : FloatReading} {records : List EvidenceRecord}
    {features : List GeoJSONFeature} (h : records.mapM (featureFromRecord reading) = .ok features)
    (baseUrl : String) (now : Instant) :
    ∃ collection, featureCollection reading records baseUrl now = .ok collection ∧
      collection.features = features := by
  rw [featureCollection, h]
  exact ⟨_, rfl, rfl⟩

/-- Where all coordinates are read there are all features. -/
theorem exists_features {reading : FloatReading} {records : List EvidenceRecord}
    (h : ∀ r ∈ records, ∃ place, coordinates reading r.payload = .ok place) :
    ∃ features, records.mapM (featureFromRecord reading) = .ok features := by
  rw [mapM_ok_iff]
  intro r hr
  obtain ⟨place, hplace⟩ := h r hr
  rw [featureFromRecord, hplace]
  exact ⟨_, rfl⟩

end Features

section Manifest

structure ExchangeManifest where
  generatedAt : Instant
  recordCount : ℕ
  firstRecordAt : Option String
  lastRecordAt : Option String
  recordHashes : List String
  contentSha256 : String

def exportManifest (records : List EvidenceRecord) (now : Instant) : ExchangeManifest where
  generatedAt := now
  recordCount := records.length
  firstRecordAt := (records.map EvidenceRecord.createdAt).min?
  lastRecordAt := (records.map EvidenceRecord.createdAt).max?
  recordHashes := records.map EvidenceRecord.recordHash
  contentSha256 := String.ofList
    (hexEncode (sha256 (encodeUtf8 (Json.array (records.map EvidenceRecord.toJson)).sortKeys.dumps)))

/-- What a decision packet is made with. -/
structure DecisionEngines (Request Assessment GraphAssessment Plan : Type) where
  corridorId : Request → String
  assess : Request → Except String Assessment
  analyze : Request → Except String GraphAssessment
  compile : Request → Assessment → Except String Plan
  approvalRequired : Plan → Bool

structure DecisionPacket (Assessment GraphAssessment Plan : Type) where
  corridorId : String
  assessment : Assessment
  dependencyAssessment : GraphAssessment
  plan : Plan
  evidenceManifest : ExchangeManifest
  approvalRequired : Bool

variable {Request Assessment GraphAssessment Plan : Type}

def buildDecisionPacket (engines : DecisionEngines Request Assessment GraphAssessment Plan)
    (request : Request) (evidenceManifest : ExchangeManifest) :
    Except String (DecisionPacket Assessment GraphAssessment Plan) := do
  let assessment ← engines.assess request
  let dependencyAssessment ← engines.analyze request
  let plan ← engines.compile request assessment
  return {
    corridorId := engines.corridorId request
    assessment := assessment
    dependencyAssessment := dependencyAssessment
    plan := plan
    evidenceManifest := evidenceManifest
    approvalRequired := engines.approvalRequired plan }

/-- A packet holds the manifest it is built with. -/
theorem buildDecisionPacket_manifest
    {engines : DecisionEngines Request Assessment GraphAssessment Plan} {request : Request}
    {manifest : ExchangeManifest} {packet : DecisionPacket Assessment GraphAssessment Plan}
    (h : buildDecisionPacket engines request manifest = .ok packet) :
    packet.evidenceManifest = manifest := by
  obtain ⟨assessment, -, h⟩ := bind_eq_ok.mp h
  obtain ⟨graph, -, h⟩ := bind_eq_ok.mp h
  obtain ⟨plan, -, h⟩ := bind_eq_ok.mp h
  cases h
  rfl

end Manifest

section Endpoints
variable {ed : Ed25519} (L : EvidenceLedger ed)

/-- The packet of a request without a stored response, or the text of the refusal. -/
def createDecisionPacket {Request Assessment GraphAssessment Plan : Type}
    (engines : DecisionEngines Request Assessment GraphAssessment Plan)
    (ledgerText : LedgerError → String) (file : File) (request : Request) (now : Instant) :
    Except String (DecisionPacket Assessment GraphAssessment Plan) := do
  let records ← (L.records file 0 1000).mapError ledgerText
  buildDecisionPacket engines request (exportManifest records now)

def evidenceExportManifest (file : File) (now : Instant) : Except ExportError ExchangeManifest := do
  let records ← (L.records file 0 1000).mapError .ledger
  return exportManifest records now

def ogcEvidenceItems (reading : FloatReading) (file : File) (url : String) (now : Instant)
    (offset : ℤ := 0) (limit : ℤ := 100) : Except ExportError GeoJSONFeatureCollection :=
  if offset < 0 ∨ 1000000 < offset ∨ limit < 1 ∨ 100 < limit then .error .invalidQuery
  else do
    let bounded ← (L.records file 0 1000).mapError .ledger
    featureCollection reading ((bounded.drop offset.toNat).take limit.toNat) url now

/-- Every line of the ledger is a record. -/
def HoldsRecords (file : File) (records : List EvidenceRecord) : Prop :=
  ∃ lines, EvidenceLedger.fileLines file = .ok lines ∧ lines.map L.parseLine = records.map some

/-- The manifest of the endpoint and of every packet lists these records. -/
def ManifestsList (file : File) (shown : List EvidenceRecord) : Prop :=
  (∀ now, ∃ manifest, evidenceExportManifest L file now = .ok manifest ∧
      manifest.recordHashes = shown.map EvidenceRecord.recordHash) ∧
    ∀ (Request Assessment GraphAssessment Plan : Type)
      (engines : DecisionEngines Request Assessment GraphAssessment Plan)
      (ledgerText : LedgerError → String) (request : Request) (now : Instant)
      (packet : DecisionPacket Assessment GraphAssessment Plan),
      createDecisionPacket L engines ledgerText file request now = .ok packet →
        packet.evidenceManifest.recordHashes = shown.map EvidenceRecord.recordHash

/-- The pages of every size, as far as offsets are accepted, add up to these records. -/
def PagesList (reading : FloatReading) (file : File) (shown : List EvidenceRecord) : Prop :=
  ∀ (url : String) (now : Instant) (limit : ℕ), 1 ≤ limit → limit ≤ 100 →
    ∃ pages : ℕ → GeoJSONFeatureCollection,
      (∀ k : ℕ, k * limit ≤ 1000000 →
        ogcEvidenceItems L reading file url now (k * limit : ℕ) limit = .ok (pages k)) ∧
      shown.mapM (featureFromRecord reading) =
        .ok ((List.range (1000000 / limit + 1)).flatMap fun k => (pages k).features)

end Endpoints

section Coverage
variable {ed : Ed25519} {L : EvidenceLedger ed} {file : File} {records : List EvidenceRecord}

/-- Lines that are records are all validated. -/
theorem mapM_validate {lines : List (List Char)} (h : lines.map L.parseLine = records.map some) :
    lines.mapM L.validate = .ok records := by
  have hvalid : ∀ {text : List Char} {r : EvidenceRecord}, L.parseLine text = some r →
      L.validate text = .ok r := by
    intro text r hparse
    rw [EvidenceLedger.parseLine] at hparse
    rw [EvidenceLedger.validate]
    cases hread : L.codec.validateJson (String.ofList text) with
    | error message => rw [hread] at hparse; cases hparse
    | ok record =>
      rw [hread] at hparse
      cases hparse
      rfl
  rw [mapM_eq_ok_iff]
  induction lines generalizing records with
  | nil =>
    cases records with
    | nil => rfl
    | cons r records => cases h
  | cons text lines ih =>
    cases records with
    | nil => cases h
    | cons r records =>
      obtain ⟨hhead, htail⟩ := List.cons.inj h
      rw [List.map_cons, List.map_cons, hvalid hhead, ih htail]

theorem records_of_holds (h : HoldsRecords L file records) (offset limit : ℕ) (hpos : 1 ≤ limit)
    (hlimit : limit ≤ 1000) : L.records file offset limit = .ok ((records.drop offset).take limit) := by
  obtain ⟨lines, hlines, hparsed⟩ := h
  have hargs : ¬((offset : ℤ) < 0 ∨ (limit : ℤ) < 1 ∨ 1000 < (limit : ℤ)) := by omega
  have hall := mapM_validate hparsed
  have hlen : lines.length = records.length := by
    have hlengths := congrArg List.length hparsed
    rwa [List.length_map, List.length_map] at hlengths
  cases file with
  | none =>
    cases hlines
    rw [EvidenceLedger.records, if_neg hargs]
    rw [List.length_nil] at hlen
    rw [List.eq_nil_of_length_eq_zero hlen.symm, List.drop_nil, List.take_nil]
  | some bytes =>
    rw [EvidenceLedger.fileLines] at hlines
    cases htext : EvidenceLedger.readText bytes with
    | error e => rw [htext] at hlines; cases hlines
    | ok text =>
      rw [htext] at hlines
      cases hlines
      rw [EvidenceLedger.records, if_neg hargs, htext]
      simp only [ok_bind, Int.toNat_natCast]
      split_ifs with hend
      · rw [List.drop_eq_nil_of_le (by omega), List.take_nil]
      · exact mapM_slice hall offset limit

/-- The records that are exported. -/
theorem records_exported (h : HoldsRecords L file records) :
    L.records file 0 1000 = .ok (records.take 1000) :=
  records_of_holds h 0 1000 (by decide) (le_refl _)

/-- The exports show the first thousand records: the manifests always, and the pages where the
coordinates of these records are read. -/
theorem exports_bounded (L : EvidenceLedger ed) (reading : FloatReading) (file : File)
    (records : List EvidenceRecord) (h : HoldsRecords L file records) :
    ManifestsList L file (records.take 1000) ∧
      ((∀ r ∈ records.take 1000, ∃ place, coordinates reading r.payload = .ok place) →
        PagesList L reading file (records.take 1000)) := by
  have hread := records_exported h
  refine ⟨⟨fun now => ⟨exportManifest (records.take 1000) now, ?_, rfl⟩, ?_⟩, ?_⟩
  · rw [evidenceExportManifest, hread]
    rfl
  · intro Request Assessment GraphAssessment Plan engines ledgerText request now packet hpacket
    rw [createDecisionPacket, hread] at hpacket
    rw [buildDecisionPacket_manifest hpacket]
    rfl
  · intro hplaces url now limit hpos hlimit
    obtain ⟨features, hfeatures⟩ := exists_features hplaces
    have hpage := fun k => featureCollection_ok (mapM_slice hfeatures (k * limit) limit) url now
    choose pages hpages hsame using hpage
    refine ⟨pages, ?_, ?_⟩
    · intro k hk
      have hquery : ¬(((k * limit : ℕ) : ℤ) < 0 ∨ 1000000 < ((k * limit : ℕ) : ℤ) ∨
          (limit : ℤ) < 1 ∨ 100 < (limit : ℤ)) := by omega
      rw [ogcEvidenceItems, if_neg hquery, hread, Int.toNat_natCast, Int.toNat_natCast]
      exact hpages k
    · have hlen : features.length ≤ 1000 := by
        have hlengths := congrArg List.length (mapM_eq_ok_iff.mp hfeatures)
        rw [List.length_map, List.length_map] at hlengths
        rw [← hlengths]
        exact List.length_take_le _ _
      have hcover : features.length ≤ (1000000 / limit + 1) * limit := by
        have hdiv := Nat.lt_div_mul_add (a := 1000000) (b := limit) hpos
        rw [Nat.add_mul, Nat.one_mul]
        omega
      simp only [hsame, flatMap_pages]
      rw [hfeatures, List.take_of_length_le hcover]

/-- At most a thousand records are in a manifest. -/
theorem manifests_length {shown : List EvidenceRecord}
    (hread : L.records file 0 1000 = .ok (records.take 1000)) (h : ManifestsList L file shown) :
    shown.length ≤ 1000 := by
  obtain ⟨manifest, hmanifest, hhashes⟩ := h.1 0
  rw [evidenceExportManifest, hread] at hmanifest
  cases hmanifest
  have hlengths := congrArg List.length hhashes
  rw [exportManifest, List.length_map, List.length_map] at hlengths
  rw [← hlengths]
  exact List.length_take_le _ _

/-- At most a thousand features are on the pages. -/
theorem pages_length {reading : FloatReading} {shown : List EvidenceRecord}
    (hread : L.records file 0 1000 = .ok (records.take 1000))
    (h : PagesList L reading file shown) : shown.length ≤ 1000 := by
  obtain ⟨pages, hpages, hshown⟩ := h "" 0 100 (by decide) (le_refl _)
  have hpage : ∀ k ∈ List.range (1000000 / 100 + 1), (pages k).features.length =
      (((records.take 1000).drop (k * 100)).take 100).length := by
    intro k hk
    have hrange := List.mem_range.mp hk
    have hserved := hpages k (by omega)
    rw [ogcEvidenceItems, if_neg (by omega), hread] at hserved
    obtain ⟨bounded, hbounded, hserved⟩ := bind_eq_ok.mp hserved
    cases hbounded
    obtain ⟨features, hfeatures, hcollection⟩ := bind_eq_ok.mp hserved
    have hlengths := congrArg List.length (mapM_eq_ok_iff.mp hfeatures)
    rw [List.length_map, List.length_map, Int.toNat_natCast] at hlengths
    have hsame : features = (pages k).features :=
      congrArg GeoJSONFeatureCollection.features (Except.ok.inj hcollection)
    rw [← hsame]
    exact hlengths.symm
  have hsum : ((List.range (1000000 / 100 + 1)).flatMap fun k => (pages k).features).length =
      ((List.range (1000000 / 100 + 1)).flatMap fun k =>
        ((records.take 1000).drop (k * 100)).take 100).length := by
    rw [List.length_flatMap, List.length_flatMap]
    exact congrArg List.sum (List.map_congr_left hpage)
  have hlengths := congrArg List.length (mapM_eq_ok_iff.mp hshown)
  rw [List.length_map, List.length_map] at hlengths
  rw [hlengths, hsum, flatMap_pages]
  exact (List.length_take_le' _ _).trans (List.length_take_le _ _)

end Coverage

section Sample
open EvidenceLedger

/-- A ledger without keys that reads and prints the records of a table. -/
def plainLedger (table : List EvidenceRecord) : EvidenceLedger sampleScheme :=
  init (tableCodec table) none none

def plainRecords (calls : List AppendCall) : List EvidenceRecord :=
  (plainLedger []).recordsFor genesis calls

def plainFile (calls : List AppendCall) : File :=
  some ((plainLedger (plainRecords calls)).fileBytes (plainRecords calls))

/-- Calls whose records have different texts leave a verified ledger of these records. -/
theorem plainFile_holds {calls : List AppendCall}
    (htexts : (plainRecords calls).Pairwise fun r s => r.toJson.dumps ≠ s.toJson.dumps)
    (hnumbers : ∀ call ∈ calls, Json.printable (Json.literalsMembers call.payload) = true)
    (hcalls : ∀ call ∈ calls, Json.printable call.chars = true) :
    (plainLedger (plainRecords calls)).verify (plainFile calls) = .ok [] ∧
      HoldsRecords (plainLedger (plainRecords calls)) (plainFile calls) (plainRecords calls) := by
  have hpayloads : (plainRecords calls).map EvidenceRecord.payload = calls.map AppendCall.payload :=
    recordsFor_map _ (fun _ _ => rfl) genesis calls
  have hliterals : ∀ r ∈ plainRecords calls,
      Json.printable (Json.literalsMembers r.payload) = true := by
    intro r hr
    have hmem : r.payload ∈ calls.map AppendCall.payload := hpayloads ▸ List.mem_map_of_mem hr
    obtain ⟨call, hcall, heq⟩ := List.mem_map.mp hmem
    rw [← heq]
    exact hnumbers call hcall
  have hlaw : (plainLedger (plainRecords calls)).codec.LawfulOn {r | r ∈ plainRecords calls} :=
    tableCodec_lawfulOn htexts hliterals
  have hsep : (plainLedger (plainRecords calls)).Separable {r | r ∈ plainRecords calls}
      (plainRecords calls) := by
    intro r hr
    have hchars := (plainLedger []).recordsFor_not_separator genesis_not_separator
      (fun call hcall => not_separator_of_printable (hcalls call hcall)) r hr
    exact ⟨hr, dump_not_separator hlaw hr hchars⟩
  have hkeys : (plainLedger []).KeysMatch := by
    intro key hkey
    cases hkey
  constructor
  · exact verify_eq_nil_of_linked hlaw hsep ((plainLedger []).linked_recordsFor genesis calls)
      ((plainLedger []).signatureAccepted_recordsFor sampleScheme_correct hkeys genesis calls) rfl
  · refine ⟨_, fileLines_fileBytes hlaw hsep rfl, ?_⟩
    rw [dumpLines, List.map_map]
    apply List.map_congr_left
    intro r hr
    change parseLine _ ((plainLedger (plainRecords calls)).codec.dumpJson r).toList = some r
    rw [parseLine, String.ofList_toList, hlaw.validate_dump r hr]
    rfl

/-- An observation of a series, told from the others by its identifier. -/
def seriesCall (n : ℕ) : AppendCall where
  recordId := String.ofList (List.replicate n 'a')
  createdAt := "2026-07-23T00:00:00+00:00"
  recordType := "observation"
  subjectId := "asset-a"
  payload := []

def seriesCalls (n : ℕ) : List AppendCall := (List.range n).map seriesCall

/-- An observation placed at a latitude that has no float. -/
def farCall : AppendCall where
  recordId := "r1"
  createdAt := "2026-07-23T00:00:00+00:00"
  recordType := "observation"
  subjectId := "asset-a"
  payload := [("latitude", .int (2 ^ 1024)), ("longitude", .int 0)]

def plainReading : FloatReading where
  ofLiteral _ := .notFinite
  ofText _ := none

theorem quote_replicate (n : ℕ) :
    Json.quote (String.ofList (List.replicate n 'a')) = '"' :: (List.replicate n 'a' ++ ['"']) := by
  have hescape : (List.replicate n 'a').flatMap Json.escape = List.replicate n 'a' := by
    induction n with
    | zero => rfl
    | succ n ih =>
      rw [List.replicate_succ, List.flatMap_cons, ih]
      rfl
  rw [Json.quote, String.toList_ofList, hescape]

/-- Records whose identifiers are distinct rows of one letter have different texts. -/
theorem texts_of_ids {calls : List AppendCall}
    (hids : ∀ call ∈ calls, ∃ i, call.recordId = String.ofList (List.replicate i 'a'))
    (hne : (calls.map AppendCall.recordId).Nodup) :
    (plainRecords calls).Pairwise fun r s => r.toJson.dumps ≠ s.toJson.dumps := by
  have hmap : (plainRecords calls).map EvidenceRecord.recordId = calls.map AppendCall.recordId :=
    recordsFor_map _ (fun _ _ => rfl) genesis calls
  rw [← hmap, List.Nodup, List.pairwise_map] at hne
  refine hne.imp_of_mem fun {r s} hr hs hrs htext => hrs ?_
  have hplain : ∀ {r : EvidenceRecord}, r ∈ plainRecords calls →
      ∃ i, r.recordId = String.ofList (List.replicate i 'a') := by
    intro r hr
    have hmem := hmap ▸ List.mem_map_of_mem (f := EvidenceRecord.recordId) hr
    obtain ⟨call, hcall, heq⟩ := List.mem_map.mp hmem
    rw [← heq]
    exact hids call hcall
  obtain ⟨i, hi⟩ := hplain hr
  obtain ⟨j, hj⟩ := hplain hs
  have hquote : ∀ i, '"' ∉ List.replicate i 'a' := by
    intro i hmem
    exact absurd (List.eq_of_mem_replicate hmem) (by decide)
  simp only [EvidenceRecord.toJson, Json.dumps, Json.dumpsMembers, hi, hj, quote_replicate,
    List.cons_append, List.append_assoc, List.cons.injEq, true_and, List.append_cancel_left_eq,
    List.nil_append] at htext
  rw [hi, hj, (append_separator_inj (hquote i) (hquote j) htext).1]

theorem series_texts (n : ℕ) :
    (plainRecords (seriesCalls n)).Pairwise
      fun r s => r.toJson.dumps ≠ s.toJson.dumps := by
  refine texts_of_ids (fun call hcall => ?_) ?_
  · obtain ⟨i, -, rfl⟩ := List.mem_map.mp hcall
    exact ⟨i, rfl⟩
  · rw [seriesCalls, List.map_map]
    refine List.Nodup.map (fun i j h => ?_) List.nodup_range
    have hlengths := congrArg List.length (String.ofList_injective h)
    rwa [List.length_replicate, List.length_replicate] at hlengths

theorem seriesCalls_printable (n : ℕ) :
    ∀ call ∈ seriesCalls n, Json.printable call.chars = true := by
  intro call hcall
  obtain ⟨i, -, rfl⟩ := List.mem_map.mp hcall
  rw [Json.printable, List.all_eq_true]
  intro c hc
  have hcases : c ∈ List.replicate i 'a' ∨ c ∈ (seriesCall 0).chars := by
    simpa [seriesCall, AppendCall.chars, Json.charsMembers] using hc
  cases hcases with
  | inl hid =>
    rw [List.eq_of_mem_replicate hid]
    decide
  | inr hrest =>
    have hall : (seriesCall 0).chars.all (fun c => 32 ≤ c.toNat && c.toNat ≤ 126) = true := by decide
    exact List.all_eq_true.mp hall c hrest

theorem plainSeries_holds (n : ℕ) :
    (plainLedger (plainRecords (seriesCalls n))).verify (plainFile (seriesCalls n)) = .ok [] ∧
      HoldsRecords (plainLedger (plainRecords (seriesCalls n))) (plainFile (seriesCalls n))
        (plainRecords (seriesCalls n)) := by
  refine plainFile_holds (series_texts n) (fun call hcall => ?_) (seriesCalls_printable n)
  obtain ⟨i, -, rfl⟩ := List.mem_map.mp hcall
  rfl

theorem exports_bounded_series :
    ManifestsList (plainLedger (plainRecords (seriesCalls 1001))) (plainFile (seriesCalls 1001))
        ((plainRecords (seriesCalls 1001)).take 1000) ∧
      PagesList (plainLedger (plainRecords (seriesCalls 1001))) plainReading
        (plainFile (seriesCalls 1001)) ((plainRecords (seriesCalls 1001)).take 1000) := by
  have hbounded := exports_bounded (plainLedger (plainRecords (seriesCalls 1001))) plainReading
    (plainFile (seriesCalls 1001)) (plainRecords (seriesCalls 1001)) (plainSeries_holds 1001).2
  refine ⟨hbounded.1, hbounded.2 fun r hr => ⟨none, ?_⟩⟩
  have hpayloads : (plainRecords (seriesCalls 1001)).map EvidenceRecord.payload =
      (seriesCalls 1001).map AppendCall.payload := recordsFor_map _ (fun _ _ => rfl) genesis _
  have hmem : r.payload ∈ (seriesCalls 1001).map AppendCall.payload :=
    hpayloads ▸ List.mem_map_of_mem (List.mem_of_mem_take hr)
  obtain ⟨call, hcall, heq⟩ := List.mem_map.mp hmem
  obtain ⟨i, -, rfl⟩ := List.mem_map.mp hcall
  rw [← heq]
  rfl

/-- Of a thousand and one records the last is in no export, and a latitude without a float
leaves its page out. -/
theorem exports_miss :
    ((plainLedger (plainRecords (seriesCalls 1001))).verify (plainFile (seriesCalls 1001)) = .ok [] ∧
        HoldsRecords (plainLedger (plainRecords (seriesCalls 1001))) (plainFile (seriesCalls 1001))
          (plainRecords (seriesCalls 1001)) ∧
        ¬ ManifestsList (plainLedger (plainRecords (seriesCalls 1001))) (plainFile (seriesCalls 1001))
          (plainRecords (seriesCalls 1001)) ∧
        ¬ PagesList (plainLedger (plainRecords (seriesCalls 1001))) plainReading
          (plainFile (seriesCalls 1001)) (plainRecords (seriesCalls 1001))) ∧
      (plainLedger (plainRecords [farCall])).verify (plainFile [farCall]) = .ok [] ∧
        HoldsRecords (plainLedger (plainRecords [farCall])) (plainFile [farCall])
          (plainRecords [farCall]) ∧
        ¬ PagesList (plainLedger (plainRecords [farCall])) plainReading (plainFile [farCall])
          (plainRecords [farCall]) := by
  have hseries := plainSeries_holds 1001
  have hlength : ¬ (plainRecords (seriesCalls 1001)).length ≤ 1000 := by
    rw [plainRecords, recordsFor_length, seriesCalls, List.length_map, List.length_range]
    decide
  have hread := records_exported hseries.2
  have hfar := @plainFile_holds [farCall] (List.pairwise_singleton _ _) (by decide) (by decide)
  refine ⟨⟨hseries.1, hseries.2, fun h => hlength (manifests_length hread h),
    fun h => hlength (pages_length hread h)⟩, hfar.1, hfar.2, fun h => ?_⟩
  obtain ⟨pages, -, hshown⟩ := h "" 0 1 (le_refl _) (by decide)
  have hfirst : featureFromRecord plainReading ((plainLedger []).recordFor genesis farCall) =
      .error .overflow := by
    have hlarge : (2 : ℤ) ^ 1024 - 2 ^ 970 ≤ |2 ^ 1024| := by
      rw [abs_of_nonneg (by positivity)]
      exact sub_le_self _ (by positivity)
    have hcandidate : candidateCoordinates plainReading farCall.payload = .error .overflow := by
      have hlatitude : numberOf plainReading (firstOf farCall.payload ["latitude", "lat"]) =
          some (.error .overflow) := by
        change some (floatOfInt (2 ^ 1024)) = _
        rw [floatOfInt, if_pos hlarge]
      have hlongitude : numberOf plainReading (firstOf farCall.payload ["longitude", "lon", "lng"]) =
          some (floatOfInt 0) := rfl
      rw [candidateCoordinates, hlatitude, hlongitude]
      rfl
    rw [featureFromRecord, coordinates]
    change (candidateCoordinates plainReading farCall.payload >>= _) >>= _ = _
    rw [hcandidate]
    rfl
  have hrecords : plainRecords [farCall] = [(plainLedger []).recordFor genesis farCall] := rfl
  rw [hrecords, List.mapM_cons, hfirst] at hshown
  cases hshown

end Sample

end ContinuityOS.Service
