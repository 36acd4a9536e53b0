import ContinuityOS.Domain
import ContinuityOS.Library.DateTime
import ContinuityOS.Library.EventStream
import ContinuityOS.Library.Json
import Mathlib.Data.List.ReduceOption

/-! # The frames of the event streamer

The streamer sends a comment, and then a frame for each event that it takes from its queue or a
comment when none came in time. The type of an event is written into its frame as it is, so a
reader of the stream gets the events exactly when no type is empty or ends a line.
-/
namespace ContinuityOS.Streaming
open Library EventStream

structure SovereignEvent where
  eventId : String
  domain : String
  eventType : String
  corridorId : String
  severity : String := "INFO"
  threatScore : Score := .half
  title : String
  payload : List (String × Json) := []
  timestamp : DateTime

def connectedComment : String := ": sovereign-event-stream-connected\n\n"

def heartbeatComment : String := ": keepalive-heartbeat\n\n"

section Streamer
variable (modelDumpJson : SovereignEvent → String)

def frame (event : SovereignEvent) : String :=
  "event: " ++ event.eventType ++ "\ndata: " ++ modelDumpJson event ++ "\n\n"

/-- What is sent after a wait; `none` is `TimeoutError`. -/
def yielded : Option SovereignEvent → String
  | some event => frame modelDumpJson event
  | none => heartbeatComment

/-- The texts that are sent, for what the waits for the queue give. -/
def sseEventStreamer (waits : List (Option SovereignEvent)) : List String :=
  connectedComment :: waits.map (yielded modelDumpJson)

def message (event : SovereignEvent) : Message where
  name := event.eventType
  data := modelDumpJson event

end Streamer

/-- A type that a frame can carry. -/
def Framed (event : SovereignEvent) : Prop :=
  event.eventType ≠ "" ∧ OneLine event.eventType.toList

section Parse
variable {modelDumpJson : SovereignEvent → String}

theorem messages_frame (hjson : ∀ event, OneLine (modelDumpJson event).toList)
    {event : SovereignEvent} (h : Framed event) (rest : List Char) :
    messages .empty (lines ((frame modelDumpJson event).toList ++ rest)) =
      message modelDumpJson event :: messages .empty (lines rest) := by
  have htext : (frame modelDumpJson event).toList ++ rest =
      "event".toList ++ ':' :: ' ' :: event.eventType.toList ++ '\n' ::
        ("data".toList ++ ':' :: ' ' :: (modelDumpJson event).toList ++ '\n' :: '\n' :: rest) := by
    simp [frame]
  have hne : event.eventType.toList ≠ [] := fun hnil => h.1 (String.toList_eq_nil_iff.mp hnil)
  rw [htext, messages_event h.2 (hjson event) hne, String.ofList_toList, String.ofList_toList]
  rfl

theorem messages_connected (rest : List Char) :
    messages .empty (lines (connectedComment.toList ++ rest)) = messages .empty (lines rest) := by
  have htext : connectedComment.toList ++ rest =
      ':' :: ' ' :: "sovereign-event-stream-connected".toList ++ '\n' :: '\n' :: rest := by
    simp [connectedComment]
  rw [htext, messages_comment (by decide)]

theorem messages_heartbeat (rest : List Char) :
    messages .empty (lines (heartbeatComment.toList ++ rest)) = messages .empty (lines rest) := by
  have htext : heartbeatComment.toList ++ rest =
      ':' :: ' ' :: "keepalive-heartbeat".toList ++ '\n' :: '\n' :: rest := by
    simp [heartbeatComment]
  rw [htext, messages_comment (by decide)]

theorem messages_yielded (hjson : ∀ event, OneLine (modelDumpJson event).toList)
    {waits : List (Option SovereignEvent)} (h : ∀ event ∈ waits.reduceOption, Framed event) :
    messages .empty (lines ((waits.map (yielded modelDumpJson)).flatMap String.toList)) =
      waits.reduceOption.map (message modelDumpJson) := by
  induction waits with
  | nil => rfl
  | cons wait waits ih =>
    rw [List.map_cons, List.flatMap_cons]
    cases wait with
    | none =>
      rw [List.reduceOption_cons_of_none] at h ⊢
      rw [yielded, messages_heartbeat, ih h]
    | some event =>
      rw [List.reduceOption_cons_of_some, List.forall_mem_cons] at h
      rw [yielded, messages_frame hjson h.1, ih h.2, List.reduceOption_cons_of_some, List.map_cons]

/-- The messages of a text have the names of frames only. -/
theorem framed_of_parse {text : String} {events : List SovereignEvent}
    (h : parse text = events.map (message modelDumpJson)) : ∀ event ∈ events, Framed event := by
  intro event hevent
  have hmem : message modelDumpJson event ∈ parse text := by
    rw [h]
    exact List.mem_map_of_mem hevent
  exact parse_name text _ hmem

/-- A frame is read as its event exactly when the type of the event is one line and not empty,
and a stream is read as its events exactly when this holds of each of them. -/
theorem framing_iff (hjson : ∀ event, OneLine (modelDumpJson event).toList) :
    (∀ event, parse (frame modelDumpJson event) = [message modelDumpJson event] ↔
      Framed event) ∧
    ∀ waits, parse (String.join (sseEventStreamer modelDumpJson waits)) =
        waits.reduceOption.map (message modelDumpJson) ↔
      ∀ event ∈ waits.reduceOption, Framed event := by
  constructor
  · intro event
    constructor
    · exact fun h => @framed_of_parse _ _ [event] h event (List.mem_singleton.mpr rfl)
    · intro h
      have hframe := messages_frame hjson h []
      rwa [List.append_nil] at hframe
  · refine fun waits => ⟨framed_of_parse, fun h => ?_⟩
    rw [parse, String.toList_join, sseEventStreamer, List.flatMap_cons, messages_connected,
      messages_yielded hjson h]

end Parse

section Sample

/-- The JSON text of an event with a score of one half and no payload. -/
def sampleJson (event : SovereignEvent) : String :=
  String.ofList (Json.object [("event_id", .string event.eventId),
    ("domain", .string event.domain), ("event_type", .string event.eventType),
    ("corridor_id", .string event.corridorId), ("severity", .string event.severity),
    ("threat_score", .float "0.5"), ("title", .string event.title), ("payload", .object []),
    ("timestamp", .string (String.ofList
      (event.timestamp.parts.isoformat.takeWhile (· ≠ '+') ++ ['Z'])))]).dumps

theorem sampleJson_oneLine (event : SovereignEvent) : OneLine (sampleJson event).toList := by
  rw [sampleJson, String.toList_ofList]
  refine ⟨fun hc => ?_, fun hc => ?_⟩
  · exact absurd (Json.dumps_shown _ rfl _ hc).1 (by decide)
  · exact absurd (Json.dumps_shown _ rfl _ hc).1 (by decide)

def sampleEvent (eventType : String) : SovereignEvent where
  eventId := "12345678-1234-5678-1234-567812345678"
  domain := "MARITIME"
  eventType := eventType
  corridorId := "CORR-ARCTIC"
  title := "Dark fleet"
  timestamp :=
    { parts := { year := 2026, month := 7, day := 25, hour := 0, minute := 0, second := 0
                 microsecond := 0, offset := 0 }
      valid := by decide }

theorem framing_sample :
    parse (frame sampleJson (sampleEvent "DARK_FLEET_DETECTED")) =
        [message sampleJson (sampleEvent "DARK_FLEET_DETECTED")] ∧
      parse (String.join (sseEventStreamer sampleJson [none, some (sampleEvent "ORBITAL_SAR_PASS")])) =
        [message sampleJson (sampleEvent "ORBITAL_SAR_PASS")] := by
  have hframing := framing_iff sampleJson_oneLine
  refine ⟨(hframing.1 _).mpr ⟨by decide, by decide⟩, (hframing.2 _).mpr fun event hevent => ?_⟩
  rw [List.mem_singleton.mp hevent]
  exact ⟨by decide, by decide⟩

/-- A type with a newline closes its own message and opens another. -/
theorem not_framed_newline :
    parse (frame sampleJson (sampleEvent "ALERT\ndata: forged\n\nevent: B")) =
        [⟨"ALERT", "forged"⟩, ⟨"B", sampleJson (sampleEvent "ALERT\ndata: forged\n\nevent: B")⟩] ∧
      parse (frame sampleJson (sampleEvent "ALERT\ndata: forged\n\nevent: B")) ≠
        [message sampleJson (sampleEvent "ALERT\ndata: forged\n\nevent: B")] := by
  decide +kernel

end Sample

end ContinuityOS.Streaming
