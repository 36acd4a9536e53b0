import ContinuityOS.Library.DateTime
import ContinuityOS.Library.FirstHit
import ContinuityOS.Library.Text

/-! # Transportation transaction sets

The parsers of the load tender and of the ocean status message. Both fold over the segments of a
message; the last segment of a kind decides a field that it writes.
-/
namespace ContinuityOS.Connectors
open Library

structure ShipmentStop where
  stopSequence : ℕ
  facilityId : String
  facilityName : String
  city : String
  country : String := "CAN"
  postalCode : String := ""
  latitude : ℚ := 0
  longitude : ℚ := 0
  modalType : String := "TRUCK"
deriving DecidableEq

structure ShipmentRecord where
  shipmentId : String
  bolNumber : String
  carrierScac : String
  shipperName : String
  consigneeName : String
  commodity : String
  weightTonnes : ℚ
  declaredValueCad : ℚ := 0
  status : String := "IN_TRANSIT"
  stops : List ShipmentStop := []
  chokepointsCrossed : List String := []
  timestamp : DateTime

section Segments

/-- The segments of a message between tildes and newlines, each split at its asterisks. -/
def segments (content : String) : List (List String) :=
  let pieces := splitOn '~' (content.toList.map fun c => if c = '\n' then '~' else c)
  let lines := (pieces.map strip).filter fun line => line ≠ []
  lines.map fun line => (splitOn '*' line).map String.ofList

/-- A segment of a kind with more than a number of elements. -/
def isSegment (seg : String) (n : ℕ) (elements : List String) : Bool :=
  elements.getD 0 "" = seg ∧ n < elements.length

end Segments

/-- What the parser of the load tender has read. -/
structure LoadTender where
  shipmentId : String := "EDI204-UNKNOWN"
  bolNumber : String := ""
  carrierScac : String := "UNKNOWN"
  shipper : String := "UNKNOWN SHIPPER"
  consignee : String := "UNKNOWN CONSIGNEE"
  weightTonnes : ℚ := 20
  stops : List ShipmentStop := []
  stopSeq : ℕ := 1

namespace LoadTender

/-- One segment of a load tender. Reading a number is a parameter; a text that is none leaves the
weight. -/
def segment (float : String → Option ℚ) (t : LoadTender) (elements : List String) : LoadTender :=
  if isSegment "B2" 2 elements then { t with carrierScac := elements.getD 2 "" }
  else if isSegment "B2A" 2 elements then { t with shipmentId := elements.getD 2 "" }
  else if isSegment "L11" 2 elements then
    -- both branches of the source take the first element
    if elements.getD 2 "" = "BM" then { t with bolNumber := elements.getD 1 "" }
    else { t with bolNumber := elements.getD 1 "" }
  else if isSegment "N1" 2 elements then
    if elements.getD 1 "" = "SH" then { t with shipper := elements.getD 2 "" }
    else if elements.getD 1 "" = "CN" then { t with consignee := elements.getD 2 "" }
    else t
  else if isSegment "S5" 1 elements then
    { t with
      stops := t.stops ++ [{ stopSequence := t.stopSeq, facilityId := "STOP-" ++ toString t.stopSeq
                             facilityName := "Stop " ++ toString t.stopSeq, city := "Unknown" }]
      stopSeq := t.stopSeq + 1 }
  else if isSegment "OID" 4 elements then
    match float (elements.getD 4 "") with
    | some kilograms => { t with weightTonnes := kilograms / 1000 }
    | none => t
  else t

def defaultStops (t : LoadTender) : List ShipmentStop :=
  [{ stopSequence := 1, facilityId := "ORIGIN", facilityName := t.shipper, city := "Origin City" },
    { stopSequence := 2, facilityId := "DESTINATION", facilityName := t.consignee
      city := "Destination City" }]

end LoadTender

def parseEdi204 (float : String → Option ℚ) (now : DateTime) (content : String) : ShipmentRecord :=
  let t := (segments content).foldl (LoadTender.segment float) {}
  { shipmentId := t.shipmentId
    bolNumber := if t.bolNumber = "" then "BOL-" ++ t.shipmentId else t.bolNumber
    carrierScac := t.carrierScac
    shipperName := t.shipper
    consigneeName := t.consignee
    commodity := "GENERAL FREIGHT"
    weightTonnes := t.weightTonnes
    stops := if t.stops = [] then t.defaultStops else t.stops
    timestamp := now }

/-- What the parser of the ocean status message has read. -/
structure OceanStatus where
  shipmentId : String := "EDI315-CONTAINER"
  bolNumber : String := "BOL-OCEAN"
  status : String := "VESSEL_DEPARTED"
  stops : List ShipmentStop := []

namespace OceanStatus

/-- The stop of a port segment; the sequence follows the type of the port. -/
def portStop (elements : List String) : ShipmentStop where
  stopSequence := if elements.getD 1 "" = "L" then 1 else 2
  facilityId := elements.getD 2 ""
  facilityName := elements.getD 3 ""
  city := elements.getD 3 ""
  modalType := "MARITIME"

def segment (o : OceanStatus) (elements : List String) : OceanStatus :=
  if isSegment "B4" 3 elements then
    { o with
      status := elements.getD 3 ""
      shipmentId := elements.getD 1 "" }
  else if isSegment "N9" 2 elements ∧ elements.getD 1 "" = "BM" then
    { o with bolNumber := elements.getD 2 "" }
  else if isSegment "R4" 3 elements then { o with stops := o.stops ++ [portStop elements] }
  else o

def defaultStops : List ShipmentStop :=
  [{ stopSequence := 1, facilityId := "PORT-A", facilityName := "Port of Loading"
     city := "Yokohama", country := "JPN", modalType := "MARITIME" },
    { stopSequence := 2, facilityId := "PORT-B", facilityName := "Port of Discharge"
      city := "Vancouver", country := "CAN", modalType := "MARITIME" }]

theorem segment_stops (o : OceanStatus) (elements : List String) :
    (o.segment elements).stops =
      o.stops ++ if isSegment "R4" 3 elements then [portStop elements] else [] := by
  unfold segment
  split_ifs with h4 h9 hport hport hport <;> simp_all [isSegment]

theorem foldl_segment_stops (l : List (List String)) (o : OceanStatus) :
    (l.foldl segment o).stops = o.stops ++ (l.filter (isSegment "R4" 3)).map portStop := by
  induction l generalizing o with
  | nil => simp
  | cons elements l ih =>
    rw [List.foldl_cons, ih, segment_stops, List.filter_cons]
    split_ifs with hport <;> simp

end OceanStatus

def parseEdi315 (now : DateTime) (content : String) : ShipmentRecord :=
  let o := (segments content).foldl OceanStatus.segment {}
  { shipmentId := o.shipmentId
    bolNumber := o.bolNumber
    carrierScac := "MAEU"
    shipperName := "Global Shipper Inc."
    consigneeName := "Canadian Defence Logistics"
    commodity := "CRITICAL INDUSTRIAL PARTS"
    weightTonnes := 450
    status := o.status
    stops := if o.stops = [] then OceanStatus.defaultStops else o.stops
    timestamp := now }

/-- The port segments that the parser takes. -/
def portCalls (content : String) : List (List String) :=
  (segments content).filter (isSegment "R4" 3)

/-- The stops of an ocean message are its port segments in the order of the message. -/
theorem parseEdi315_stops (now : DateTime) (content : String) :
    (parseEdi315 now content).stops =
      if portCalls content = [] then OceanStatus.defaultStops
      else (portCalls content).map OceanStatus.portStop := by
  have hstops : ((segments content).foldl OceanStatus.segment {}).stops =
      (portCalls content).map OceanStatus.portStop := by
    rw [OceanStatus.foldl_segment_stops, List.nil_append, portCalls]
  by_cases hnone : portCalls content = []
  · rw [if_pos hnone]
    simp only [parseEdi315, hstops, hnone, List.map_nil, if_true]
  · have hsome : (portCalls content).map OceanStatus.portStop ≠ [] :=
      mt List.map_eq_nil_iff.mp hnone
    rw [if_neg hnone]
    simp only [parseEdi315, hstops, if_neg hsome]

end ContinuityOS.Connectors
