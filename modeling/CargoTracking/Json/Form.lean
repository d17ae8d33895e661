import CargoTracking.Cargo
import CargoTracking.Instant.Printer
import CargoTracking.Instant.Reader
import CargoTracking.Json.Basic
import CargoTracking.Network

/-!
# The JSON form of the model

How each type of the model is written as a JSON value and read from one.  Times, codes, numbers and
ids are strings, alternatives are their names, records are objects with all their members; an absent
value is `null`.
-/

namespace CargoTracking

/-- A way to write the values of a type as JSON and to read them. -/
class JsonForm (α : Type) where
  toJson : α → Json
  ofJson? : Json → Option α

export JsonForm (toJson ofJson?)

/-- Reading what was written gives back the value. -/
class LawfulJsonForm (α : Type) [JsonForm α] : Prop where
  ofJson?_toJson (a : α) : ofJson? (toJson a) = some a

namespace JsonForm

instance : JsonForm String where
  toJson := .string
  ofJson?
    | .string s => some s
    | _ => none

instance : JsonForm Bool where
  toJson := .bool
  ofJson?
    | .bool b => some b
    | _ => none

instance {α : Type} [JsonForm α] : JsonForm (Option α) where
  toJson
    | none => .null
    | some a => toJson a
  ofJson?
    | .null => some none
    | json => (ofJson? json).map some

instance {α : Type} [JsonForm α] : JsonForm (List α) where
  toJson items := .array (items.map toJson)
  ofJson?
    | .array items => items.mapM ofJson?
    | _ => none

instance : JsonForm Instant where
  toJson t := .string t.text
  ofJson?
    | .string s => Instant.ofString? s
    | _ => none

instance : JsonForm UnLocode where
  toJson code := .string code.text
  ofJson? json := (ofJson? json).map UnLocode.mk

instance : JsonForm VoyageNumber where
  toJson number := .string number.text
  ofJson? json := (ofJson? json).map VoyageNumber.mk

instance : JsonForm TrackingId where
  toJson id := .string id.text
  ofJson? json := (ofJson? json).map TrackingId.mk

/-! ## Alternatives -/

/-- The alternative of the given name, among those that are named. -/
def named? {α : Type} (names : List (String × α)) (json : Json) : Option α := do
  names.lookup (← json.alternative?)

def kindName : EventKind → String
  | .notHandled => "notHandled"
  | .receive => "receive"
  | .load => "load"
  | .unload => "unload"
  | .customs => "customs"
  | .claim => "claim"

instance : JsonForm EventKind where
  toJson kind := .string (kindName kind)
  ofJson? := named? <|
    [.notHandled, .receive, .load, .unload, .customs, .claim].map fun k => (kindName k, k)

def transportName : TransportStatus → String
  | .notReceived => "notReceived"
  | .inPort => "inPort"
  | .onboardCarrier => "onboardCarrier"
  | .claimed => "claimed"
  | .unknown => "unknown"

instance : JsonForm TransportStatus where
  toJson status := .string (transportName status)
  ofJson? := named? <|
    [.notReceived, .inPort, .onboardCarrier, .claimed, .unknown].map fun s => (transportName s, s)

def routingName : RoutingStatus → String
  | .notRouted => "notRouted"
  | .routed => "routed"
  | .misrouted => "misrouted"

instance : JsonForm RoutingStatus where
  toJson status := .string (routingName status)
  ofJson? := named? <| [.notRouted, .routed, .misrouted].map fun s => (routingName s, s)

/-! ## Records -/

instance : JsonForm Location where
  toJson l := .object [("un_locode", toJson l.unLocode), ("name", toJson l.name)]
  ofJson? json := do
    let [code, name] ← json.fields? ["un_locode", "name"] | none
    return { unLocode := ← ofJson? code, name := ← ofJson? name }

instance : JsonForm CarrierMovement where
  toJson m := .object
    [("departureLocation", toJson m.departureLocation), ("arrivalLocation", toJson m.arrivalLocation),
      ("departureTime", toJson m.departureTime), ("arrivalTime", toJson m.arrivalTime)]
  ofJson? json := do
    let [departure, arrival, departs, arrives] ←
      json.fields? ["departureLocation", "arrivalLocation", "departureTime", "arrivalTime"] | none
    return {
      departureLocation := ← ofJson? departure, arrivalLocation := ← ofJson? arrival
      departureTime := ← ofJson? departs, arrivalTime := ← ofJson? arrives }

instance : JsonForm Schedule where
  toJson s := .object [("carrier_movements", toJson s.carrierMovements)]
  ofJson? json := do
    let [movements] ← json.fields? ["carrier_movements"] | none
    return { carrierMovements := ← ofJson? movements }

instance : JsonForm Voyage where
  toJson v := .object [("number", toJson v.number), ("schedule", toJson v.schedule)]
  ofJson? json := do
    let [number, schedule] ← json.fields? ["number", "schedule"] | none
    return { number := ← ofJson? number, schedule := ← ofJson? schedule }

instance : JsonForm Leg where
  toJson leg := .object
    [("voyageNumber", toJson leg.voyageNumber), ("loadLocation", toJson leg.loadLocation),
      ("unloadLocation", toJson leg.unloadLocation), ("loadTime", toJson leg.loadTime),
      ("unloadTime", toJson leg.unloadTime)]
  ofJson? json := do
    let [voyage, load, unload, loads, unloads] ←
      json.fields? ["voyageNumber", "loadLocation", "unloadLocation", "loadTime", "unloadTime"] | none
    return {
      voyageNumber := ← ofJson? voyage, loadLocation := ← ofJson? load
      unloadLocation := ← ofJson? unload, loadTime := ← ofJson? loads
      unloadTime := ← ofJson? unloads }

instance : JsonForm Itinerary where
  toJson itinerary := .object [("legs", toJson itinerary.legs)]
  ofJson? json := do
    let [legs] ← json.fields? ["legs"] | none
    return { legs := ← ofJson? legs }

instance : JsonForm RouteSpecification where
  toJson spec := .object
    [("origin", toJson spec.origin), ("destination", toJson spec.destination),
      ("arrivalDeadline", toJson spec.arrivalDeadline)]
  ofJson? json := do
    let [origin, destination, deadline] ←
      json.fields? ["origin", "destination", "arrivalDeadline"] | none
    return {
      origin := ← ofJson? origin, destination := ← ofJson? destination
      arrivalDeadline := ← ofJson? deadline }

instance : JsonForm Activity where
  toJson a := .object
    [("type", toJson a.kind), ("location", toJson a.location),
      ("voyageNumber", toJson a.voyageNumber)]
  ofJson? json := do
    let [kind, location, voyage] ← json.fields? ["type", "location", "voyageNumber"] | none
    return {
      kind := ← ofJson? kind, location := ← ofJson? location, voyageNumber := ← ofJson? voyage }

instance : JsonForm HandlingEvent where
  toJson e := .object
    [("trackingId", toJson e.trackingId), ("activity", toJson e.activity),
      ("registeredAt", toJson e.registeredAt), ("completedAt", toJson e.completedAt)]
  ofJson? json := do
    let [id, activity, registered, completed] ←
      json.fields? ["trackingId", "activity", "registeredAt", "completedAt"] | none
    return {
      trackingId := ← ofJson? id, activity := ← ofJson? activity
      registeredAt := ← ofJson? registered, completedAt := ← ofJson? completed }

instance : JsonForm History where
  toJson h := .object [("events", toJson h.events)]
  ofJson? json := do
    let [events] ← json.fields? ["events"] | none
    return { events := ← ofJson? events }

instance : JsonForm Delivery where
  toJson d := .object
    [("lastEvent", toJson d.lastEvent), ("lastKnownLocation", toJson d.lastKnownLocation),
      ("currentVoyage", toJson d.currentVoyage), ("transportStatus", toJson d.transportStatus),
      ("eta", toJson d.eta), ("nextExpectedActivity", toJson d.nextExpectedActivity),
      ("isMisdirected", toJson d.isMisdirected),
      ("isUnloadedAtDestination", toJson d.isUnloadedAtDestination),
      ("routingStatus", toJson d.routingStatus), ("calculatedAt", toJson d.calculatedAt)]
  ofJson? json := do
    let [last, location, voyage, transport, eta, next, misdirected, arrived, routing, calculated] ←
      json.fields? ["lastEvent", "lastKnownLocation", "currentVoyage", "transportStatus", "eta",
        "nextExpectedActivity", "isMisdirected", "isUnloadedAtDestination", "routingStatus",
        "calculatedAt"] | none
    return {
      lastEvent := ← ofJson? last, lastKnownLocation := ← ofJson? location
      currentVoyage := ← ofJson? voyage, transportStatus := ← ofJson? transport
      eta := ← ofJson? eta, nextExpectedActivity := ← ofJson? next
      isMisdirected := ← ofJson? misdirected, isUnloadedAtDestination := ← ofJson? arrived
      routingStatus := ← ofJson? routing, calculatedAt := ← ofJson? calculated }

instance : JsonForm Cargo where
  toJson c := .object
    [("trackingId", toJson c.trackingId), ("origin", toJson c.origin),
      ("routeSpecification", toJson c.routeSpecification), ("itinerary", toJson c.itinerary),
      ("delivery", toJson c.delivery)]
  ofJson? json := do
    let [id, origin, spec, itinerary, delivery] ←
      json.fields? ["trackingId", "origin", "routeSpecification", "itinerary", "delivery"] | none
    return {
      trackingId := ← ofJson? id, origin := ← ofJson? origin
      routeSpecification := ← ofJson? spec, itinerary := ← ofJson? itinerary
      delivery := ← ofJson? delivery }

end JsonForm

end CargoTracking
