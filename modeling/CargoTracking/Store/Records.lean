import CargoTracking.Instant.Printer
import CargoTracking.Instant.Reader
import CargoTracking.Store.Basic

/-!
# The store of records

Cargos and events are kept as records of text, as they would be in a file, and read back on every
request.  Deliveries are not kept: a cargo that is found has the delivery derived from its records.
A text that stands for nothing makes the request fail with the first such fault; other records do
not matter.  The legs of a cargo belong to its record, at distinct positions.
-/

namespace CargoTracking

structure LegRecord where
  voyageNumber : String
  loadLocation : String
  unloadLocation : String
  loadTime : String
  unloadTime : String
  deriving DecidableEq

structure CargoRecord where
  /-- The origin of the booking. -/
  origin : String
  specOrigin : String
  destination : String
  arrivalDeadline : Option String
  legs : Std.TreeMap Int LegRecord

structure EventRecord where
  trackingId : String
  kind : String
  location : String
  voyageNumber : Option String
  registeredAt : String
  completedAt : String
  deriving DecidableEq

/-! ## Writing records -/

def LegRecord.ofLeg (leg : Leg) : LegRecord where
  voyageNumber := leg.voyageNumber.text
  loadLocation := leg.loadLocation.text
  unloadLocation := leg.unloadLocation.text
  loadTime := leg.loadTime.text
  unloadTime := leg.unloadTime.text

/-- The legs at positions from 0. -/
def LegRecord.ofItinerary (itinerary : Itinerary) : Std.TreeMap Int LegRecord :=
  itinerary.legs.zipIdx.foldl (fun legs (leg, i) => legs.insert (i : Int) (.ofLeg leg)) ∅

def CargoRecord.ofCargo (cargo : Cargo) : CargoRecord where
  origin := cargo.origin.text
  specOrigin := cargo.routeSpecification.origin.text
  destination := cargo.routeSpecification.destination.text
  arrivalDeadline := cargo.routeSpecification.arrivalDeadline.map (·.text)
  legs := LegRecord.ofItinerary cargo.itinerary

def EventRecord.ofEvent (event : HandlingEvent) : EventRecord where
  trackingId := event.trackingId.text
  kind := event.activity.kind.name
  location := event.activity.location.text
  voyageNumber := event.activity.voyageNumber.map (·.text)
  registeredAt := event.registeredAt.text
  completedAt := event.completedAt.text

/-! ## Reading records -/

def readTime (column : TimeColumn) (text : String) : Except Error Instant :=
  match Instant.ofString? text with
  | some t => .ok t
  | none => .error (.corruptRecord (.time column))

def readKind (text : String) : Except Error EventKind :=
  let kind := EventKind.ofName text
  if kind = .notHandled then .error (.corruptRecord (.eventKind text)) else .ok kind

def LegRecord.read (record : LegRecord) : Except Error Leg := do
  let loadTime ← readTime .loadTime record.loadTime
  let unloadTime ← readTime .unloadTime record.unloadTime
  return {
    voyageNumber := ⟨record.voyageNumber⟩, loadLocation := ⟨record.loadLocation⟩
    unloadLocation := ⟨record.unloadLocation⟩, loadTime, unloadTime }

def CargoRecord.readSpecification (record : CargoRecord) : Except Error RouteSpecification := do
  let arrivalDeadline ← record.arrivalDeadline.mapM (readTime .arrivalDeadline)
  return { origin := ⟨record.specOrigin⟩, destination := ⟨record.destination⟩, arrivalDeadline }

/-- The legs in the order of their positions. -/
def CargoRecord.readItinerary (record : CargoRecord) : Except Error Itinerary := do
  return ⟨← record.legs.values.mapM LegRecord.read⟩

def EventRecord.read (record : EventRecord) : Except Error HandlingEvent := do
  let kind ← readKind record.kind
  let registeredAt ← readTime .registeredAt record.registeredAt
  let completedAt ← readTime .completedAt record.completedAt
  return {
    trackingId := ⟨record.trackingId⟩
    activity := ⟨kind, ⟨record.location⟩, record.voyageNumber.map VoyageNumber.mk⟩
    registeredAt, completedAt }

/-! ## The store -/

structure RecordStore where
  cargos : Std.TreeMap TrackingId CargoRecord
  /-- The events of all cargos in the order in which they were added. -/
  events : List EventRecord

namespace RecordStore

def history (store : RecordStore) (id : TrackingId) : Except Error History := do
  return ⟨← (store.events.filter (·.trackingId = id.text)).mapM EventRecord.read⟩

/-- Reads the specification, the legs and the events of a cargo, in this order. -/
def readCargo (store : RecordStore) (id : TrackingId) (record : CargoRecord) (now : Instant) :
    Except Error Cargo := do
  let spec ← record.readSpecification
  let itinerary ← record.readItinerary
  let history ← store.history id
  return {
    trackingId := id, origin := ⟨record.origin⟩, routeSpecification := spec, itinerary
    delivery := .derive spec itinerary history now }

def find (store : RecordStore) (id : TrackingId) (now : Instant) : Except Error Cargo :=
  match store.cargos[id]? with
  | some record => store.readCargo id record now
  | none => .error (.unknownCargo id)

/-- Replaces the record of the cargo, except for the origin of a cargo that is already there. -/
def store (store : RecordStore) (cargo : Cargo) : RecordStore :=
  let record := CargoRecord.ofCargo cargo
  -- Its legs take the place of all the legs that were there.
  let origin := (store.cargos[cargo.trackingId]?.map (·.origin)).getD record.origin
  { store with cargos := store.cargos.insert cargo.trackingId { record with origin } }

instance : CargoStore RecordStore where
  empty := ⟨∅, []⟩
  find := find
  store := store
  findAll store now := store.cargos.toList.mapM fun (id, record) => store.readCargo id record now
  trackingIds store := store.cargos.keys
  append store event := { store with events := store.events ++ [.ofEvent event] }
  history := history

/-! ## Records from elsewhere

Records may be added as they are.  One is refused if its key is taken, or if it belongs to a cargo
that is not there; events belong to an id, not to a cargo. -/

/-- Adds the record of a cargo, without legs. -/
def addCargo? (store : RecordStore) (id : TrackingId) (origin specOrigin destination : String)
    (arrivalDeadline : Option String) : Option RecordStore :=
  if store.cargos.contains id then none
  else some { store with
    cargos := store.cargos.insert id ⟨origin, specOrigin, destination, arrivalDeadline, ∅⟩ }

/-- Adds a leg to the record of a cargo. -/
def addLeg? (store : RecordStore) (id : TrackingId) (position : Int) (leg : LegRecord) :
    Option RecordStore := do
  let record ← store.cargos[id]?
  if record.legs.contains position then none
  else some { store with
    cargos := store.cargos.insert id { record with legs := record.legs.insert position leg } }

def addEvent (store : RecordStore) (event : EventRecord) : RecordStore :=
  { store with events := store.events ++ [event] }

end RecordStore

end CargoTracking
