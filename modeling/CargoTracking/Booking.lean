import CargoTracking.Service

/-!
# Booking

The operations of whoever administers cargos: booking them, assigning itineraries, changing their
destination, and looking at them.
-/

namespace CargoTracking

/-- A booked cargo as its administrator sees it. -/
structure BookedCargo where
  trackingId : TrackingId
  origin : UnLocode
  destination : UnLocode
  arrivalDeadline : Option Instant
  legs : List Leg
  /-- There is an itinerary. -/
  routed : Bool
  /-- There is one, and it does not satisfy the route specification. -/
  misrouted : Bool
  deriving DecidableEq

def BookedCargo.of (cargo : Cargo) : BookedCargo where
  trackingId := cargo.trackingId
  origin := cargo.origin
  destination := cargo.routeSpecification.destination
  arrivalDeadline := cargo.routeSpecification.arrivalDeadline
  legs := cargo.itinerary.legs
  routed := !cargo.itinerary.isEmpty
  misrouted := cargo.delivery.routingStatus = .misrouted

namespace Booking

open Service

variable {σ : Type} [CargoStore σ]

/-- Books a cargo under the id `fresh`, not routed yet. -/
def book (directory : Directory) (now : Instant) (fresh : TrackingId) (origin destination : UnLocode)
    (deadline : Option Instant) : Service σ TrackingId := do
  if origin.isEmpty || destination.isEmpty then
    throw (.invalidArgument .noOriginOrDestination)
  let some deadline := deadline | throw (.invalidArgument .noDeadline)
  let _ ← ofExcept (directory.findLocation origin)
  let _ ← ofExcept (directory.findLocation destination)
  let spec : RouteSpecification := { origin, destination, arrivalDeadline := some deadline }
  storeCargo (.book fresh spec now)
  log (.booked fresh spec)
  return fresh

def load (now : Instant) (id : TrackingId) : Service σ BookedCargo := do
  if id.isEmpty then
    throw (.invalidArgument .noTrackingId)
  return .of (← findCargo id now)

/-- The specification that a router is to be asked about; none for a cargo that is not there. -/
def routeRequest (now : Instant) (id : TrackingId) : Service σ (Option RouteSpecification) := do
  match CargoStore.find (← get).store id now with
  | .ok cargo => return some cargo.routeSpecification
  | .error (.unknownCargo _) => return none
  | .error e => throw e

/-- What the router proposes for a cargo; nothing for a cargo that is not there. -/
def possibleRoutes (now : Instant) (router : RouteSpecification → List Itinerary) (id : TrackingId) :
    Service σ (List Itinerary) := do
  match ← routeRequest now id with
  | some spec => return router spec
  | none => return []

/-- Commits a cargo to an itinerary, even to one that does not satisfy its specification. -/
def assign (now : Instant) (id : TrackingId) (itinerary : Itinerary) : Service σ Unit := do
  if id.isEmpty || itinerary.isEmpty then
    throw (.invalidArgument .noTrackingIdOrItinerary)
  let cargo ← findCargo id now
  let cargo := cargo.assign itinerary now
  storeCargo cargo
  log (.assigned id cargo.itinerary.legs.length)
  if cargo.delivery.routingStatus = .misrouted then
    log (.unsatisfying id)

/-- Gives a cargo another destination.  Origin, deadline and itinerary stay. -/
def changeDestination (directory : Directory) (now : Instant) (id : TrackingId)
    (destination : UnLocode) : Service σ Unit := do
  if id.isEmpty || destination.isEmpty then
    throw (.invalidArgument .noTrackingIdOrDestination)
  let cargo ← findCargo id now
  let location ← ofExcept (directory.findLocation destination)
  -- The route starts where the cargo was booked from, whatever the specification said.
  let cargo := cargo.respecify
    { origin := cargo.origin
      destination := location.unLocode
      arrivalDeadline := cargo.routeSpecification.arrivalDeadline } now
  storeCargo cargo
  log (.redirected id destination cargo.delivery.routingStatus)

/-- Every booked cargo, ordered by id. -/
def cargos (now : Instant) : Service σ (List BookedCargo) := do
  return (← ofExcept (CargoStore.findAll (← get).store now)).map .of

end Booking

end CargoTracking
