import CargoTracking.Plan

/-!
# Delivery

Where a cargo is and what should happen to it next.  A `Delivery` is derived from the route
specification, the itinerary and the last event of the history; it is never changed, only derived
anew.
-/

namespace CargoTracking

/-- Where the cargo is, as far as the reports tell. -/
inductive TransportStatus
  | notReceived
  | inPort
  | onboardCarrier
  | claimed
  | unknown
  deriving DecidableEq

def TransportStatus.name : TransportStatus → String
  | notReceived => "NotReceived"
  | inPort => "InPort"
  | onboardCarrier => "OnboardCarrier"
  | claimed => "Claimed"
  | unknown => "Unknown"

def TransportStatus.after : Option HandlingEvent → TransportStatus
  | none => notReceived
  | some event =>
    match event.activity.kind with
    | .receive | .unload | .customs => inPort
    | .load => onboardCarrier
    | .claim => claimed
    | .notHandled => unknown

/-- How the itinerary relates to the route specification. -/
inductive RoutingStatus
  | notRouted
  | routed
  | misrouted
  deriving DecidableEq

def RoutingStatus.name : RoutingStatus → String
  | notRouted => "NotRouted"
  | routed => "Routed"
  | misrouted => "Misrouted"

def RoutingStatus.of (spec : RouteSpecification) (itinerary : Itinerary) : RoutingStatus :=
  if itinerary.isEmpty then notRouted else if itinerary.satisfies spec then routed else misrouted

structure Delivery where
  /-- The event completed last, from which the rest was derived. -/
  lastEvent : Option HandlingEvent
  lastKnownLocation : Option UnLocode
  /-- Present only on board a carrier. -/
  currentVoyage : Option VoyageNumber
  transportStatus : TransportStatus
  /-- Absent off track. -/
  eta : Option Instant
  /-- Absent off track, and where nothing is expected. -/
  nextExpectedActivity : Option Activity
  isMisdirected : Bool
  isUnloadedAtDestination : Bool
  routingStatus : RoutingStatus
  calculatedAt : Instant
  deriving DecidableEq

namespace Delivery

/-- The voyage the cargo is on after the event. -/
def voyageAfter? (event : HandlingEvent) : Option VoyageNumber :=
  if event.activity.kind = .load then event.activity.voyageNumber else none

/-- The step of the plan that follows the last event.  The leg it belongs to is the first that has
the event's voyage and location. -/
def nextActivity? (spec : RouteSpecification) (itinerary : Itinerary) :
    Option HandlingEvent → Option Activity
  | none => some (.at .receive spec.origin)
  | some { activity, .. } =>
    match activity.kind with
    | .receive => itinerary.legs.head?.map fun leg => .onVoyage .load leg.loadLocation leg.voyageNumber
    | .load => do
      let i ← itinerary.loading? (← activity.voyageNumber) activity.location
      let leg ← itinerary.legs[i]?
      return .onVoyage .unload leg.unloadLocation leg.voyageNumber
    | .unload => do
      let i ← itinerary.unloading? (← activity.voyageNumber) activity.location
      match itinerary.legs[i + 1]? with
      | some next => return .onVoyage .load next.loadLocation next.voyageNumber
      | none => return .at .claim (← itinerary.legs[i]?).unloadLocation
    | .customs | .claim | .notHandled => none

/-- The plan exists, satisfies the specification, and foresees the last event. -/
def onTrack (spec : RouteSpecification) (itinerary : Itinerary) (last : Option HandlingEvent) : Bool :=
  RoutingStatus.of spec itinerary = .routed && last.all itinerary.isExpected

/-- The delivery after the given last event. -/
def ofLastEvent (spec : RouteSpecification) (itinerary : Itinerary) (last : Option HandlingEvent)
    (now : Instant) : Delivery where
  lastEvent := last
  lastKnownLocation := last.map (·.activity.location)
  currentVoyage := last.bind voyageAfter?
  transportStatus := .after last
  eta := if onTrack spec itinerary last then itinerary.finalArrivalTime? else none
  nextExpectedActivity := if onTrack spec itinerary last then nextActivity? spec itinerary last else none
  isMisdirected := last.any fun event => !itinerary.isExpected event
  isUnloadedAtDestination := last.any fun event =>
    event.activity.kind = .unload && event.activity.location = spec.destination
  routingStatus := .of spec itinerary
  calculatedAt := now

/-- The delivery after all the events of a history. -/
def derive (spec : RouteSpecification) (itinerary : Itinerary) (history : History) (now : Instant) :
    Delivery :=
  ofLastEvent spec itinerary history.last? now

/-- The delivery under another plan, after the same last event. -/
def updateOnRouting (delivery : Delivery) (spec : RouteSpecification) (itinerary : Itinerary)
    (now : Instant) : Delivery :=
  ofLastEvent spec itinerary delivery.lastEvent now

/-- The itinerary still describes what happens. -/
def isOnTrack (delivery : Delivery) : Bool :=
  delivery.routingStatus = .routed && !delivery.isMisdirected

theorem isOnTrack_ofLastEvent (spec : RouteSpecification) (itinerary : Itinerary)
    (last : Option HandlingEvent) (now : Instant) :
    (ofLastEvent spec itinerary last now).isOnTrack = onTrack spec itinerary last := by
  cases last <;> simp [isOnTrack, onTrack, ofLastEvent]

end Delivery

end CargoTracking
