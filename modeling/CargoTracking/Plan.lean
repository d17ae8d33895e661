import CargoTracking.Handling

/-!
# Plans

The itinerary a cargo is committed to, and the route specification it has to satisfy.
-/

namespace CargoTracking

/-- A stretch of an itinerary on one voyage. -/
structure Leg where
  voyageNumber : VoyageNumber
  loadLocation : UnLocode
  unloadLocation : UnLocode
  loadTime : Instant
  unloadTime : Instant
  deriving DecidableEq

/-- What an itinerary has to achieve. -/
structure RouteSpecification where
  origin : UnLocode
  destination : UnLocode
  arrivalDeadline : Option Instant
  deriving DecidableEq

/-- Legs in the order of travel; without legs the cargo is not routed.  That the legs are connected
is not checked. -/
structure Itinerary where
  legs : List Leg
  deriving DecidableEq

namespace Itinerary

def empty : Itinerary := ⟨[]⟩

def isEmpty (itinerary : Itinerary) : Bool := itinerary.legs.isEmpty

/-- Where the cargo is first loaded. -/
def initialDeparture? (itinerary : Itinerary) : Option UnLocode :=
  itinerary.legs.head?.map (·.loadLocation)

/-- Where the cargo is finally unloaded. -/
def finalArrival? (itinerary : Itinerary) : Option UnLocode :=
  itinerary.legs.getLast?.map (·.unloadLocation)

/-- When the cargo is finally unloaded. -/
def finalArrivalTime? (itinerary : Itinerary) : Option Instant :=
  itinerary.legs.getLast?.map (·.unloadTime)

/-- The position of the first leg that loads onto the voyage at the location. -/
def loading? (itinerary : Itinerary) (voyage : VoyageNumber) (location : UnLocode) : Option Nat :=
  itinerary.legs.findIdx? fun leg => leg.voyageNumber = voyage ∧ leg.loadLocation = location

/-- The position of the first leg that unloads off the voyage at the location. -/
def unloading? (itinerary : Itinerary) (voyage : VoyageNumber) (location : UnLocode) : Option Nat :=
  itinerary.legs.findIdx? fun leg => leg.voyageNumber = voyage ∧ leg.unloadLocation = location

/-- Whether the plan foresees an activity.  Of no legs nothing is expected; customs may happen
anywhere. -/
def foresees (itinerary : Itinerary) (activity : Activity) : Bool :=
  !itinerary.isEmpty &&
    match activity.kind with
    | .receive => itinerary.initialDeparture? = some activity.location
    | .load => activity.voyageNumber.any fun v => (itinerary.loading? v activity.location).isSome
    | .unload => activity.voyageNumber.any fun v => (itinerary.unloading? v activity.location).isSome
    | .claim => itinerary.finalArrival? = some activity.location
    | .customs | .notHandled => true

def isExpected (itinerary : Itinerary) (event : HandlingEvent) : Bool :=
  itinerary.foresees event.activity

/-- The itinerary takes the cargo from the origin to the destination in time. -/
def satisfies (itinerary : Itinerary) (spec : RouteSpecification) : Bool :=
  match itinerary.legs.head?, itinerary.legs.getLast? with
  | some first, some last =>
    first.loadLocation = spec.origin && last.unloadLocation = spec.destination &&
      spec.arrivalDeadline.all fun deadline => last.unloadTime ≤ deadline
  | _, _ => false

end Itinerary

end CargoTracking
