import CargoTracking.Delivery

/-!
# Cargo

A booked cargo: its identity, its plan, and the delivery derived from the plan and the history.
Every change of the plan derives the delivery anew.
-/

namespace CargoTracking

structure Cargo where
  trackingId : TrackingId
  /-- Where the cargo was booked from; it stays when the route is specified anew. -/
  origin : UnLocode
  routeSpecification : RouteSpecification
  itinerary : Itinerary
  delivery : Delivery
  deriving DecidableEq

namespace Cargo

/-- A cargo that is booked, and neither routed nor handled yet. -/
def book (id : TrackingId) (spec : RouteSpecification) (now : Instant) : Cargo where
  trackingId := id
  origin := spec.origin
  routeSpecification := spec
  itinerary := .empty
  delivery := .derive spec .empty .empty now

/-- Commits the cargo to an itinerary, whether it satisfies the specification or not. -/
def assign (cargo : Cargo) (itinerary : Itinerary) (now : Instant) : Cargo :=
  { cargo with
    itinerary
    delivery := cargo.delivery.updateOnRouting cargo.routeSpecification itinerary now }

/-- Replaces the route specification and keeps the itinerary. -/
def respecify (cargo : Cargo) (spec : RouteSpecification) (now : Instant) : Cargo :=
  { cargo with
    routeSpecification := spec
    delivery := cargo.delivery.updateOnRouting spec cargo.itinerary now }

/-- Derives the delivery anew from the whole history. -/
def deriveFrom (cargo : Cargo) (history : History) (now : Instant) : Cargo :=
  { cargo with delivery := .derive cargo.routeSpecification cargo.itinerary history now }

end Cargo

end CargoTracking
