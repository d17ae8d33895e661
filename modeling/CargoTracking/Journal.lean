import CargoTracking.Cargo
import CargoTracking.Error
import CargoTracking.Instant.Printer

/-!
# The journal

What an operation makes known besides its result: notices to whoever waits for a cargo, and log
events.
-/

namespace CargoTracking

/-- A change of a cargo's delivery that is worth telling, with the cargo as it is after it. -/
inductive Notice
  | misdirected (cargo : Cargo)
  | arrived (cargo : Cargo)
  deriving DecidableEq

def Notice.cargo : Notice → Cargo
  | misdirected cargo | arrived cargo => cargo

inductive LogLevel
  | debug
  | info
  | warn
  deriving DecidableEq

def LogLevel.name : LogLevel → String
  | debug => "DEBUG"
  | info => "INFO"
  | warn => "WARN"

/-- The value of a field of a log event. -/
inductive LogValue
  | text (s : String)
  | count (n : Nat)
  | flag (b : Bool)
  deriving DecidableEq

inductive LogEvent
  | booked (id : TrackingId) (spec : RouteSpecification)
  | assigned (id : TrackingId) (legs : Nat)
  | unsatisfying (id : TrackingId)
  | redirected (id : TrackingId) (destination : UnLocode) (status : RoutingStatus)
  /-- A report without a necessary argument. -/
  | incomplete (id : TrackingId) (fault : ArgumentFault)
  /-- A report of something that refers to nothing known. -/
  | refused (id : TrackingId) (cause : Error)
  | registered (event : HandlingEvent)
  | derived (id : TrackingId) (delivery : Delivery)
  | noticed (notice : Notice)
  deriving DecidableEq

namespace LogEvent

def level : LogEvent → LogLevel
  | booked .. | assigned .. | redirected .. | registered .. => .info
  | unsatisfying .. | incomplete .. | refused .. => .warn
  | derived .. => .debug
  | noticed (.misdirected _) => .warn
  | noticed (.arrived _) => .info

def message : LogEvent → String
  | booked .. => "booked cargo"
  | assigned .. => "assigned cargo to route"
  | unsatisfying .. => "assigned itinerary does not satisfy route specification"
  | redirected .. => "changed destination"
  | incomplete .. | refused .. => "rejected handling event"
  | registered .. => "registered handling event"
  | derived .. => "derived delivery"
  | noticed (.misdirected _) => "cargo was misdirected"
  | noticed (.arrived _) => "cargo has arrived"

/-- A field that is left out when it has no value. -/
def optionalField (name : String) (value : Option String) : List (String × LogValue) :=
  value.toList.map fun s => (name, .text s)

def fields : LogEvent → List (String × LogValue)
  | booked id spec =>
    [("tracking_id", .text id.text), ("origin", .text spec.origin.text),
      ("destination", .text spec.destination.text)]
  | assigned id legs => [("tracking_id", .text id.text), ("legs", .count legs)]
  | unsatisfying id => [("tracking_id", .text id.text)]
  | redirected id destination status =>
    [("tracking_id", .text id.text), ("destination", .text destination.text),
      ("routing_status", .text status.name)]
  | incomplete id fault => [("tracking_id", .text id.text), ("reason", .text fault.message)]
  | refused id cause => [("tracking_id", .text id.text), ("error", .text cause.message)]
  | registered event =>
    [("tracking_id", .text event.trackingId.text), ("event", .text event.activity.kind.name),
      ("location", .text event.activity.location.text)] ++
      optionalField "voyage" (event.activity.voyageNumber.map (·.text)) ++
      [("completed_at", .text event.completedAt.text)]
  | derived id delivery =>
    [("tracking_id", .text id.text), ("transport_status", .text delivery.transportStatus.name),
      ("routing_status", .text delivery.routingStatus.name),
      ("misdirected", .flag delivery.isMisdirected)]
  | noticed (.misdirected cargo) =>
    ("tracking_id", .text cargo.trackingId.text) ::
      optionalField "location" (cargo.delivery.lastKnownLocation.map (·.text))
  | noticed (.arrived cargo) =>
    [("tracking_id", .text cargo.trackingId.text),
      ("destination", .text cargo.routeSpecification.destination.text)]

end LogEvent

end CargoTracking
