import CargoTracking.Booking
import CargoTracking.Tracking

/-!
# Display

How cargos and legs are shown on the terminal.
-/

namespace CargoTracking

def BookedCargo.routingText (cargo : BookedCargo) : String :=
  if !cargo.routed then "not routed" else if cargo.misrouted then "misrouted" else "routed"

/-- A booked cargo on one line. -/
def BookedCargo.display (cargo : BookedCargo) : String :=
  cargo.trackingId.text ++ "  " ++ cargo.origin.text ++ " → " ++ cargo.destination.text ++ "  [" ++
    cargo.routingText ++ "]"

def Leg.display (leg : Leg) : String :=
  leg.voyageNumber.text ++ "  " ++ leg.loadLocation.text ++ " " ++ leg.loadTime.text ++ " → " ++
    leg.unloadLocation.text ++ " " ++ leg.unloadTime.text

def TrackedEvent.display (event : TrackedEvent) : String :=
  (if event.expected then "  " else "! ") ++ event.description

/-- A tracked cargo on several lines, the events after an empty one. -/
def TrackedCargo.display (cargo : TrackedCargo) : List String :=
  ["Cargo " ++ cargo.trackingId.text ++ ": " ++ cargo.origin.text ++ " → " ++ cargo.destination.text,
    "Status: " ++ cargo.statusText] ++
  (if cargo.misdirected then ["Misdirected: the itinerary no longer describes this cargo"] else []) ++
  (cargo.eta.map fun eta => "ETA: " ++ eta.text).toList ++
  (cargo.arrivalDeadline.map fun deadline => "Deadline: " ++ deadline.text).toList ++
  [cargo.nextExpectedActivity] ++
  (if cargo.events.isEmpty then [] else "" :: cargo.events.map TrackedEvent.display)

end CargoTracking
