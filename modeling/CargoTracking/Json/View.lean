import CargoTracking.Booking
import CargoTracking.Json.Form
import CargoTracking.Tracking

/-!
# The JSON form of the views

Views are written only.
-/

namespace CargoTracking

def BookedCargo.toJson (cargo : BookedCargo) : Json := .object
  [("tracking_id", JsonForm.toJson cargo.trackingId), ("origin", JsonForm.toJson cargo.origin),
    ("destination", JsonForm.toJson cargo.destination),
    ("arrival_deadline", JsonForm.toJson cargo.arrivalDeadline),
    ("legs", JsonForm.toJson cargo.legs), ("routed", .bool cargo.routed),
    ("misrouted", .bool cargo.misrouted)]

def TrackedEvent.toJson (event : TrackedEvent) : Json := .object
  [("description", .string event.description), ("expected", .bool event.expected)]

def TrackedCargo.toJson (cargo : TrackedCargo) : Json := .object
  [("tracking_id", JsonForm.toJson cargo.trackingId), ("status_text", .string cargo.statusText),
    ("origin", JsonForm.toJson cargo.origin), ("destination", JsonForm.toJson cargo.destination),
    ("eta", JsonForm.toJson cargo.eta),
    ("next_expected_activity", .string cargo.nextExpectedActivity),
    ("arrival_deadline", JsonForm.toJson cargo.arrivalDeadline),
    ("misdirected", .bool cargo.misdirected),
    ("events", .array (cargo.events.map TrackedEvent.toJson))]

end CargoTracking
