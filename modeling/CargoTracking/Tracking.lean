import CargoTracking.Service

/-!
# Tracking

What whoever waits for a cargo gets to see of it, in words.
-/

namespace CargoTracking

/-- An event in words, and whether the itinerary foresees it. -/
structure TrackedEvent where
  description : String
  expected : Bool
  deriving DecidableEq

structure TrackedCargo where
  trackingId : TrackingId
  statusText : String
  origin : UnLocode
  destination : UnLocode
  eta : Option Instant
  nextExpectedActivity : String
  arrivalDeadline : Option Instant
  misdirected : Bool
  events : List TrackedEvent
  deriving DecidableEq

def Delivery.statusText (delivery : Delivery) : String :=
  match delivery.transportStatus with
  | .notReceived => "Not received"
  | .inPort =>
    match delivery.lastKnownLocation with
    | some location => "In port " ++ location.text
    | none => "In port"
  | .onboardCarrier =>
    match delivery.currentVoyage with
    | some voyage => "Onboard voyage " ++ voyage.text
    | none => "Onboard"
  | .claimed => "Claimed"
  | .unknown => "Unknown"

/-- The number of the voyage, empty if there is none. -/
def Activity.voyageText (activity : Activity) : String :=
  (activity.voyageNumber.map (·.text)).getD ""

/-- The text for a cargo that nothing is expected of. -/
def Activity.nothingExpected : String :=
  "There are currently no expected activities for this cargo."

def Activity.expectationText : Option Activity → String
  | none => nothingExpected
  | some activity =>
    let here := " in " ++ activity.location.text ++ "."
    let start := "Next expected activity is to "
    match activity.kind with
    | .notHandled => nothingExpected
    | .load => start ++ "load cargo onto voyage " ++ activity.voyageText ++ here
    | .unload => start ++ "unload cargo off of voyage " ++ activity.voyageText ++ here
    | .receive => start ++ "receive cargo" ++ here
    | .customs => start ++ "customs cargo" ++ here
    | .claim => start ++ "claim cargo" ++ here

def HandlingEvent.description (event : HandlingEvent) : String :=
  let voyage := event.activity.voyageText
  let here := " in " ++ event.activity.location.text ++ ", at " ++ event.completedAt.text ++ "."
  match event.activity.kind with
  | .notHandled => "Cargo has not yet been received."
  | .receive => "Received" ++ here
  | .load => "Loaded onto voyage " ++ voyage ++ here
  | .unload => "Unloaded off voyage " ++ voyage ++ here
  | .claim => "Claimed" ++ here
  | .customs => "Cleared customs" ++ here

def TrackedCargo.of (cargo : Cargo) (history : History) : TrackedCargo where
  trackingId := cargo.trackingId
  statusText := cargo.delivery.statusText
  origin := cargo.origin
  destination := cargo.routeSpecification.destination
  eta := cargo.delivery.eta
  nextExpectedActivity := Activity.expectationText cargo.delivery.nextExpectedActivity
  arrivalDeadline := cargo.routeSpecification.arrivalDeadline
  misdirected := cargo.delivery.isMisdirected
  events := history.events.map fun event => ⟨event.description, cargo.itinerary.isExpected event⟩

namespace Tracking

open Service

variable {σ : Type} [CargoStore σ]

def track (now : Instant) (id : TrackingId) : Service σ TrackedCargo := do
  if id.isEmpty then
    throw (.invalidArgument .noTrackingId)
  let cargo ← findCargo id now
  return .of cargo (← history id)

end Tracking

end CargoTracking
