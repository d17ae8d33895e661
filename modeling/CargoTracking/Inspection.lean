import CargoTracking.Service

/-!
# Inspection

Deriving the delivery of a cargo anew after it was handled, and telling what has changed for the
worse or for good.  A flag is told when it is set now and was not set before, so that inspecting an
unchanged cargo tells nothing.
-/

namespace CargoTracking.Inspection

open Service

variable {σ : Type} [CargoStore σ]

/-- Tells what an inspection has found, given the delivery before it. -/
def announce (before : Delivery) (cargo : Cargo) : Service σ Unit := do
  if cargo.delivery.isMisdirected && !before.isMisdirected then
    notify (.misdirected cargo)
  if cargo.delivery.isUnloadedAtDestination && !before.isUnloadedAtDestination then
    notify (.arrived cargo)

/-- Derives and stores the delivery of a cargo from its history, to which `event` is added first. -/
def inspectAfter (now : Instant) (id : TrackingId) (event : Option HandlingEvent) :
    Service σ Unit := do
  -- No event is added for a cargo that cannot be found.
  let cargo ← findCargo id now
  if let some event := event then
    appendEvent event
  let inspected := cargo.deriveFrom (← history id) now
  storeCargo inspected
  log (.derived id inspected.delivery)
  announce cargo.delivery inspected

def inspect (now : Instant) (id : TrackingId) : Service σ Unit :=
  inspectAfter now id none

/-- Adds an event to the history of its cargo, and inspects the cargo. -/
def record (now : Instant) (event : HandlingEvent) : Service σ Unit :=
  inspectAfter now event.trackingId (some event)

end CargoTracking.Inspection
