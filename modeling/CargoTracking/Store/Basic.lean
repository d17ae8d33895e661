import CargoTracking.Cargo
import CargoTracking.Error

/-!
# Keeping cargos

What the operations need of a store.  A store that derives deliveries when a cargo is asked for
stamps them with the current time, so reading takes the time.
-/

namespace CargoTracking

class CargoStore (σ : Type) where
  /-- Without cargos and without events. -/
  empty : σ
  find : σ → TrackingId → (now : Instant) → Except Error Cargo
  /-- Adds the cargo, or replaces the one of the same id. -/
  store : σ → Cargo → σ
  /-- Every cargo, ordered by id. -/
  findAll : σ → (now : Instant) → Except Error (List Cargo)
  /-- The id of every cargo, in order. -/
  trackingIds : σ → List TrackingId
  /-- Adds an event to the history of its cargo, whether there is such a cargo or not. -/
  append : σ → HandlingEvent → σ
  /-- The events of a cargo in the order in which they were added. -/
  history : σ → TrackingId → Except Error History

end CargoTracking
