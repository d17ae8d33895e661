import CargoTracking.Journal
import CargoTracking.Network
import CargoTracking.Store.Basic

/-!
# Operations on a store

An operation reads and changes a store, and adds to the journal.  One that fails keeps what it had
changed and added before; nothing is undone.
-/

namespace CargoTracking

/-- A store with what has been made known so far. -/
structure World (σ : Type) where
  store : σ
  notices : List Notice := []
  log : List LogEvent := []

abbrev Service (σ : Type) := ExceptT Error (StateM (World σ))

/-- The result of an operation, and the world after it. -/
structure Outcome (σ α : Type) where
  result : Except Error α
  world : World σ

namespace Service

variable {σ : Type} [CargoStore σ]

/-- Performs an operation on a store, with an empty journal. -/
def perform {α : Type} (service : Service σ α) (store : σ) : Outcome σ α :=
  let (result, world) := (ExceptT.run service).run { store }
  { result, world }

def findCargo (id : TrackingId) (now : Instant) : Service σ Cargo := do
  ofExcept (CargoStore.find (← get).store id now)

def storeCargo (cargo : Cargo) : Service σ Unit :=
  modify fun world => { world with store := CargoStore.store world.store cargo }

def appendEvent (event : HandlingEvent) : Service σ Unit :=
  modify fun world => { world with store := CargoStore.append world.store event }

def history (id : TrackingId) : Service σ History := do
  ofExcept (CargoStore.history (← get).store id)

def log (event : LogEvent) : Service σ Unit :=
  modify fun world => { world with log := world.log ++ [event] }

/-- Tells whoever waits for the cargo, and logs it. -/
def notify (notice : Notice) : Service σ Unit :=
  modify fun world =>
    { world with notices := world.notices ++ [notice], log := world.log ++ [.noticed notice] }

end Service

end CargoTracking
