import CargoTracking.Store.Basic

/-!
# The store in memory

Cargos are kept as they are, with the delivery they were stored with.
-/

namespace CargoTracking

structure MemoryStore where
  cargos : Std.TreeMap TrackingId Cargo
  /-- The events of all cargos in the order in which they were added. -/
  events : List HandlingEvent

namespace MemoryStore

def find (store : MemoryStore) (id : TrackingId) : Except Error Cargo :=
  match store.cargos[id]? with
  | some cargo => .ok cargo
  | none => .error (.unknownCargo id)

instance : CargoStore MemoryStore where
  empty := ⟨∅, []⟩
  find store id _ := store.find id
  store store cargo := { store with cargos := store.cargos.insert cargo.trackingId cargo }
  findAll store _ := .ok store.cargos.values
  trackingIds store := store.cargos.keys
  append store event := { store with events := store.events ++ [event] }
  history store id := .ok ⟨store.events.filter (·.trackingId = id)⟩

end MemoryStore

end CargoTracking
