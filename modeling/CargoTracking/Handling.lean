import CargoTracking.Identifier
import CargoTracking.Instant.Basic
import CargoTracking.Text.Blank

/-!
# Handling

What is done to a cargo on its way, the reports of it, and the log of the reports for one cargo.
-/

namespace CargoTracking

/-- What happened to the cargo.  `notHandled` stands for no event at all. -/
inductive EventKind
  | notHandled
  | receive
  | load
  | unload
  | customs
  | claim
  deriving DecidableEq

namespace EventKind

def name : EventKind → String
  | notHandled => "NotHandled"
  | receive => "Receive"
  | load => "Load"
  | unload => "Unload"
  | customs => "Customs"
  | claim => "Claim"

/-- The kind a name stands for, whatever its letter case and the blanks around it; `notHandled` for
every other text, its own name included. -/
def ofName (text : String) : EventKind :=
  match (Text.trim text).toLower with
  | "receive" => receive
  | "load" => load
  | "unload" => unload
  | "customs" => customs
  | "claim" => claim
  | _ => notHandled

/-- Loading and unloading happen on a voyage, the rest at a location only. -/
def requiresVoyage : EventKind → Bool
  | load | unload => true
  | _ => false

end EventKind

/-- A step of handling, observed or expected. -/
structure Activity where
  kind : EventKind
  location : UnLocode
  voyageNumber : Option VoyageNumber
  deriving DecidableEq

def Activity.at (kind : EventKind) (location : UnLocode) : Activity := ⟨kind, location, none⟩

def Activity.onVoyage (kind : EventKind) (location : UnLocode) (voyage : VoyageNumber) : Activity :=
  ⟨kind, location, some voyage⟩

/-- A report of something that happened to a cargo: when it happened in the world, and when it was
heard of, which may be long after. -/
structure HandlingEvent where
  trackingId : TrackingId
  activity : Activity
  registeredAt : Instant
  completedAt : Instant
  deriving DecidableEq

/-- The reports on one cargo, in the order in which they came in. -/
structure History where
  events : List HandlingEvent
  deriving DecidableEq

namespace History

def empty : History := ⟨[]⟩

def append (history : History) (event : HandlingEvent) : History := ⟨history.events ++ [event]⟩

/-- Of two events the one completed later, of equals the second. -/
def later (best : Option HandlingEvent) (event : HandlingEvent) : Option HandlingEvent :=
  match best with
  | none => some event
  | some b => if b.completedAt ≤ event.completedAt then some event else some b

/-- The event that happened last in the world; of several at the same instant the one that was
reported last. -/
def last? (history : History) : Option HandlingEvent := history.events.foldl later none

theorem last?_append (history : History) (event : HandlingEvent) :
    (history.append event).last? = later history.last? event := by
  simp [last?, append, List.foldl_append]

end History

end CargoTracking
