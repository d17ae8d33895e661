import CargoTracking.CommandLine.Command
import CargoTracking.CommandLine.Display
import CargoTracking.CommandLine.Reference
import CargoTracking.Json.Printer
import CargoTracking.Json.View
import CargoTracking.Registration

/-!
# Running a command

A command performs operations on a store, and writes lines to the terminal: results to the output,
and what it did to the diagnostics.  It may end with a message instead; then what was done before
stays done.
-/

namespace CargoTracking

/-- A world and what has been written to the terminal. -/
structure Terminal (σ : Type) where
  world : World σ
  output : List String := []
  diagnostics : List String := []

abbrev Script (σ : Type) := ExceptT String (StateM (Terminal σ))

/-- How a command ended: with a message if it failed. -/
structure Completion (σ : Type) where
  result : Except String Unit
  terminal : Terminal σ

namespace Script

variable {σ : Type} [CargoStore σ]

/-- Performs an operation; a failure ends the script with a message that tells what failed. -/
def attempt {α : Type} (failure : String) (service : Service σ α) : Script σ α := do
  let terminal ← get
  let (result, world) := (ExceptT.run service).run terminal.world
  set { terminal with world }
  match result with
  | .ok a => return a
  | .error e => throw (failure ++ ": " ++ e.message)

def output (line : String) : Script σ Unit :=
  modify fun terminal => { terminal with output := terminal.output ++ [line] }

def diagnose (line : String) : Script σ Unit :=
  modify fun terminal => { terminal with diagnostics := terminal.diagnostics ++ [line] }

/-- The cargo that a reference on the command line means. -/
def resolveCargo (reference : String) : Script σ TrackingId := do
  match resolve (CargoStore.trackingIds (← get).world.store) reference with
  | .ok id => return id
  | .error fault => throw fault.message

/-- Runs a script on a store, with an empty journal and an empty terminal. -/
def complete (script : Script σ Unit) (store : σ) : Completion σ :=
  let (result, terminal) := (ExceptT.run script).run { world := { store } }
  { result, terminal }

end Script

namespace Command

open Script

variable {σ : Type} [CargoStore σ]

def runBook (directory : Directory) (now : Instant) (fresh : TrackingId)
    (origin destination : String) (deadline : Instant) : Script σ Unit := do
  let id ← attempt "failed to book cargo" <|
    Booking.book directory now fresh ⟨normalized origin⟩ ⟨normalized destination⟩ (some deadline)
  output id.text

def runList (now : Instant) : Script σ Unit := do
  let cargos ← attempt "failed to list cargos" (Booking.cargos now)
  if cargos.isEmpty then
    output "No cargos"
  cargos.forM fun cargo => output cargo.display

def runLocations (directory : Directory) : Script σ Unit :=
  directory.allLocations.forM fun location =>
    output (location.unLocode.text ++ "  " ++ location.name)

def runRoute (now : Instant) (id : TrackingId) (legs : List Leg) : Script σ Unit := do
  attempt "failed to route cargo" (Booking.assign now id ⟨legs⟩)
  let cargo ← attempt "failed to load cargo" (Booking.load now id)
  diagnose ("Cargo " ++ id.text ++ " routed via " ++ toString cargo.legs.length ++ " leg(s)")
  cargo.legs.forM fun leg => diagnose ("  " ++ leg.display)
  if cargo.misrouted then
    diagnose ("Warning: itinerary does not take the cargo from " ++ cargo.origin.text ++ " to " ++
      cargo.destination.text ++ " in time")

def runReroute (directory : Directory) (now : Instant) (id : TrackingId) (destination : String) :
    Script σ Unit := do
  let destination : UnLocode := ⟨normalized destination⟩
  attempt "failed to change destination" (Booking.changeDestination directory now id destination)
  let cargo ← attempt "failed to load cargo" (Booking.load now id)
  diagnose ("Cargo " ++ id.text ++ " now bound for " ++ destination.text)
  if cargo.misrouted then
    diagnose "The current itinerary no longer fits; assign a new one with `freight route`"

def runHandle (directory : Directory) (now : Instant) (id : TrackingId) (event location : String)
    (voyage : Option String) (completed : Option Instant) : Script σ Unit := do
  let kind := EventKind.ofName event
  -- Told in terms of the options, before anything is registered.
  if kind = .notHandled then
    throw ("unknown event type '" ++ event ++
      "': expected receive, load, unload, customs or claim")
  let voyage := normalized (voyage.getD "")
  if kind.requiresVoyage && voyage = "" then
    throw (kind.name ++ " events require --voyage")
  let location : UnLocode := ⟨normalized location⟩
  attempt "failed to register handling event" <| Registration.register directory now
    { trackingId := id, kind, location, voyageNumber := ⟨voyage⟩
      completedAt := some (completed.getD now) }
  let tracked ← attempt "failed to track cargo" (Tracking.track now id)
  diagnose ("Registered " ++ kind.name ++ " of " ++ id.text ++ " in " ++ location.text)
  diagnose ("Status: " ++ tracked.statusText)
  if tracked.misdirected then
    diagnose "Warning: cargo is misdirected"

def runTrack (now : Instant) (id : TrackingId) (json : Bool) : Script σ Unit := do
  let tracked ← attempt "failed to track cargo" (Tracking.track now id)
  if json then
    output (tracked.toJson.pretty 0)
  else
    tracked.display.forM output

/-- Runs a command at the time `now`; a cargo that it books gets the id `fresh`. -/
def run (directory : Directory) (now : Instant) (fresh : TrackingId) : Command → Script σ Unit
  | book origin destination deadline => runBook directory now fresh origin destination deadline
  | list => runList now
  | locations => runLocations directory
  | route cargo legs => do runRoute now (← resolveCargo cargo) legs
  | reroute cargo destination => do runReroute directory now (← resolveCargo cargo) destination
  | handle cargo event location voyage completed => do
    runHandle directory now (← resolveCargo cargo) event location voyage completed
  | track cargo json => do runTrack now (← resolveCargo cargo) json

end Command

end CargoTracking
