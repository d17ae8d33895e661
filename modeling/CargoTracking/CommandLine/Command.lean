import CargoTracking.CommandLine.Options

/-!
# Commands

The commands of the command line and the options each of them takes.
-/

namespace CargoTracking

inductive Command
  | book (origin destination : String) (deadline : Instant)
  | list
  | locations
  | route (cargo : String) (legs : List Leg)
  | reroute (cargo destination : String)
  /-- Without a completion time the event was completed just now. -/
  | handle (cargo event location : String) (voyage : Option String) (completed : Option Instant)
  | track (cargo : String) (json : Bool)

/-- A command with the settings that any command may be given. -/
structure Invocation where
  database : Option String
  verbose : Bool
  command : Command

namespace CommandLine

def acceptInstant (text : String) : Except UsageFault Unit :=
  if (Instant.ofString? text).isSome then .ok () else .error (.invalidValue none)

def acceptLeg (text : String) : Except UsageFault Unit :=
  match Leg.ofText text with
  | .ok _ => .ok ()
  | .error fault => .error (.invalidValue (some fault))

/-- A path has at least one character. -/
def acceptPath (text : String) : Except UsageFault Unit :=
  if text = "" then .error .missingValue else .ok ()

/-- The options that every level has. -/
def commonOptions : List OptionSpec :=
  [{ name := "database", shape := .value, accept := acceptPath },
    { name := "verbose", shape := .flag, short := some 'v' },
    { name := "help", shape := .answer .helpRequest, short := some 'h' }]

def valueOption (name : String) : OptionSpec := { name, shape := .value }

def instantOption (name : String) : OptionSpec := { name, shape := .value, accept := acceptInstant }

/-- A command by its name, with its own options and operand, and how it is put together.  That
fails exactly if something required is missing, since values were accepted before. -/
structure CommandSpec where
  name : String
  options : List OptionSpec := []
  operand : Option OptionSpec := none
  build : Taken → Option Command

def CommandSpec.level (spec : CommandSpec) : Level where
  options := spec.options ++ commonOptions
  operand := spec.operand

def commands : List CommandSpec :=
  [{ name := "book"
     options := [valueOption "origin", valueOption "destination", instantOption "deadline"]
     build := fun taken => do
      let origin ← taken.value? "origin"
      let destination ← taken.value? "destination"
      return .book origin destination (← Instant.ofString? (← taken.value? "deadline")) },
    { name := "list", build := fun _ => some .list },
    { name := "locations", build := fun _ => some .locations },
    { name := "route"
      options := [valueOption "cargo", { name := "leg", shape := .values, accept := acceptLeg }]
      build := fun taken => do
        let legs ← (taken.allValues "leg").mapM fun text => (Leg.ofText text).toOption
        if legs.isEmpty then none
        return .route (← taken.value? "cargo") legs },
    { name := "reroute"
      options := [valueOption "cargo", valueOption "destination"]
      build := fun taken => do
        return .reroute (← taken.value? "cargo") (← taken.value? "destination") },
    { name := "handle"
      options := [valueOption "cargo", valueOption "event", valueOption "location",
        valueOption "voyage", instantOption "completed"]
      build := fun taken => do
        let cargo ← taken.value? "cargo"
        let event ← taken.value? "event"
        let location ← taken.value? "location"
        return .handle cargo event location (taken.value? "voyage")
          ((taken.value? "completed").bind Instant.ofString?) },
    { name := "track"
      options := [{ name := "json", shape := .flag }]
      operand := some (valueOption "cargo")
      build := fun taken => do return .track (← taken.value? "cargo") (taken.has "json") }]

/-- The command that shows help on another one. -/
def helpCommand : String := "help"

/-- What comes before a command. -/
def topLevel : Level where
  options := { name := "version", shape := .answer .versionRequest, short := some 'V' } ::
    commonOptions
  commands := helpCommand :: commands.map (·.name)

/-- The answer to the help command; it takes the name of one command, or none. -/
def helpAnswer : List String → UsageFault
  | [] => .helpRequest
  | [name] => if topLevel.commands.contains name then .helpRequest else .unknownCommand
  | _ => .unknownCommand

/-- The invocation that the words after the program's name stand for.  A setting that is given
before the command and after it has its value from there. -/
def parse (words : List String) : Except UsageFault Invocation := do
  let (top, command?) ← topLevel.scan false {} words
  let some (name, words) := command? | throw .missingCommand
  if name = helpCommand then throw (helpAnswer words)
  let some spec := commands.find? (·.name == name) | throw .unknownCommand
  let (taken, _) ← spec.level.scan false {} words
  let some command := spec.build taken | throw .missingArgument
  -- A fault of the command's own words comes before one of the words in front of it.
  let top ← top.settle
  return {
    database := taken.value? "database" <|> top.value? "database"
    verbose := taken.has "verbose" || top.has "verbose"
    command }

end CommandLine

end CargoTracking
