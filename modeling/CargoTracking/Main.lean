import CargoTracking.CommandLine.Run
import CargoTracking.Settings
import CargoTracking.Store.Dump
import Std.Time.DateTime.Timestamp

/-!
# The program

Reads the settings and the records, runs one command, and writes the records back.
-/

open CargoTracking

namespace CargoTracking.Program

def usageText : UsageFault → String
  | .missingArgument => "a required argument is missing"
  | .unknownArgument => "unexpected argument"
  | .unknownCommand => "unrecognized subcommand"
  | .missingCommand => "a subcommand is required"
  | .repeatedOption => "an argument cannot be used multiple times"
  | .missingValue => "a value is required"
  | .surplusValue => "unexpected value for a flag"
  | .invalidValue none => "invalid value"
  | .invalidValue (some fault) => "invalid value: " ++ fault.message
  | .helpRequest => "Usage: freight <book|list|locations|route|reroute|handle|track> [OPTIONS]"
  | .versionRequest => "freight 0.1.0"

/-- The file's contents; none if there is no such file. -/
def readFile? (path : String) : IO (Option ByteArray) := do
  try
    return some (← IO.FS.readBinFile path)
  catch
    | .noFileOrDirectory .. => return none
    | e => throw e

def readSettings (home : String) : IO (Except SettingsFault Settings) := do
  try
    match ← readFile? (Settings.path home) with
    | none => return Settings.ofFile .missing
    | some bytes => return Settings.ofFile (.contents bytes)
  catch _ => return Settings.ofFile .unreadable

/-- The path of the directory that a file is in. -/
def parentPath (path : String) : String :=
  String.ofList ((path.toList.reverse.dropWhile (· != '/')).drop 1).reverse

def readRecords (path : String) : IO RecordStore := do
  match ← readFile? path with
  | none => return CargoStore.empty
  | some bytes =>
    match (String.fromUTF8? bytes).bind RecordStore.ofText? with
    | some store => return store
    | none => throw (IO.userError "file is not a database")

def writeRecords (path : String) (store : RecordStore) : IO Unit := do
  if parentPath path ≠ "" then
    IO.FS.createDirAll (parentPath path)
  IO.FS.writeFile path store.toText

def currentTime : IO Instant := do
  let time ← Std.Time.Timestamp.now
  match Instant.ofNanos? time.toNanosecondsSinceUnixEpoch.val with
  | some now => return now
  | none => throw (IO.userError "the clock is out of range")

def logLine (event : LogEvent) : String :=
  let value : LogValue → String
    | .text s => s
    | .count n => toString n
    | .flag b => toString b
  String.intercalate " " <|
    event.level.name :: event.message :: event.fields.map fun (name, v) => name ++ "=" ++ value v

def runInvocation (invocation : Invocation) (settings : Settings) (home : String) : IO UInt32 := do
  let path := settings.resolveDatabase home invocation.database (← IO.getEnv "FREIGHT_DATABASE")
  let store ← readRecords path
  let fresh := TrackingId.ofNumber (← IO.rand 0 0xFFFFFFFF)
  let completion := (invocation.command.run .sample (← currentTime) fresh).complete store
  -- A command that fails may have changed something before.
  writeRecords path completion.terminal.world.store
  for event in completion.terminal.world.log do
    if invocation.verbose || event.level ≠ .debug then
      IO.eprintln (logLine event)
  completion.terminal.output.forM fun line => IO.println line
  completion.terminal.diagnostics.forM fun line => IO.eprintln line
  match completion.result with
  | .ok () => return 0
  | .error message =>
    IO.eprintln ("Error: " ++ message)
    return 1

end CargoTracking.Program

open CargoTracking.Program in
def main (args : List String) : IO UInt32 := do
  match CommandLine.parse args with
  | .error fault =>
    if fault = .helpRequest ∨ fault = .versionRequest then
      IO.println (usageText fault)
      return 0
    IO.eprintln ("error: " ++ usageText fault)
    return 2
  | .ok invocation =>
    let home := (← IO.getEnv "HOME").getD ""
    match ← readSettings home with
    | .error fault =>
      IO.eprintln ("Error: " ++ Settings.faultMessage home fault)
      return 1
    | .ok settings =>
      try
        runInvocation invocation settings home
      catch e =>
        IO.eprintln ("Error: failed to open database: " ++ toString e)
        return 1
