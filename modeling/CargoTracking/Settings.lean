import CargoTracking.Toml.Document

/-!
# Settings

Where the records are kept, and what is logged.  The place of the records is the first of these that
is given: by the command line, by the environment, by the settings file; and else a default in the
home directory.
-/

namespace CargoTracking

structure Settings where
  database : Option String := none
  logFilter : Option String := none
  deriving DecidableEq

/-- What is found at the place of the settings file. -/
inductive SettingsFile
  | missing
  | unreadable
  | contents (bytes : ByteArray)

/-- Why the settings file cannot be used. -/
inductive SettingsFault
  | unreadable
  | invalid
  deriving DecidableEq

namespace Settings

/-- The directory of everything that is kept for a user. -/
def directory (home : String) : String := home ++ "/.freight"

def path (home : String) : String := directory home ++ "/config.toml"

def defaultDatabase (home : String) : String := directory home ++ "/freight.sqlite"

def faultMessage (home : String) : SettingsFault → String
  | .unreadable => "failed to read " ++ path home
  | .invalid => "invalid config at " ++ path home

/-- The text under a key, which may be missing but not be anything else. -/
def text (entries : Toml.Entries) (key : String) : Except SettingsFault (Option String) :=
  match entries.lookup key with
  | none => .ok none
  | some (.string s) => .ok (some s)
  | some _ => .error .invalid

def ofToml (document : String) : Except SettingsFault Settings :=
  match Toml.read document with
  | none => .error .invalid
  | some entries => do
    return { database := ← text entries "database", logFilter := ← text entries "log-filter" }

/-- Without a file there are no settings.  A file has to be text. -/
def ofFile : SettingsFile → Except SettingsFault Settings
  | .missing => .ok {}
  | .unreadable => .error .unreadable
  | .contents bytes =>
    match String.fromUTF8? bytes with
    | none => .error .unreadable
    | some document => ofToml document

/-- The place of the records.  An empty environment variable counts as none. -/
def resolveDatabase (settings : Settings) (home : String) (explicit environment : Option String) :
    String :=
  (explicit <|> environment.filter (· ≠ "") <|> settings.database).getD (defaultDatabase home)

end Settings

end CargoTracking
