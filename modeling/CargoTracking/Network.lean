import CargoTracking.Calendar
import CargoTracking.Error
import CargoTracking.Identifier
import CargoTracking.Instant.Basic

/-!
# The transport network

Locations and the scheduled voyages between them.  A `Directory` holds what is known of them, by code
and by number; it is fixed while cargos come and go.
-/

namespace CargoTracking

/-- A place where cargo is loaded, unloaded and stored. -/
structure Location where
  unLocode : UnLocode
  name : String
  deriving DecidableEq

/-- A vessel's movement from one location to the next. -/
structure CarrierMovement where
  departureLocation : UnLocode
  arrivalLocation : UnLocode
  departureTime : Instant
  arrivalTime : Instant
  deriving DecidableEq

/-- The movements of a voyage in order.  That they are consecutive is not checked. -/
structure Schedule where
  carrierMovements : List CarrierMovement
  deriving DecidableEq

structure Voyage where
  number : VoyageNumber
  schedule : Schedule
  deriving DecidableEq

/-- The known locations and voyages. -/
structure Directory where
  locations : Std.TreeMap UnLocode Location
  voyages : Std.TreeMap VoyageNumber Voyage

namespace Directory

/-- Of several entries with one code or number the last counts. -/
def ofLists (locations : List Location) (voyages : List Voyage) : Directory where
  locations := locations.foldl (fun known l => known.insert l.unLocode l) ∅
  voyages := voyages.foldl (fun known v => known.insert v.number v) ∅

def findLocation (directory : Directory) (code : UnLocode) : Except Error Location :=
  match directory.locations[code]? with
  | some location => .ok location
  | none => .error (.unknownLocation code)

def findVoyage (directory : Directory) (number : VoyageNumber) : Except Error Voyage :=
  match directory.voyages[number]? with
  | some voyage => .ok voyage
  | none => .error (.unknownVoyage number)

/-- Every known location, ordered by code. -/
def allLocations (directory : Directory) : List Location :=
  directory.locations.values

end Directory

/-! ## Sample network -/

def sampleLocations : List Location :=
  [("USCHI", "Chicago"), ("SESTO", "Stockholm"), ("AUMEL", "Melbourne"), ("CNHKG", "Hongkong"),
    ("USNYC", "New York"), ("JNTKO", "Tokyo"), ("DEHAM", "Hamburg"), ("NLRTM", "Rotterdam"),
    ("FIHEL", "Helsinki")].map fun (code, name) => ⟨⟨code⟩, name⟩

/-- Midnight UTC of the day that is `day - 1` days after 2009-03-01. -/
def march2009 (day : Fin 64) : Instant where
  nanos := (Date.toDays ⟨2009, 3, 1⟩ + day - 1) * 86400 * 1000000000
  first_le := by
    have := day.isLt
    simp only [show Date.toDays ⟨2009, 3, 1⟩ = 14304 by decide, Instant.firstNanos]
    omega
  le_last := by
    have := day.isLt
    simp only [show Date.toDays ⟨2009, 3, 1⟩ = 14304 by decide, Instant.lastNanos]
    omega

def sampleMovement (departure arrival : String) (departs arrives : Fin 64) : CarrierMovement :=
  ⟨⟨departure⟩, ⟨arrival⟩, march2009 departs, march2009 arrives⟩

/-- Four voyages with a schedule and five that other planners refer to by number only. -/
def sampleVoyages : List Voyage :=
  [("V100", [sampleMovement "CNHKG" "JNTKO" 3 5, sampleMovement "JNTKO" "USNYC" 6 9]),
    ("V200", [sampleMovement "USNYC" "USCHI" 10 12, sampleMovement "USCHI" "SESTO" 13 16]),
    ("V300", [sampleMovement "JNTKO" "NLRTM" 8 16, sampleMovement "NLRTM" "DEHAM" 17 18,
      sampleMovement "DEHAM" "AUMEL" 19 32, sampleMovement "AUMEL" "JNTKO" 33 38]),
    ("V400", [sampleMovement "DEHAM" "SESTO" 14 15, sampleMovement "SESTO" "FIHEL" 16 17,
      sampleMovement "FIHEL" "DEHAM" 18 20]),
    ("0100S", []), ("0200T", []), ("0300A", []), ("0301S", []), ("0400S", [])].map
    fun (number, movements) => ⟨⟨number⟩, ⟨movements⟩⟩

def Directory.sample : Directory := .ofLists sampleLocations sampleVoyages

end CargoTracking
