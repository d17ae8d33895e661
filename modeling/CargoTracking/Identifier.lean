import Std.Data.TreeMap

/-!
# Identifiers

Codes of locations, numbers of voyages and ids of cargos are arbitrary texts.  They are told apart
and ordered by their characters, which is the order of their UTF-8 bytes.
-/

namespace CargoTracking

/-- A United Nations code for trade and transport locations, such as `SESTO` for Stockholm. -/
structure UnLocode where
  text : String
  deriving DecidableEq, Hashable

/-- The number of a voyage, such as `V100`. -/
structure VoyageNumber where
  text : String
  deriving DecidableEq, Hashable

/-- The id under which a cargo is booked and followed. -/
structure TrackingId where
  text : String
  deriving DecidableEq, Hashable

def UnLocode.isEmpty (code : UnLocode) : Bool := code.text = ""
def VoyageNumber.isEmpty (number : VoyageNumber) : Bool := number.text = ""
def TrackingId.isEmpty (id : TrackingId) : Bool := id.text = ""

/-- A digit of base 16, a letter in upper case. -/
def upperHexDigit (n : Nat) : Char :=
  if n < 10 then Char.ofNat ('0'.toNat + n) else Char.ofNat ('A'.toNat + (n - 10))

/-- The id of eight digits in base 16 that stands for a number below `2 ^ 32`. -/
def TrackingId.ofNumber (n : Nat) : TrackingId :=
  ⟨String.ofList ((List.range 8).reverse.map fun i => upperHexDigit (n >>> (4 * i) % 16))⟩

instance : Ord UnLocode := ⟨fun a b => compare a.text b.text⟩
instance : Ord VoyageNumber := ⟨fun a b => compare a.text b.text⟩
instance : Ord TrackingId := ⟨fun a b => compare a.text b.text⟩

instance : Std.TransOrd UnLocode where
  eq_swap := Std.OrientedOrd.eq_swap (α := String)
  isLE_trans := Std.TransOrd.isLE_trans (α := String)

instance : Std.TransOrd VoyageNumber where
  eq_swap := Std.OrientedOrd.eq_swap (α := String)
  isLE_trans := Std.TransOrd.isLE_trans (α := String)

instance : Std.TransOrd TrackingId where
  eq_swap := Std.OrientedOrd.eq_swap (α := String)
  isLE_trans := Std.TransOrd.isLE_trans (α := String)

instance : Std.LawfulEqOrd UnLocode where
  compare_self := Std.ReflOrd.compare_self (α := String)
  eq_of_compare {a b} h := by cases a; cases b; cases Std.LawfulEqOrd.eq_of_compare (α := String) h; rfl

instance : Std.LawfulEqOrd VoyageNumber where
  compare_self := Std.ReflOrd.compare_self (α := String)
  eq_of_compare {a b} h := by cases a; cases b; cases Std.LawfulEqOrd.eq_of_compare (α := String) h; rfl

instance : Std.LawfulEqOrd TrackingId where
  compare_self := Std.ReflOrd.compare_self (α := String)
  eq_of_compare {a b} h := by cases a; cases b; cases Std.LawfulEqOrd.eq_of_compare (α := String) h; rfl

end CargoTracking
