import CargoTracking.Calendar
import CargoTracking.Instant.Basic
import CargoTracking.Text.Decimal

/-!
# The written form of an instant

An instant is written in UTC as `YYYY-MM-DDTHH:MM:SS.fZ`.  The fraction has as many digits as it
needs, up to nine, and is left out when it is zero; a year before 0 is written with a minus sign and
six digits.
-/

namespace CargoTracking

open Text

def Date.write (d : Date) : List Char :=
  let year := if d.year < 0 then '-' :: writeDigits 6 d.year.natAbs else writeDigits 4 d.year.natAbs
  year ++ '-' :: writeDigits 2 d.month ++ '-' :: writeDigits 2 d.day

namespace Instant

/-- The hour, minute and second of a second of the day. -/
def writeClock (second : Nat) : List Char :=
  writeDigits 2 (second / 3600) ++ ':' :: writeDigits 2 (second / 60 % 60) ++
    ':' :: writeDigits 2 (second % 60)

/-- The nine digits of the nanoseconds without the zeros at their end. -/
def writeFraction (nanos : Nat) : List Char :=
  if nanos = 0 then []
  else '.' :: ((writeDigits 9 nanos).reverse.dropWhile (· == '0')).reverse

def write (t : Instant) : List Char :=
  let second := t.nanos / 1000000000
  (Date.ofDays (second / 86400)).write ++ 'T' :: writeClock (second % 86400).toNat ++
    writeFraction (t.nanos % 1000000000).toNat ++ ['Z']

/-- The written form as a text. -/
def text (t : Instant) : String := String.ofList t.write

end Instant

end CargoTracking
