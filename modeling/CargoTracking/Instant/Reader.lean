import CargoTracking.Calendar
import CargoTracking.Instant.Basic
import CargoTracking.Text.Decimal

/-!
# Reading an instant

The accepted forms are those of an internet timestamp with the freedoms of ISO 8601: a date and a
time of day, each with its separators or without them, and an offset from UTC, which is required.
Annotations in brackets may follow; they have to be well formed and say nothing about the instant.

Every reader takes the text still to be read and answers with what it read and the text after it.
-/

namespace CargoTracking.Instant

open Text

/-- A number of `width` digits that is at most `bound`. -/
def readField (width bound : Nat) (cs : List Char) : Option (Nat × List Char) := do
  let (n, cs) ← readDigits width cs
  if n ≤ bound then some (n, cs) else none

/-- A year of four digits, or of six after a sign.  The year 0 has no minus sign. -/
def readYear : List Char → Option (Int × List Char)
  | '+' :: cs => do
    let (n, cs) ← readField 6 9999 cs
    some (n, cs)
  | '-' :: cs => do
    let (n, cs) ← readField 6 9999 cs
    if n = 0 then none else some (-n, cs)
  | cs => do
    let (n, cs) ← readField 4 9999 cs
    some (n, cs)

/-- The dash between the parts of a date that has dashes. -/
def skipDash (dashed : Bool) (cs : List Char) : Option (List Char) :=
  match dashed, cs with
  | false, cs => some cs
  | true, '-' :: cs => some cs
  | true, _ => none

/-- A date, with dashes in both places or in none. -/
def readDate (cs : List Char) : Option (Date × List Char) := do
  let (year, cs) ← readYear cs
  let dashed := cs.head? == some '-'
  let (month, cs) ← readDigits 2 (← skipDash dashed cs)
  let (day, cs) ← readDigits 2 (← skipDash dashed cs)
  let date : Date := ⟨year, month, day⟩
  if date.Exists then some (date, cs) else none

/-- Moves to the next part of a time or an offset, if there is one: after a colon where the parts
have colons, else at two digits. -/
def nextPart? (coloned : Bool) (cs : List Char) : Option (List Char) :=
  match coloned, cs with
  | true, ':' :: cs => some cs
  | false, a :: b :: cs => if isDigit a && isDigit b then some (a :: b :: cs) else none
  | _, _ => none

/-- A fraction of a second in nanoseconds: one to nine digits after a point or a comma.  Without
either there is none, and it reads as zero. -/
def readFraction (cs : List Char) : Option (Nat × List Char) :=
  match cs with
  | [] => some (0, [])
  | mark :: rest =>
    if mark == '.' || mark == ',' then do
      let digits := (rest.take 9).takeWhile isDigit
      if digits.isEmpty then none
      else some ((← digitsValue? digits) * powerOfTen (9 - digits.length), rest.drop digits.length)
    else some (0, cs)

/-- The time of day in nanoseconds.  Minutes, seconds and the fraction may be left out from the
end; second 60 is read as second 59. -/
def readTime (cs : List Char) : Option (Nat × List Char) := do
  let (hour, cs) ← readField 2 23 cs
  let coloned := cs.head? == some ':'
  match nextPart? coloned cs with
  | none => some (hour * 3600 * 1000000000, cs)
  | some cs =>
    let (minute, cs) ← readField 2 59 cs
    match nextPart? coloned cs with
    | none => some ((hour * 3600 + minute * 60) * 1000000000, cs)
    | some cs =>
      -- A leap second is read as the second before it.
      let (second, cs) ← readField 2 60 cs
      let (nanos, cs) ← readFraction cs
      some ((hour * 3600 + minute * 60 + min second 59) * 1000000000 + nanos, cs)

/-- The greatest offset in seconds: 25 hours, 59 minutes and 59 seconds. -/
def maxOffset : Nat := 93599

/-- The size of an offset in seconds.  Minutes, seconds and a fraction may be left out from the
end; the fraction is rounded to a second, a half upwards. -/
def readOffsetSize (cs : List Char) : Option (Nat × List Char) := do
  let (hours, cs) ← readField 2 25 cs
  let coloned := cs.head? == some ':'
  match nextPart? coloned cs with
  | none => some (hours * 3600, cs)
  | some cs =>
    let (minutes, cs) ← readField 2 59 cs
    match nextPart? coloned cs with
    | none => some (hours * 3600 + minutes * 60, cs)
    | some cs =>
      let (seconds, cs) ← readField 2 59 cs
      let (nanos, cs) ← readFraction cs
      let size := hours * 3600 + minutes * 60 + seconds + if nanos < 500000000 then 0 else 1
      if size ≤ maxOffset then some (size, cs) else none

/-- An offset from UTC in seconds, east of Greenwich positive. -/
def readOffset : List Char → Option (Int × List Char)
  | 'Z' :: cs | 'z' :: cs => some (0, cs)
  | '+' :: cs => (readOffsetSize cs).map fun (size, cs) => (size, cs)
  | '-' :: cs => (readOffsetSize cs).map fun (size, cs) => (-size, cs)
  | _ => none

/-! ## Annotations -/

/-- The contents of the brackets, when the text consists of closed brackets only.  A bracket that
is open holds the characters read so far, last first. -/
def bracketed : Option (List Char) → List Char → Option (List (List Char))
  | none, [] => some []
  | none, '[' :: cs => bracketed (some []) cs
  | none, _ :: _ => none
  | some _, [] => none
  | some body, ']' :: cs => (bracketed none cs).map (body.reverse :: ·)
  | some body, c :: cs => bracketed (some (c :: body)) cs

def isLower (c : Char) : Bool := 'a' ≤ c && c ≤ 'z'
def isUpper (c : Char) : Bool := 'A' ≤ c && c ≤ 'Z'

/-- The text is of characters in `rest`, its first one in `first`. -/
def isWord (first rest : Char → Bool) : List Char → Bool
  | [] => false
  | c :: cs => first c && cs.all rest

/-- A time zone by its name, such as `Europe/Stockholm`. -/
def isZoneName (body : List Char) : Bool :=
  let first c := c == '_' || c == '.' || isUpper c || isLower c
  (body.splitOn '/').all (isWord first fun c => first c || c == '+' || c == '-' || isDigit c)

/-- A time zone by its offset in hours and, where given, minutes. -/
def isZoneOffset (body : List Char) : Bool :=
  match body with
  | sign :: cs =>
    (sign == '+' || sign == '-') &&
      match readField 2 25 cs with
      | none => false
      | some (_, cs) =>
        match nextPart? (cs.head? == some ':') cs with
        | none => cs.isEmpty
        | some cs => (readField 2 59 cs).any (·.2.isEmpty)
  | [] => false

/-- A time zone, which may be marked as critical. -/
def isZone (body : List Char) : Bool :=
  let body := if body.head? == some '!' then body.tail else body
  isZoneName body || isZoneOffset body

/-- A key and its value, such as `u-ca=gregorian`. -/
def isPair (body : List Char) : Bool :=
  let key := body.takeWhile (· != '=')
  let first c := c == '_' || isLower c
  let alphanumeric c := isDigit c || isUpper c || isLower c
  isWord first (fun c => first c || c == '-' || isDigit c) key &&
    match body.drop key.length with
    | [] => false
    | _ :: value => (value.splitOn '-').all (isWord alphanumeric alphanumeric)

/-- Well-formed annotations: a time zone in the first place only, and pairs. -/
def areAnnotations (cs : List Char) : Bool :=
  match bracketed none cs with
  | none => false
  | some [] => true
  | some (body :: bodies) => (isZone body || isPair body) && bodies.all isPair

/-! ## The whole text -/

/-- The instant that the text names. -/
def read (cs : List Char) : Option Instant := do
  let (date, cs) ← readDate cs
  match cs with
  | [] => none
  | mark :: cs =>
    if mark == 'T' || mark == 't' || mark == ' ' then
      let (time, cs) ← readTime cs
      let (offset, cs) ← readOffset cs
      if areAnnotations cs then
        ofNanos? ((date.toDays * 86400 - offset) * 1000000000 + time)
      else none
    else none

def ofString? (s : String) : Option Instant := read s.toList

end CargoTracking.Instant
