import CargoTracking.Calendar
import CargoTracking.Text.Decimal
import CargoTracking.Toml.Item

/-!
# Strings, numbers and times of TOML

A reader of strings takes the text after the opening quotes, and answers with the contents and the
text after the closing ones.  Numbers, booleans and times are whole words.
-/

namespace CargoTracking.Toml

open Text

/-- A character that may stand in a comment, and in a string as it is. -/
def isPrintable (c : Char) : Bool :=
  c == '\t' || (0x20 ≤ c.toNat && c.toNat != 0x7F)

/-- A blank inside a line. -/
def isSpace (c : Char) : Bool := c == ' ' || c == '\t'

/-! ## Strings -/

def hexValue? (c : Char) : Option Nat :=
  if isDigit c then digitValue? c
  else if 'a' ≤ c ∧ c ≤ 'f' then some (c.toNat - 'a'.toNat + 10)
  else if 'A' ≤ c ∧ c ≤ 'F' then some (c.toNat - 'A'.toNat + 10)
  else none

/-- The character with the code that the digits write in base 16. -/
def charOfHex? (digits : List Char) : Option Char := do
  let code ← digits.foldlM (fun acc c => (hexValue? c).map (16 * acc + ·)) 0
  if code.isValidChar then some (Char.ofNat code) else none

def charOfEscape? : Char → Option Char
  | 'b' => some '\x08'
  | 't' => some '\t'
  | 'n' => some '\n'
  | 'f' => some '\x0c'
  | 'r' => some '\r'
  | '"' => some '"'
  | '\\' => some '\\'
  | _ => none

abbrev Reading := Option (List Char × List Char)

/-- Puts a character before the contents. -/
def Reading.cons (c : Char) (reading : Reading) : Reading :=
  reading.map fun (contents, rest) => (c :: contents, rest)

def readBasic : List Char → Reading
  | [] => none
  | '"' :: cs => some ([], cs)
  | '\\' :: 'u' :: a :: b :: c :: d :: cs => do
    (readBasic cs).cons (← charOfHex? [a, b, c, d])
  | '\\' :: 'U' :: a :: b :: c :: d :: e :: f :: g :: h :: cs => do
    (readBasic cs).cons (← charOfHex? [a, b, c, d, e, f, g, h])
  | '\\' :: c :: cs => do (readBasic cs).cons (← charOfEscape? c)
  | c :: cs => if isPrintable c then (readBasic cs).cons c else none

def readLiteral : List Char → Reading
  | [] => none
  | '\'' :: cs => some ([], cs)
  | c :: cs => if isPrintable c then (readLiteral cs).cons c else none

/-- Only blanks are left on the line. -/
def endsLine (cs : List Char) : Bool :=
  match cs.dropWhile isSpace with
  | '\n' :: _ => true
  | '\r' :: '\n' :: _ => true
  | _ => false

/-- A string over several lines.  Up to two quotes may stand before the closing three.  A backslash
at the end of a line skips to the next character that is not blank: then `skipping`. -/
def readBasicLines (skipping : Bool) : List Char → Reading
  | [] => none
  | '\n' :: cs => if skipping then readBasicLines true cs else (readBasicLines false cs).cons '\n'
  | '\r' :: '\n' :: cs =>
    if skipping then readBasicLines true cs else (readBasicLines false cs).cons '\n'
  | '"' :: '"' :: '"' :: '"' :: '"' :: cs => some (['"', '"'], cs)
  | '"' :: '"' :: '"' :: '"' :: cs => some (['"'], cs)
  | '"' :: '"' :: '"' :: cs => some ([], cs)
  | '\\' :: 'u' :: a :: b :: c :: d :: cs => do
    (readBasicLines false cs).cons (← charOfHex? [a, b, c, d])
  | '\\' :: 'U' :: a :: b :: c :: d :: e :: f :: g :: h :: cs => do
    (readBasicLines false cs).cons (← charOfHex? [a, b, c, d, e, f, g, h])
  | '\\' :: c :: cs =>
    if endsLine (c :: cs) then readBasicLines true (c :: cs)
    else do (readBasicLines false cs).cons (← charOfEscape? c)
  | c :: cs =>
    if skipping && isSpace c then readBasicLines true cs
    else if isPrintable c then (readBasicLines false cs).cons c
    else none

def readLiteralLines : List Char → Reading
  | [] => none
  | '\r' :: '\n' :: cs => (readLiteralLines cs).cons '\n'
  | '\'' :: '\'' :: '\'' :: '\'' :: '\'' :: cs => some (['\'', '\''], cs)
  | '\'' :: '\'' :: '\'' :: '\'' :: cs => some (['\''], cs)
  | '\'' :: '\'' :: '\'' :: cs => some ([], cs)
  | c :: cs => if c == '\n' || isPrintable c then (readLiteralLines cs).cons c else none

/-- The text without a line break at its beginning. -/
def dropLineBreak : List Char → List Char
  | '\n' :: cs => cs
  | '\r' :: '\n' :: cs => cs
  | cs => cs

/-- A string with its quotes, over several lines or not; none if the text begins otherwise. -/
def readString : List Char → Reading
  | '"' :: '"' :: '"' :: cs => readBasicLines false (dropLineBreak cs)
  | '"' :: cs => readBasic cs
  | '\'' :: '\'' :: '\'' :: cs => readLiteralLines (dropLineBreak cs)
  | '\'' :: cs => readLiteral cs
  | _ => none

/-! ## Numbers -/

/-- Digits in groups with an underscore between them. -/
def areGrouped (isDigit : Char → Bool) (cs : List Char) : Bool :=
  (cs.splitOn '_').all fun group => !group.isEmpty && group.all isDigit

def ungrouped (cs : List Char) : List Char := cs.filter (· != '_')

/-- The text after a sign, and whether the sign is a minus. -/
def unsigned : List Char → Bool × List Char
  | '-' :: cs => (true, cs)
  | '+' :: cs => (false, cs)
  | cs => (false, cs)

/-- A whole number without a zero in front. -/
def isWhole (cs : List Char) : Bool :=
  areGrouped isDigit cs && (cs.head? != some '0' || cs.length == 1)

def maxInteger : Int := 0x7FFFFFFFFFFFFFFF

def minInteger : Int := -0x8000000000000000

def inRange (n : Int) : Option Item :=
  if minInteger ≤ n ∧ n ≤ maxInteger then some (.integer n) else none

/-- An integer in the given base, a power of two, that has no sign. -/
def integerOfBase? (base : Nat) (cs : List Char) : Option Item :=
  let isBaseDigit c := (hexValue? c).any (· < base)
  if areGrouped isBaseDigit cs then do
    let n ← (ungrouped cs).foldlM (fun acc c => (hexValue? c).map (base * acc + ·)) 0
    inRange n
  else none

def integer? (word : List Char) : Option Item :=
  match word with
  | '0' :: 'x' :: cs => integerOfBase? 16 cs
  | '0' :: 'o' :: cs => integerOfBase? 8 cs
  | '0' :: 'b' :: cs => integerOfBase? 2 cs
  | _ =>
    let (negative, cs) := unsigned word
    if isWhole cs then do
      let n ← digitsValue? (ungrouped cs)
      inRange (if negative then -n else n)
    else none

/-- The least number above the finite floats, halfway from the last of them to the next power of
two. -/
def floatBound : Nat := 1 <<< 1024 - 1 <<< 970

/-- The number `digits · 10 ^ exponent` is too large for a float.  Far from the bound the number of
its digits tells. -/
def isTooLarge (digits : List Char) (exponent : Int) : Bool :=
  let digits := digits.dropWhile (· == '0')
  let size := digits.length + exponent
  match digitsValue? digits with
  | none | some 0 => false
  | some n =>
    -- The bound has 309 digits.
    if size > 400 then true
    else if size < 300 then false
    else if 0 ≤ exponent then floatBound ≤ n * powerOfTen exponent.toNat
    else floatBound * powerOfTen exponent.natAbs ≤ n

/-- A float with a fraction or an exponent or both; infinity and not-a-number.  A positive one must
not be too large. -/
def float? (word : List Char) : Option Item :=
  let (negative, cs) := unsigned word
  let float := Item.float (String.ofList word)
  if cs = ['i', 'n', 'f'] ∨ cs = ['n', 'a', 'n'] then some float
  else
    let mantissa := cs.takeWhile fun c => c != 'e' && c != 'E'
    let power := cs.drop mantissa.length
    let whole := mantissa.takeWhile (· != '.')
    let fraction := mantissa.drop whole.length
    let (negativePower, powerDigits) := unsigned power.tail
    let wellFormed := isWhole whole &&
      (fraction.isEmpty || areGrouped isDigit fraction.tail) &&
      (power.isEmpty || areGrouped isDigit powerDigits) &&
      !(fraction.isEmpty && power.isEmpty)
    if !wellFormed then none
    else
      let power : Int := ((digitsValue? (ungrouped powerDigits)).getD 0 : Nat)
      let exponent := (if negativePower then -power else power) - (ungrouped fraction.tail).length
      if !negative && isTooLarge (ungrouped (whole ++ fraction.tail)) exponent then none
      else some float

/-! ## Times -/

/-- A number of two digits that is at most `bound`. -/
def readTwo (bound : Nat) (cs : List Char) : Option (List Char) := do
  let (n, cs) ← readDigits 2 cs
  if n ≤ bound then some cs else none

def skip (c : Char) : List Char → Option (List Char)
  | d :: cs => if d = c then some cs else none
  | [] => none

/-- Takes a date of the calendar off the text. -/
def skipDate (cs : List Char) : Option (List Char) := do
  let (year, cs) ← readDigits 4 cs
  let (month, cs) ← readDigits 2 (← skip '-' cs)
  let (day, cs) ← readDigits 2 (← skip '-' cs)
  if (Date.mk year month day).Exists then some cs else none

/-- Takes a time of day off the text, with seconds and perhaps a fraction. -/
def skipTime (cs : List Char) : Option (List Char) := do
  let cs ← readTwo 23 cs
  let cs ← readTwo 59 (← skip ':' cs)
  let cs ← readTwo 60 (← skip ':' cs)
  match cs with
  | '.' :: cs => if (cs.head?).any isDigit then some (cs.dropWhile isDigit) else none
  | cs => some cs

/-- A whole offset, or none at all. -/
def isOffset : List Char → Bool
  | [] | ['Z'] | ['z'] => true
  | '+' :: cs | '-' :: cs => ((readTwo 23 cs).bind (skip ':')).bind (readTwo 59) == some []
  | _ => false

/-- A date, a time, or both with or without an offset. -/
def isMoment (word : List Char) : Bool :=
  match skipDate word with
  | none => skipTime word == some []
  | some [] => true
  | some (mark :: cs) =>
    (mark == 'T' || mark == 't' || mark == ' ') && (skipTime cs).any isOffset

/-! ## Words -/

def isBare (c : Char) : Bool :=
  isDigit c || ('a' ≤ c && c ≤ 'z') || ('A' ≤ c && c ≤ 'Z') || c == '_' || c == '-'

def isWordChar (c : Char) : Bool := isBare c || c == '+' || c == '.' || c == ':'

/-- The item that a word stands for. -/
def itemOfWord? (word : List Char) : Option Item :=
  if word = "true".toList then some (.boolean true)
  else if word = "false".toList then some (.boolean false)
  else if isMoment word then some (.moment (String.ofList word))
  else (float? word).orElse fun _ => integer? word

/-- The word at the beginning of the text.  A time may follow its date after a single space. -/
def takeWord (cs : List Char) : List Char × List Char :=
  let word := cs.takeWhile isWordChar
  let rest := cs.drop word.length
  match rest with
  | ' ' :: c :: cs =>
    if skipDate word == some [] && isDigit c then
      let time := (c :: cs).takeWhile isWordChar
      (word ++ ' ' :: time, (c :: cs).drop time.length)
    else (word, rest)
  | _ => (word, rest)

def readWord (cs : List Char) : Option (Item × List Char) := do
  let (word, rest) := takeWord cs
  return (← itemOfWord? word, rest)

end CargoTracking.Toml
