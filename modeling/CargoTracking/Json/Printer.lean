import CargoTracking.Json.Basic

/-!
# Written JSON

Values are written over several lines, each member and item on a line of its own, two spaces deeper
than what it belongs to.
-/

namespace CargoTracking.Json

def hexDigit (n : Nat) : Char :=
  if n < 10 then Char.ofNat ('0'.toNat + n) else Char.ofNat ('a'.toNat + (n - 10))

/-- Quotes, backslashes and control characters are escaped, the common ones by a letter. -/
def escaped (c : Char) : List Char :=
  match c with
  | '"' => ['\\', '"']
  | '\\' => ['\\', '\\']
  | '\x08' => ['\\', 'b']
  | '\x0c' => ['\\', 'f']
  | '\n' => ['\\', 'n']
  | '\r' => ['\\', 'r']
  | '\t' => ['\\', 't']
  | c =>
    if c.toNat < 0x20 then ['\\', 'u', '0', '0', hexDigit (c.toNat / 16), hexDigit (c.toNat % 16)]
    else [c]

def quoted (s : String) : String :=
  "\"" ++ String.ofList (s.toList.flatMap escaped) ++ "\""

/-- The start of a line at the given depth. -/
def lineStart (depth : Nat) : String := "\n" ++ String.ofList (List.replicate (2 * depth) ' ')

mutual

/-- The value as it is written inside a line at the given depth. -/
def pretty (depth : Nat) : Json → String
  | null => "null"
  | bool b => if b then "true" else "false"
  | number literal => literal
  | string s => quoted s
  | array [] => "[]"
  -- The first item follows the bracket, every other one a comma.
  | array (item :: items) =>
    "[" ++ lineStart (depth + 1) ++ pretty (depth + 1) item ++ prettyItems (depth + 1) items ++
      lineStart depth ++ "]"
  | object [] => "\x7b\x7d"
  | object ((name, value) :: members) =>
    "\x7b" ++ lineStart (depth + 1) ++ quoted name ++ ": " ++ pretty (depth + 1) value ++
      prettyMembers (depth + 1) members ++ lineStart depth ++ "\x7d"

def prettyItems (depth : Nat) : List Json → String
  | [] => ""
  | item :: items => "," ++ lineStart depth ++ pretty depth item ++ prettyItems depth items

def prettyMembers (depth : Nat) : List (String × Json) → String
  | [] => ""
  | (name, value) :: members =>
    "," ++ lineStart depth ++ quoted name ++ ": " ++ pretty depth value ++
      prettyMembers depth members

end

end CargoTracking.Json
