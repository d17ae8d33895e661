import CargoTracking.Toml.Scalar

/-!
# Reading TOML documents

A document is read line by line: a line names a table, or gives a key of the table named last an
item, or is empty.  Arrays and tables between braces may be nested, and keys be dotted, to a limited
depth.
-/

namespace CargoTracking.Toml

open Text

def skipSpaces (cs : List Char) : List Char := cs.dropWhile isSpace

/-- Skips blanks, line breaks and comments, as they may stand between the items of an array. -/
def skipGap (inComment : Bool) : List Char → Option (List Char)
  | [] => some []
  | '\n' :: cs => skipGap false cs
  | '\r' :: '\n' :: cs => skipGap false cs
  | c :: cs =>
    if inComment then if isPrintable c then skipGap true cs else none
    else if isSpace c then skipGap false cs
    else if c == '#' then skipGap true cs
    else some (c :: cs)

/-- Ends a line: after blanks and a comment comes a line break, or the end of the text. -/
def endLine (cs : List Char) : Option (List Char) :=
  let cs := skipSpaces cs
  let cs := if cs.head? == some '#' then cs.dropWhile isPrintable else cs
  match cs with
  | [] => some []
  | '\n' :: cs => some cs
  | '\r' :: '\n' :: cs => some cs
  | _ => none

/-! ## Keys -/

/-- One part of a key, quoted or bare. -/
def readPart : List Char → Option (String × List Char)
  | '"' :: cs => (readBasic cs).map fun (part, rest) => (String.ofList part, rest)
  | '\'' :: cs => (readLiteral cs).map fun (part, rest) => (String.ofList part, rest)
  | cs =>
    let part := cs.takeWhile isBare
    if part.isEmpty then none else some (String.ofList part, cs.drop part.length)

/-- Keys have fewer parts than this, and items are nested less deep. -/
def depthLimit : Nat := 80

/-- The parts of a key of at most `limit` parts, with blanks around the dots and at both ends. -/
def readParts : (limit : Nat) → List Char → Option (List String × List Char)
  | 0, _ => none
  | limit + 1, cs => do
    let (part, cs) ← readPart (skipSpaces cs)
    match skipSpaces cs with
    | '.' :: cs => do
      let (parts, cs) ← readParts limit cs
      return (part :: parts, cs)
    | cs => return ([part], cs)

/-- A key as the path to its table, and its last part. -/
def readKey (cs : List Char) : Option (List String × String × List Char) := do
  let (parts, cs) ← readParts (depthLimit - 1) cs
  return (parts.dropLast, ← parts.getLast?, cs)

/-! ## Items

The readers go at most `fuel` steps, each of which takes a character at least. -/

mutual

def readItem (depth : Nat) : (fuel : Nat) → List Char → Option (Item × List Char)
  | 0, _ => none
  | fuel + 1, cs =>
    match cs with
    | '[' :: cs =>
      if depth + 1 < depthLimit then do
        let (items, cs) ← readItems (depth + 1) fuel (← skipGap false cs)
        return (.array items, cs)
      else none
    | '\x7b' :: cs =>
      if depth + 1 < depthLimit then
        match skipSpaces cs with
        | '\x7d' :: cs => some (.table .braces [], cs)
        | cs => do
          let (entries, cs) ← readPairs (depth + 1) fuel [] cs
          return (.table .braces entries, cs)
      else none
    | '"' :: _ | '\'' :: _ =>
      (readString cs).map fun (contents, rest) => (.string (String.ofList contents), rest)
    | cs => readWord cs

/-- The items of an array up to its end.  A comma may stand after the last one. -/
def readItems (depth : Nat) : (fuel : Nat) → List Char → Option (List Item × List Char)
  | 0, _ => none
  | fuel + 1, cs =>
    match cs with
    | ']' :: cs => some ([], cs)
    | cs => do
      let (item, cs) ← readItem depth fuel cs
      match ← skipGap false cs with
      | ',' :: cs => do
        let (items, cs) ← readItems depth fuel (← skipGap false cs)
        return (item :: items, cs)
      | ']' :: cs => return ([item], cs)
      | _ => none

/-- The pairs of a table between braces up to its end, added to those before them. -/
def readPairs (depth : Nat) :
    (fuel : Nat) → Entries → List Char → Option (Entries × List Char)
  | 0, _, _ => none
  | fuel + 1, entries, cs => do
    let (path, key, cs) ← readKey cs
    let (item, cs) ← readItem depth fuel (skipSpaces (← skip '=' cs))
    let entries ← entries.define? true path key item
    match skipSpaces cs with
    | ',' :: cs => readPairs depth fuel entries cs
    | '\x7d' :: cs => return (entries, cs)
    | _ => none

end

/-! ## Lines -/

/-- What has been read of a document: its items, and the path to the table named last. -/
structure Draft where
  root : Entries := []
  current : List String := []

/-- One line that is not empty. -/
def Draft.readLine (draft : Draft) (cs : List Char) : Option (Draft × List Char) :=
  match cs with
  | '[' :: '[' :: cs => do
    let (path, key, cs) ← readKey cs
    let cs ← endLine (← skip ']' (← skip ']' cs))
    return (⟨← draft.root.beginElement? path key, path ++ [key]⟩, cs)
  | '[' :: cs => do
    let (path, key, cs) ← readKey cs
    let cs ← endLine (← skip ']' cs)
    return (⟨← draft.root.beginTable? path key, path ++ [key]⟩, cs)
  | cs => do
    let (path, key, cs) ← readKey cs
    let (item, cs) ← readItem 0 (cs.length + 1) (skipSpaces (← skip '=' cs))
    let cs ← endLine cs
    -- The table named last is the newest one on the path to it.
    let root ← draft.root.modify? (·.define? true path key item) draft.current
    return ({ draft with root }, cs)

def Draft.readLines (draft : Draft) : (fuel : Nat) → List Char → Option Draft
  | 0, _ => none
  | fuel + 1, cs =>
    match skipSpaces cs with
    | [] => some draft
    | '#' :: cs => do draft.readLines fuel (← endLine ('#' :: cs))
    | '\n' :: cs => draft.readLines fuel cs
    | '\r' :: '\n' :: cs => draft.readLines fuel cs
    | cs => do
      let (draft, cs) ← draft.readLine cs
      draft.readLines fuel cs

/-- The items of a document, if the text is one.  A byte order mark may stand before it. -/
def read (text : String) : Option Entries :=
  let cs := match text.toList with
    | '\uFEFF' :: cs => cs
    | cs => cs
  (Draft.readLines {} (cs.length + 1) cs).map (·.root)

end CargoTracking.Toml
