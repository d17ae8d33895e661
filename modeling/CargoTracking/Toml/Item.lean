/-!
# TOML documents

A document is a table of items by key.  A table remembers how it came about, since that decides
whether more may be said of it later: a table may be begun on the way to another one and then be
defined by its own header, or be extended key by key, but it is defined only once.
-/

namespace CargoTracking.Toml

/-- How a table came about. -/
inductive Origin
  /-- By its own header. -/
  | header
  /-- On the way to the header of a table inside it. -/
  | path
  /-- By a dotted key. -/
  | dotted
  /-- Between braces, all at once. -/
  | braces
  deriving DecidableEq

inductive Item
  | string (s : String)
  | integer (n : Int)
  | float (literal : String)
  | boolean (b : Bool)
  | moment (literal : String)
  | array (items : List Item)
  | table (origin : Origin) (entries : List (String × Item))
  /-- Tables under one key, each with a header of its own, newest first. -/
  | tables (items : List (List (String × Item)))

/-- The items of a table by key, in the order of their first mention. -/
abbrev Entries := List (String × Item)

namespace Entries

/-- Replaces the item under a key that is there. -/
def replace (key : String) (item : Item) : Entries → Entries
  | [] => []
  | (k, i) :: entries =>
    if k = key then (k, item) :: entries else (k, i) :: replace key item entries

/-- Adds an item under a new key. -/
def add? (key : String) (item : Item) (entries : Entries) : Option Entries :=
  match entries.lookup key with
  | some _ => none
  | none => some (entries ++ [(key, item)])

/-- Adds an item under a dotted key, where `path` is the key without its last part.  The last table
on the path has to be one that dotted keys have made; `extensible` says so of this one. -/
def define? (extensible : Bool) (path : List String) (key : String) (item : Item)
    (entries : Entries) : Option Entries :=
  match path with
  | [] => if extensible then entries.add? key item else none
  | part :: path =>
    match entries.lookup part with
    | none => do
      return entries ++ [(part, .table .dotted (← define? true path key item []))]
    | some (.table .dotted inner) => do
      return entries.replace part (.table .dotted (← define? true path key item inner))
    -- A table that headers have made lets dotted keys through, but not end in it.
    | some (.table .path inner) => do
      return entries.replace part (.table .path (← define? false path key item inner))
    | some (.tables (newest :: older)) => do
      return entries.replace part (.tables ((← define? false path key item newest) :: older))
    | some _ => none

/-- Changes the table at the end of the path, of several under one key the newest.  Tables that are
not there yet are made on the way. -/
def modify? (change : Entries → Option Entries) (path : List String) (entries : Entries) :
    Option Entries :=
  match path with
  | [] => change entries
  | part :: path =>
    match entries.lookup part with
    | none => do return entries ++ [(part, .table .path (← modify? change path []))]
    | some (.table .braces _) => none
    | some (.table origin inner) => do
      return entries.replace part (.table origin (← modify? change path inner))
    | some (.tables (newest :: older)) => do
      return entries.replace part (.tables ((← modify? change path newest) :: older))
    | some _ => none

/-- Begins a table by its header.  It must be new, or made on the way to another one. -/
def beginTable? (path : List String) (key : String) (entries : Entries) : Option Entries :=
  let beginIn (parent : Entries) : Option Entries :=
    match parent.lookup key with
    | none => some (parent ++ [(key, .table .header [])])
    | some (.table .path inner) => some (parent.replace key (.table .header inner))
    | some _ => none
  entries.modify? beginIn path

/-- Begins one more table under a key that holds only such tables. -/
def beginElement? (path : List String) (key : String) (entries : Entries) : Option Entries :=
  let beginIn (parent : Entries) : Option Entries :=
    match parent.lookup key with
    | none => some (parent ++ [(key, .tables [[]])])
    | some (.tables items) => some (parent.replace key (.tables ([] :: items)))
    | some _ => none
  entries.modify? beginIn path

end Entries

end CargoTracking.Toml
