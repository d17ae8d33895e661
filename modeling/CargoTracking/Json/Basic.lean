/-!
# JSON values

A value of the data format, with the members of an object in the order in which they are written.
-/

namespace CargoTracking

inductive Json
  | null
  | bool (b : Bool)
  | number (literal : String)
  | string (s : String)
  | array (items : List Json)
  | object (members : List (String × Json))
  deriving Inhabited

namespace Json

/-- The value of an object's member; `null` if there is none of that name. -/
def member (members : List (String × Json)) (name : String) : Json :=
  (members.lookup name).getD null

/-- The values of the named fields of a record, which is written as an object, in any order and with
any further members, or as an array of exactly the fields.  A missing member reads as `null`. -/
def fields? (names : List String) : Json → Option (List Json)
  | object members => some (names.map (member members))
  | array items => if items.length = names.length then some items else none
  | _ => none

/-- The name of an alternative, written as a string or as an object whose one member is `null`. -/
def alternative? : Json → Option String
  | string name => some name
  | object [(name, null)] => some name
  | _ => none

end Json

end CargoTracking
