import CargoTracking.Identifier
import CargoTracking.Text.Blank

/-!
# References to cargos

On the command line a cargo is referred to by its id or by the beginning of it, in any letter case,
as long as that is no other cargo's as well.
-/

namespace CargoTracking

inductive ReferenceFault
  | empty
  | unmatched (reference : String)
  | ambiguous (reference : String) (candidates : List TrackingId)
  deriving DecidableEq

def ReferenceFault.message : ReferenceFault → String
  | empty => "tracking id is empty"
  | unmatched reference => "no cargo matching '" ++ reference ++ "'"
  | ambiguous reference candidates =>
    "'" ++ reference ++ "' is ambiguous: matches " ++ toString candidates.length ++ " cargos: " ++
      String.intercalate ", " (candidates.map (·.text))

/-- A code or reference as it is compared: in upper case and without blanks around it. -/
def normalized (text : String) : String := (Text.trim text).toUpper

/-- The id begins with the reference, whatever the letter case of the id. -/
def TrackingId.begins (reference : String) (id : TrackingId) : Bool :=
  reference.toList.isPrefixOf id.text.toUpper.toList

/-- The one id among `ids` that is referred to.  An id that is the reference itself takes precedence
over the ids that only begin with it. -/
def resolve (ids : List TrackingId) (text : String) : Except ReferenceFault TrackingId :=
  let reference := normalized text
  if reference = "" then .error .empty
  else if ids.contains ⟨reference⟩ then .ok ⟨reference⟩
  else match ids.filter (·.begins reference) with
    | [] => .error (.unmatched reference)
    | [id] => .ok id
    | candidates => .error (.ambiguous reference candidates)

end CargoTracking
