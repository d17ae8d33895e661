import CargoTracking.Instant.Printer
import CargoTracking.Instant.Reader
import CargoTracking.Plan

/-!
# Legs on the command line

A leg is given as `<voyage>,<from>,<to>,<load-time>,<unload-time>`, with any blanks around the
fields.
-/

namespace CargoTracking

/-- Why a text is no leg.  It carries the part of the text that the message shows. -/
inductive LegFault
  | fieldCount (text : String)
  | emptyField (text : String)
  | loadTime (field : String)
  | unloadTime (field : String)
  | unloadsFirst (text : String)
  deriving DecidableEq

def LegFault.message : LegFault → String
  | fieldCount text =>
    "expected <voyage>,<from>,<to>,<load-time>,<unload-time>, got '" ++ text ++ "'"
  | emptyField text => "empty voyage or location in '" ++ text ++ "'"
  | loadTime field => "invalid load time '" ++ field ++ "'"
  | unloadTime field => "invalid unload time '" ++ field ++ "'"
  | unloadsFirst text => "leg unloads before it loads: '" ++ text ++ "'"

namespace Leg

/-- The fields between commas, without the blanks around them. -/
def textFields (text : String) : List String :=
  (text.toList.splitOn ',').map fun field => String.ofList (Text.trimmed field)

/-- The leg that a text describes.  It may not unload before it loads. -/
def ofText (text : String) : Except LegFault Leg :=
  match textFields text with
  | [voyage, load, unload, loads, unloads] =>
    if voyage = "" ∨ load = "" ∨ unload = "" then .error (.emptyField text)
    else match Instant.ofString? loads with
      | none => .error (.loadTime loads)
      | some loadTime =>
        match Instant.ofString? unloads with
        | none => .error (.unloadTime unloads)
        | some unloadTime =>
          if unloadTime < loadTime then .error (.unloadsFirst text)
          else .ok ⟨⟨voyage⟩, ⟨load⟩, ⟨unload⟩, loadTime, unloadTime⟩
  | _ => .error (.fieldCount text)

/-- The text that describes a leg. -/
def toText (leg : Leg) : String :=
  String.intercalate "," [leg.voyageNumber.text, leg.loadLocation.text, leg.unloadLocation.text,
    leg.loadTime.text, leg.unloadTime.text]

end Leg

end CargoTracking
