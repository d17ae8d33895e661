import CargoTracking.Store.Records

/-!
# Records as text

A record store is written as one line for each row: its kind and its fields, with a tab between
them.  `decodeField_encodeField` says that every field reads back, since a backslash stands before
every character that could be taken for a separator.
-/

namespace CargoTracking

namespace Dump

def escape (c : Char) : List Char :=
  match c with
  | '\\' => ['\\', '\\']
  | '\t' => ['\\', 't']
  | '\n' => ['\\', 'n']
  | c => [c]

/-- A field, which may have no value. -/
def encodeField : Option String → List Char
  | none => ['\\', '0']
  | some s => s.toList.flatMap escape

def unescape : List Char → Option (List Char)
  | [] => some []
  | '\\' :: '\\' :: cs => (unescape cs).map ('\\' :: ·)
  | '\\' :: 't' :: cs => (unescape cs).map ('\t' :: ·)
  | '\\' :: 'n' :: cs => (unescape cs).map ('\n' :: ·)
  | c :: cs => if c = '\\' then none else (unescape cs).map (c :: ·)

def decodeField (cs : List Char) : Option (Option String) :=
  if cs = ['\\', '0'] then some none else (unescape cs).map (some ∘ String.ofList)

theorem unescape_cons {c : Char} (cs : List Char) (h : c ≠ '\\') :
    unescape (c :: cs) = (unescape cs).map (c :: ·) := by
  rw [unescape.eq_5 _ _ (by simp_all) (by simp_all) (by simp_all), if_neg h]

theorem unescape_escape_append (c : Char) (cs : List Char) :
    unescape (escape c ++ cs) = (unescape cs).map (c :: ·) := by
  unfold escape
  split
  · simp [unescape]
  · simp [unescape]
  · simp [unescape]
  · rename_i h _ _
    exact unescape_cons cs h

theorem unescape_flatMap_escape (cs : List Char) : unescape (cs.flatMap escape) = some cs := by
  induction cs with
  | nil => rfl
  | cons c cs ih => rw [List.flatMap_cons, unescape_escape_append, ih]; rfl

theorem decodeField_encodeField (field : Option String) :
    decodeField (encodeField field) = some field := by
  cases field with
  | none => rfl
  | some s =>
    have h : unescape (s.toList.flatMap escape) ≠ none := by simp [unescape_flatMap_escape]
    rw [encodeField, decodeField, if_neg (fun e => h (by rw [e]; rfl)), unescape_flatMap_escape]
    simp

end Dump

/-- One line of a written record store. -/
inductive Row
  | cargo (id origin specOrigin destination : String) (arrivalDeadline : Option String)
  | leg (id : String) (position : Int) (record : LegRecord)
  | event (record : EventRecord)

namespace Row

def fields : Row → List (Option String)
  | cargo id origin specOrigin destination deadline =>
    ["cargo", id, origin, specOrigin, destination, deadline]
  | leg id position record =>
    ["leg", id, toString position, record.voyageNumber, record.loadLocation,
      record.unloadLocation, record.loadTime, record.unloadTime]
  | event record =>
    ["event", record.trackingId, record.kind, record.location, record.voyageNumber,
      record.registeredAt, record.completedAt]

def ofFields? : List (Option String) → Option Row
  | [some "cargo", some id, some origin, some specOrigin, some destination, deadline] =>
    some (cargo id origin specOrigin destination deadline)
  | [some "leg", some id, some position, some voyageNumber, some loadLocation,
      some unloadLocation, some loadTime, some unloadTime] => do
    return leg id (← position.toInt?)
      { voyageNumber, loadLocation, unloadLocation, loadTime, unloadTime }
  | [some "event", some trackingId, some kind, some location, voyageNumber, some registeredAt,
      some completedAt] =>
    some (event { trackingId, kind, location, voyageNumber, registeredAt, completedAt })
  | _ => none

end Row

namespace RecordStore

/-- The rows of a store, each cargo before its legs. -/
def rows (store : RecordStore) : List Row :=
  (store.cargos.toList.flatMap fun (id, record) =>
    Row.cargo id.text record.origin record.specOrigin record.destination record.arrivalDeadline ::
      record.legs.toList.map fun (position, leg) => Row.leg id.text position leg) ++
    store.events.map Row.event

def addRow? (store : RecordStore) : Row → Option RecordStore
  | .cargo id origin specOrigin destination deadline =>
    store.addCargo? ⟨id⟩ origin specOrigin destination deadline
  | .leg id position record => store.addLeg? ⟨id⟩ position record
  | .event record => some (store.addEvent record)

def toText (store : RecordStore) : String :=
  let line (row : Row) : List Char :=
    ['\t'].intercalate (row.fields.map Dump.encodeField) ++ ['\n']
  String.ofList (store.rows.flatMap line)

/-- The store that a text writes. -/
def ofText? (text : String) : Option RecordStore := do
  let lines := (text.toList.splitOn '\n').filter (!·.isEmpty)
  let rows ← lines.mapM fun line => do
    Row.ofFields? (← (line.splitOn '\t').mapM Dump.decodeField)
  rows.foldlM addRow? CargoStore.empty

end RecordStore

end CargoTracking
