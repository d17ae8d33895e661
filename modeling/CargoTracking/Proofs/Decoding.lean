import CargoTracking.Proofs.Operations
import CargoTracking.Proofs.Stores
import Mathlib.Data.List.Forall2

/-!
# What can be read of records

A cargo is read cell by cell: its deadline, the times of its legs by position, then kind and times
of its events in the order in which they were added.  It is found if every cell stands for
something.  If not, the first cell that does not is what the request fails with, and no other record
has a part in it.  The list of all cargos fails in the same way with the first cargo that is not
found, and the list of ids reads no cell at all.
-/

namespace CargoTracking

open CargoStore

/-! ## Cells -/

/-- A text of a record that has to stand for something. -/
inductive Cell
  | time (column : TimeColumn) (text : String)
  | kind (text : String)

namespace Cell

def Decodes : Cell → Prop
  | time _ text => ∃ t, Instant.ofString? text = some t
  | kind text => EventKind.ofName text ≠ .notHandled

instance (cell : Cell) : Decidable cell.Decodes :=
  match cell with
  | time _ _ => decidable_of_iff _ Option.isSome_iff_exists
  | kind text => inferInstanceAs (Decidable (EventKind.ofName text ≠ .notHandled))

def fault : Cell → RecordFault
  | time column _ => .time column
  | kind text => .eventKind text

/-- What reading the cell fails with. -/
def error? (cell : Cell) : Option Error :=
  if cell.Decodes then none else some (.corruptRecord cell.fault)

theorem error?_eq_none_iff {cell : Cell} : cell.error? = none ↔ cell.Decodes := by
  simp [error?]

theorem error?_eq_some_iff {cell : Cell} {e : Error} :
    cell.error? = some e ↔ ¬ cell.Decodes ∧ .corruptRecord cell.fault = e := by
  simp [error?]

end Cell

def LegRecord.cells (record : LegRecord) : List Cell :=
  [.time .loadTime record.loadTime, .time .unloadTime record.unloadTime]

def EventRecord.cells (record : EventRecord) : List Cell :=
  [.kind record.kind, .time .registeredAt record.registeredAt,
    .time .completedAt record.completedAt]

/-- The deadline, if there is one, and then the legs by position. -/
def CargoRecord.cells (record : CargoRecord) : List Cell :=
  (record.arrivalDeadline.map (.time .arrivalDeadline)).toList ++
    record.legs.toList.flatMap (·.2.cells)

namespace RecordStore

/-- The events of a cargo, in the order in which they were added. -/
def eventRecords (store : RecordStore) (id : TrackingId) : List EventRecord :=
  store.events.filter (·.trackingId = id.text)

/-- All the cells that are read of a cargo. -/
def cells (store : RecordStore) (id : TrackingId) (record : CargoRecord) : List Cell :=
  record.cells ++ (store.eventRecords id).flatMap (·.cells)

end RecordStore

/-! ## What records stand for -/

structure LegRecord.StandsFor (record : LegRecord) (leg : Leg) : Prop where
  voyageNumber : leg.voyageNumber.text = record.voyageNumber
  loadLocation : leg.loadLocation.text = record.loadLocation
  unloadLocation : leg.unloadLocation.text = record.unloadLocation
  loadTime : Instant.ofString? record.loadTime = some leg.loadTime
  unloadTime : Instant.ofString? record.unloadTime = some leg.unloadTime

structure EventRecord.StandsFor (record : EventRecord) (event : HandlingEvent) : Prop where
  trackingId : event.trackingId.text = record.trackingId
  kind : event.activity.kind = .ofName record.kind
  location : event.activity.location.text = record.location
  voyageNumber : event.activity.voyageNumber.map (·.text) = record.voyageNumber
  registeredAt : Instant.ofString? record.registeredAt = some event.registeredAt
  completedAt : Instant.ofString? record.completedAt = some event.completedAt

/-- The specification that is in the record of a cargo. -/
structure CargoRecord.Specifies (record : CargoRecord) (spec : RouteSpecification) : Prop where
  origin : spec.origin.text = record.specOrigin
  destination : spec.destination.text = record.destination
  deadline : record.arrivalDeadline.map Instant.ofString? = spec.arrivalDeadline.map some

/-- The rows are all the legs of the record, by position. -/
structure CargoRecord.LegRows (record : CargoRecord) (rows : List (Int × LegRecord)) : Prop where
  mem : ∀ position leg, (position, leg) ∈ rows ↔ record.legs[position]? = some leg
  sorted : rows.Pairwise fun a b => a.1 < b.1

/-- The cargo that records stand for, with one leg for each row of a leg and one event for each row
of an event. -/
structure RecordStore.Loaded (store : RecordStore) (id : TrackingId) (record : CargoRecord)
    (now : Instant) (cargo : Cargo) : Prop where
  trackingId : cargo.trackingId = id
  origin : cargo.origin.text = record.origin
  specification : record.Specifies cargo.routeSpecification
  legs : List.Forall₂ (fun row leg => row.2.StandsFor leg) record.legs.toList cargo.itinerary.legs
  delivery : ∃ reports, history store id = .ok reports ∧
    List.Forall₂ EventRecord.StandsFor (store.eventRecords id) reports.events ∧
    cargo.delivery = .derive cargo.routeSpecification cargo.itinerary reports now

theorem CargoRecord.legRows (record : CargoRecord) : record.LegRows record.legs.toList where
  mem _ _ := Std.TreeMap.mem_toList_iff_getElem?_eq_some
  sorted := Std.TreeMap.ordered_keys_toList.imp Int.compare_eq_lt.mp

/-! ## Reading item by item -/

/-- A result that was made from items: what the first item that fails fails with, or, if none does,
a value. -/
structure Reads {κ α : Type} (error? : κ → Option Error) (items : List κ) (Stands : α → Prop)
    (result : Except Error α) : Prop where
  failed : ∀ e, items.findSome? error? = some e → result = .error e
  read : items.findSome? error? = none → ∃ value, result = .ok value ∧ Stands value

/-- What a result fails with. -/
def failure? {α : Type} : Except Error α → Option Error
  | .ok _ => none
  | .error e => some e

theorem failure?_eq_none_iff {α : Type} {result : Except Error α} :
    failure? result = none ↔ ∃ value, result = .ok value := by
  cases result <;> simp [failure?]

theorem failure?_eq_some_iff {α : Type} {result : Except Error α} {e : Error} :
    failure? result = some e ↔ result = .error e := by
  cases result <;> simp [failure?]

namespace Reads

section Laws

variable {κ α β : Type} {error? : κ → Option Error} {items items' : List κ} {P : α → Prop}
  {Q : β → Prop} {result : Except Error α}

variable (error?) in
theorem pure {value : α} (h : P value) : Reads error? [] P (.ok value) where
  failed _ he := nomatch he
  read _ := ⟨value, rfl, h⟩

/-- What is read next has its items behind those before. -/
theorem bind {next : α → Except Error β} (h : Reads error? items P result)
    (hnext : ∀ value, P value → Reads error? items' Q (next value)) :
    Reads error? (items ++ items') Q (result >>= next) where
  failed e he := by
    rw [List.findSome?_append, Option.or_eq_some_iff] at he
    rcases he with hfirst | ⟨hnone, hthen⟩
    · rw [h.failed e hfirst]
      rfl
    · obtain ⟨value, rfl, hvalue⟩ := h.read hnone
      exact (hnext value hvalue).failed e hthen
  read he := by
    rw [List.findSome?_append, Option.or_eq_none_iff] at he
    obtain ⟨value, rfl, hvalue⟩ := h.read he.1
    exact (hnext value hvalue).read he.2

theorem map {f : α → β} (h : Reads error? items P result) (hf : ∀ value, P value → Q (f value)) :
    Reads error? items Q (do return f (← result)) := by
  have hbind := h.bind fun value hvalue => pure error? (hf value hvalue)
  rwa [List.append_nil] at hbind

theorem mapM {γ : Type} {itemsOf : γ → List κ} {R : γ → α → Prop} {read : γ → Except Error α}
    (h : ∀ c, Reads error? (itemsOf c) (R c) (read c)) (l : List γ) :
    Reads error? (l.flatMap itemsOf) (List.Forall₂ R l) (l.mapM read) := by
  induction l with
  | nil => exact pure error? .nil
  | cons c l ih =>
    rw [List.flatMap_cons, List.mapM_cons]
    exact (h c).bind fun value hvalue => ih.map fun values hvalues => .cons hvalue hvalues

/-- The value may be known as the one that was read. -/
theorem attach (h : Reads error? items P result) :
    Reads error? items (fun value => result = .ok value ∧ P value) result where
  failed := h.failed
  read hnone := by
    obtain ⟨value, hvalue, hstands⟩ := h.read hnone
    exact ⟨value, hvalue, hvalue, hstands⟩

theorem ok_iff (h : Reads error? items P result) :
    (∃ value, result = .ok value) ↔ ∀ item ∈ items, error? item = none := by
  rw [← List.findSome?_eq_none_iff]
  cases herror : items.findSome? error? with
  | none => exact iff_of_true ((h.read herror).imp fun _ hvalue => hvalue.1) rfl
  | some e => simp [h.failed e herror]

theorem error_iff {e : Error} (h : Reads error? items P result) :
    result = .error e ↔ items.findSome? error? = some e := by
  cases herror : items.findSome? error? with
  | none =>
    obtain ⟨value, hvalue, -⟩ := h.read herror
    simp [hvalue]
  | some e' => simp [h.failed e' herror]

theorem stands {value : α} (h : Reads error? items P result) (hvalue : result = .ok value) :
    P value := by
  obtain ⟨value', hvalue', hstands⟩ := h.read (by
    rw [List.findSome?_eq_none_iff]
    exact h.ok_iff.mp ⟨value, hvalue⟩)
  cases hvalue.symm.trans hvalue'
  exact hstands

end Laws

/-! ### Records -/

/-- A single cell. -/
theorem cell {α : Type} {cell : Cell} {P : α → Prop} {result : Except Error α}
    (hfailed : ¬ cell.Decodes → result = .error (.corruptRecord cell.fault))
    (hread : cell.Decodes → ∃ value, result = .ok value ∧ P value) :
    Reads Cell.error? [cell] P result where
  failed e he := by
    rw [List.findSome?_singleton, Cell.error?_eq_some_iff] at he
    rw [← he.2]
    exact hfailed he.1
  read hnone := by
    rw [List.findSome?_singleton, Cell.error?_eq_none_iff] at hnone
    exact hread hnone

theorem readTime (column : TimeColumn) (text : String) :
    Reads Cell.error? [.time column text] (fun t => Instant.ofString? text = some t)
      (CargoTracking.readTime column text) := by
  refine cell (fun hnone => ?_) fun ⟨t, ht⟩ => ⟨t, by rw [CargoTracking.readTime, ht], ht⟩
  rw [CargoTracking.readTime, Option.eq_none_iff_forall_ne_some.mpr (not_exists.mp hnone)]
  rfl

theorem readKind (text : String) :
    Reads Cell.error? [.kind text] (fun kind => kind = .ofName text)
      (CargoTracking.readKind text) :=
  cell (fun hnone => if_pos (not_not.mp hnone)) fun hkind => ⟨_, if_neg hkind, rfl⟩

theorem leg (record : LegRecord) : Reads Cell.error? record.cells record.StandsFor record.read := by
  refine (readTime .loadTime record.loadTime).bind fun loadTime hload => ?_
  refine (readTime .unloadTime record.unloadTime).map fun unloadTime hunload => ?_
  exact ⟨rfl, rfl, rfl, hload, hunload⟩

theorem event (record : EventRecord) :
    Reads Cell.error? record.cells record.StandsFor record.read := by
  refine (readKind record.kind).bind fun kind hkind => ?_
  refine (readTime .registeredAt record.registeredAt).bind fun registeredAt hregistered => ?_
  refine (readTime .completedAt record.completedAt).map fun completedAt hcompleted => ?_
  have hvoyage : (record.voyageNumber.map VoyageNumber.mk).map (·.text) = record.voyageNumber := by
    cases record.voyageNumber <;> rfl
  exact ⟨rfl, hkind, rfl, hvoyage, hregistered, hcompleted⟩

theorem specification (record : CargoRecord) :
    Reads Cell.error? (record.arrivalDeadline.map (.time .arrivalDeadline)).toList record.Specifies
      record.readSpecification := by
  unfold CargoRecord.readSpecification
  cases hdeadline : record.arrivalDeadline with
  | none => exact pure _ ⟨rfl, rfl, by rw [hdeadline]; rfl⟩
  | some text =>
    have htime := (readTime .arrivalDeadline text).map (f := some)
      (Q := fun deadline => record.arrivalDeadline.map Instant.ofString? = deadline.map some)
      fun t ht => by rw [hdeadline, Option.map_some, ht]; rfl
    exact htime.map fun deadline h => ⟨rfl, rfl, h⟩

theorem itinerary (record : CargoRecord) :
    Reads Cell.error? (record.legs.toList.flatMap (·.2.cells))
      (fun itinerary => List.Forall₂ (fun row leg => row.2.StandsFor leg) record.legs.toList
        itinerary.legs) record.readItinerary := by
  rw [CargoRecord.readItinerary, OrderedMap.values_eq_map, List.mapM_map]
  have hlegs := mapM (fun row : Int × LegRecord => leg row.2) record.legs.toList
  exact hlegs.map (f := Itinerary.mk) fun _ h => h

theorem history (store : RecordStore) (id : TrackingId) :
    Reads Cell.error? ((store.eventRecords id).flatMap (·.cells))
      (fun reports => List.Forall₂ EventRecord.StandsFor (store.eventRecords id) reports.events)
      (store.history id) :=
  (mapM event (store.eventRecords id)).map fun _ h => h

theorem cargo (store : RecordStore) (id : TrackingId) (record : CargoRecord) (now : Instant) :
    Reads Cell.error? (store.cells id record) (store.Loaded id record now)
      (store.readCargo id record now) := by
  rw [RecordStore.cells, CargoRecord.cells, List.append_assoc]
  refine (specification record).bind fun spec hspec => ?_
  refine (itinerary record).bind fun itinerary hlegs => ?_
  refine (history store id).attach.map fun reports hreports => ?_
  exact ⟨rfl, rfl, hspec, hlegs, reports, hreports.1, hreports.2, rfl⟩

/-! ### Lists -/

theorem lookup {κ α : Type} (look : κ → Except Error α) (key : κ) :
    Reads (fun key => failure? (look key)) [key] (fun value => look key = .ok value)
      (look key) := by
  cases hlook : look key with
  | error e => exact ⟨fun e he => by simpa [failure?, hlook] using he, by simp [failure?, hlook]⟩
  | ok value => exact ⟨by simp [failure?, hlook], fun _ => ⟨value, rfl, rfl⟩⟩

theorem list {κ α : Type} (look : κ → Except Error α) (keys : List κ) :
    Reads (fun key => failure? (look key)) keys
      (List.Forall₂ (fun key value => look key = .ok value) keys) (keys.mapM look) := by
  have hmapM := mapM (lookup look) keys
  rwa [List.flatMap_singleton'] at hmapM

variable {σ : Type} [CargoStore σ] [LawfulStore σ]

theorem findAll (store : σ) (now : Instant) :
    Reads (fun id => failure? (find store id now)) (trackingIds store)
      (List.Forall₂ (fun id cargo => find store id now = .ok cargo) (trackingIds store))
      (CargoStore.findAll store now) := by
  rw [LawfulStore.findAll_eq]
  exact list (fun id => find store id now) (trackingIds store)

/-- All cargos can be listed if each of them can be found. -/
theorem exists_findAll {store : σ} {now : Instant}
    (hfound : ∀ id ∈ trackingIds store, ∃ cargo, find store id now = .ok cargo) :
    ∃ cargos, CargoStore.findAll store now = .ok cargos ∧
      List.Forall₂ (fun id cargo => find store id now = .ok cargo) (trackingIds store) cargos := by
  refine (findAll store now).read ?_
  rw [List.findSome?_eq_none_iff]
  exact fun id hid => failure?_eq_none_iff.mpr (hfound id hid)

end Reads

/-! ## What requests answer -/

/-- A lookup finds the cargo of all its records, or fails with their first fault. -/
structure Loads (store : RecordStore) (id : TrackingId) (now : Instant) : Prop where
  unknown : find store id now = .error (.unknownCargo id) ↔ store.cargos[id]? = none
  found : ∀ record, store.cargos[id]? = some record →
    ((∃ cargo, find store id now = .ok cargo) ↔ ∀ cell ∈ store.cells id record, cell.Decodes)
  loaded : ∀ record, store.cargos[id]? = some record → record.LegRows record.legs.toList ∧
    ∀ cargo, find store id now = .ok cargo → store.Loaded id record now cargo
  failed : ∀ record, store.cargos[id]? = some record → ∀ e,
    find store id now = .error e ↔ (store.cells id record).findSome? Cell.error? = some e

/-- The list of cargos fails with the smallest id that is not found, and the list of ids does not
look at the records. -/
structure Lists (store : RecordStore) (now : Instant) : Prop where
  listed : (∃ booked, ((Booking.cargos now).perform store).result = .ok booked) ↔
    ∀ id ∈ trackingIds store, ∃ cargo, find store id now = .ok cargo
  failed : ∀ e, ((Booking.cargos now).perform store).result = .error e ↔
    ∃ id ∈ trackingIds store, find store id now = .error e ∧
      ∀ smaller ∈ trackingIds store, compare smaller id = .lt →
        ∃ cargo, find store smaller now = .ok cargo
  booked : ∀ booked, ((Booking.cargos now).perform store).result = .ok booked →
    List.Forall₂ (fun id cargo => (find store id now).map BookedCargo.of = .ok cargo)
      (trackingIds store) booked
  ids : ∀ id, id ∈ trackingIds store ↔ store.cargos[id]?.isSome
  sorted : (trackingIds store).Pairwise fun a b => compare a b = .lt

namespace RecordStore

theorem reads_find {store : RecordStore} {id : TrackingId} {record : CargoRecord}
    (hrecord : store.cargos[id]? = some record) (now : Instant) :
    Reads Cell.error? (store.cells id record) (store.Loaded id record now)
      (CargoStore.find store id now) := by
  have hfind : CargoStore.find store id now = store.readCargo id record now := by
    show store.find id now = _
    rw [find, hrecord]
  rw [hfind]
  exact .cargo store id record now

theorem find_eq_unknown_iff {store : RecordStore} {id : TrackingId} {now : Instant} :
    CargoStore.find store id now = .error (.unknownCargo id) ↔ store.cargos[id]? = none := by
  cases hrecord : store.cargos[id]? with
  | none =>
    refine iff_of_true ?_ rfl
    show store.find id now = _
    rw [find, hrecord]
  | some record =>
    rw [(reads_find hrecord now).error_iff]
    refine iff_of_false (fun he => ?_) (Option.some_ne_none record)
    -- No cell fails in this way.
    obtain ⟨cell, -, hcell⟩ := List.exists_of_findSome?_eq_some he
    cases (Cell.error?_eq_some_iff.mp hcell).2

theorem loads (store : RecordStore) (id : TrackingId) (now : Instant) : Loads store id now where
  unknown := find_eq_unknown_iff
  found record hrecord := by
    rw [(reads_find hrecord now).ok_iff]
    simp only [Cell.error?_eq_none_iff]
  loaded record hrecord :=
    ⟨record.legRows, fun cargo hcargo => (reads_find hrecord now).stands hcargo⟩
  failed record hrecord e := (reads_find hrecord now).error_iff

theorem reads_cargos (store : RecordStore) (now : Instant) :
    Reads (fun id => failure? (CargoStore.find store id now)) (trackingIds store)
      (List.Forall₂ (fun id cargo => (CargoStore.find store id now).map BookedCargo.of = .ok cargo)
        (trackingIds store)) ((Booking.cargos now).perform store).result := by
  have hcargos : ((Booking.cargos now).perform store).result = (do
      return ((← findAll store now).map .of)) := by
    rw [Service.perform_eq_on, Booking.cargos_on]
    cases findAll store now <;> rfl
  rw [hcargos]
  refine (Reads.findAll store now).map fun cargos hfound => ?_
  rw [List.forall₂_map_right_iff]
  refine hfound.imp fun id cargo hcargo => ?_
  rw [hcargo]
  rfl

theorem lists (store : RecordStore) (now : Instant) : Lists store now := by
  have hreads := reads_cargos store now
  have hsorted := LawfulStore.sorted_trackingIds store
  refine ⟨?_, fun e => ?_, fun booked hbooked => hreads.stands hbooked, fun id => ?_, hsorted⟩
  · rw [hreads.ok_iff]
    simp only [failure?_eq_none_iff]
  · rw [hreads.error_iff, List.findSome?_eq_some_iff]
    simp only [failure?_eq_none_iff, failure?_eq_some_iff]
    -- What stands before the id that fails is what is smaller.
    constructor
    · rintro ⟨before, id, after, hids, hfailed, hbefore⟩
      rw [hids] at hsorted ⊢
      refine ⟨id, List.mem_append_right _ List.mem_cons_self, hfailed, fun smaller hmem hlt => ?_⟩
      exact hbefore smaller ((OrderedMap.mem_before_iff hsorted).mpr ⟨hmem, hlt⟩)
    · rintro ⟨id, hid, hfailed, hsmaller⟩
      obtain ⟨before, after, hids⟩ := List.mem_iff_append.mp hid
      rw [hids] at hsorted hsmaller
      refine ⟨before, id, after, hids, hfailed, fun smaller hmem => ?_⟩
      obtain ⟨hmem', hlt⟩ := (OrderedMap.mem_before_iff hsorted).mp hmem
      exact hsmaller smaller hmem' hlt
  · rw [← Std.TreeMap.mem_iff_isSome_getElem?]
    exact Std.TreeMap.mem_keys

end RecordStore

/-- Whatever the records are, a lookup and the list of all cargos answer what can be read of them,
or fail with the first fault. -/
theorem loading_reports_first_fault (store : RecordStore) (now : Instant) :
    (∀ id, Loads store id now) ∧ Lists store now :=
  ⟨fun id => store.loads id now, store.lists now⟩

/-- Of many faults the one of the leg with the smallest position is told. -/
example :
    let id : TrackingId := ⟨"3F2A9C1B"⟩
    let store : RecordStore := {
      cargos := (∅ : Std.TreeMap TrackingId CargoRecord).insert id {
        origin := "CNHKG", specOrigin := "CNHKG", destination := "SESTO", arrivalDeadline := none
        legs := (∅ : Std.TreeMap Int LegRecord)
          |>.insert 7 ⟨"V200", "USNYC", "SESTO", "soon", "later"⟩
          |>.insert (-3) ⟨"V100", "CNHKG", "USNYC", "2009-03-03T00:00Z", "then"⟩ }
      events := [⟨"3F2A9C1B", "lost", "CNHKG", none, "now", "now"⟩] }
    failure? (store.find id { nanos := 0 }) = some (.corruptRecord (.time .unloadTime)) := by
  decide +kernel

end CargoTracking
