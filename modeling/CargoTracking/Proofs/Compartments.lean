import CargoTracking.Proofs.Agreement
import CargoTracking.Proofs.Dump
import CargoTracking.Proofs.Effects

/-!
# Compartments

What a store holds of one cargo, without the stamps of the clock.  All that the store answers about
the cargo comes from there, and nothing that is done to another cargo, or put into the store as a
record of another one, gets there.
-/

namespace CargoTracking

open CargoStore

/-- A store that takes records as they are, or refuses them. -/
class RowStore (σ : Type) where
  insert? : σ → Row → Option σ

instance : RowStore RecordStore := ⟨RecordStore.addRow?⟩

/-- There are no records in memory. -/
instance : RowStore MemoryStore := ⟨fun _ _ => none⟩

/-- The id of the cargo that the record is about. -/
def Row.trackingId : Row → TrackingId
  | cargo id .. | leg id .. => ⟨id⟩
  | event record => ⟨record.trackingId⟩

class SeparateStore (σ : Type) [CargoStore σ] [RowStore σ] extends SteadyStore σ where
  Contents : Type
  contents : σ → TrackingId → Contents
  agreeAt {store other : σ} {id : TrackingId} (h : contents store id = contents other id) :
    AgreeAt id store other
  contents_store_of_ne {cargo : Cargo} {id : TrackingId} (h : cargo.trackingId ≠ id) (before : σ) :
    contents (store before cargo) id = contents before id
  contents_store_congr {before other : σ} {id : TrackingId} {cargo cargo' : Cargo}
    (h : contents before id = contents other id) (hcargo : cargo.unstamped = cargo'.unstamped) :
    contents (store before cargo) id = contents (store other cargo') id
  contents_append_of_ne {event : HandlingEvent} {id : TrackingId} (h : event.trackingId ≠ id)
    (before : σ) : contents (append before event) id = contents before id
  contents_append_congr {before other : σ} {id : TrackingId} {event event' : HandlingEvent}
    (h : contents before id = contents other id) (hevent : event.unstamped = event'.unstamped) :
    contents (append before event) id = contents (append other event') id
  contents_insert_of_ne {before after : σ} {row : Row} {id : TrackingId} (h : row.trackingId ≠ id)
    (hinsert : RowStore.insert? before row = some after) : contents after id = contents before id
  contents_insert_congr {before other : σ} {row : Row}
    (h : contents before row.trackingId = contents other row.trackingId) :
    (RowStore.insert? before row).map (contents · row.trackingId) =
      (RowStore.insert? other row).map (contents · row.trackingId)
  keyed_insert {before after : σ} {row : Row} (h : Keyed before)
    (hinsert : RowStore.insert? before row = some after) : Keyed after

section Separate

variable {σ : Type} [CargoStore σ] [RowStore σ] [SeparateStore σ]

theorem Elsewhere.contents_eq {before after : σ} {id : TrackingId} (h : Elsewhere id before after) :
    SeparateStore.contents after id = SeparateStore.contents before id := by
  induction h with
  | refl => rfl
  | append _ hne ih => rw [SeparateStore.contents_append_of_ne hne, ih]
  | store _ hne ih => rw [SeparateStore.contents_store_of_ne hne, ih]

theorem contents_extended_congr {before other : σ} {id : TrackingId}
    {event event' : Option HandlingEvent}
    (h : SeparateStore.contents before id = SeparateStore.contents other id)
    (hevent : event.map HandlingEvent.unstamped = event'.map HandlingEvent.unstamped) :
    SeparateStore.contents (Inspection.extended before event) id =
      SeparateStore.contents (Inspection.extended other event') id := by
  cases event with
  | none =>
    cases event' with
    | none => exact h
    | some event' => cases hevent
  | some event =>
    cases event' with
    | none => cases hevent
    | some event' => exact SeparateStore.contents_append_congr h (Option.some.inj hevent)

end Separate

/-! ## The store in memory -/

namespace MemoryStore

/-- The cargo and its events, without stamps. -/
def contents (store : MemoryStore) (id : TrackingId) : Option Cargo × List HandlingEvent :=
  (store.cargos[id]?.map .unstamped, (store.events.filter (·.trackingId = id)).map .unstamped)

theorem find_unstamped (store : MemoryStore) (id : TrackingId) :
    (store.find id).map Cargo.unstamped =
      ((store.contents id).1.elim (.error (.unknownCargo id)) .ok) := by
  rw [find, contents]
  cases store.cargos[id]? <;> rfl

theorem history_unstamped (store : MemoryStore) (id : TrackingId) :
    (history store id).map History.unstamped = .ok ⟨(store.contents id).2⟩ := rfl

theorem contents_store (before : MemoryStore) (cargo : Cargo) (id : TrackingId) :
    contents (store before cargo) id =
      (if cargo.trackingId = id then some cargo.unstamped else (before.contents id).1,
        (before.contents id).2) := by
  have hcargo : (before.cargos.insert cargo.trackingId cargo)[id]? =
      if cargo.trackingId = id then some cargo else before.cargos[id]? := by
    rw [Std.TreeMap.getElem?_insert]
    simp only [compare_id_eq]
  show (((before.cargos.insert cargo.trackingId cargo)[id]?).map Cargo.unstamped, _) = _
  rw [hcargo, apply_ite (Option.map Cargo.unstamped)]
  rfl

theorem contents_append (before : MemoryStore) (event : HandlingEvent) (id : TrackingId) :
    contents (append before event) id = ((before.contents id).1,
      (before.contents id).2 ++ if event.trackingId = id then [event.unstamped] else []) := by
  have hevents : (before.events ++ [event]).filter (·.trackingId = id) =
      before.events.filter (·.trackingId = id) ++ if event.trackingId = id then [event] else [] := by
    simp only [List.filter_append, List.filter_cons, List.filter_nil, decide_eq_true_iff]
  show (_, ((before.events ++ [event]).filter (·.trackingId = id)).map HandlingEvent.unstamped) = _
  rw [hevents, List.map_append, apply_ite (List.map HandlingEvent.unstamped)]
  rfl

instance : SeparateStore MemoryStore where
  Contents := Option Cargo × List HandlingEvent
  contents := contents
  agreeAt {store other id} h := by
    refine ⟨fun _ _ => ?_, ?_⟩
    · show (store.find id).map Cargo.unstamped = (other.find id).map Cargo.unstamped
      rw [find_unstamped, find_unstamped, h]
    · rw [history_unstamped, history_unstamped, h]
  contents_store_of_ne h before := by rw [contents_store, if_neg h]
  contents_store_congr h hcargo := by
    rw [contents_store, contents_store, h, hcargo, Cargo.trackingId_congr hcargo]
  contents_append_of_ne h before := by rw [contents_append, if_neg h, List.append_nil]
  contents_append_congr h hevent := by
    rw [contents_append, contents_append, h, hevent, HandlingEvent.trackingId_congr hevent]
  contents_insert_of_ne _ hinsert := nomatch hinsert
  contents_insert_congr _ := rfl
  keyed_insert _ hinsert := nomatch hinsert

end MemoryStore

/-! ## The store of records -/

namespace RecordStore

/-- The record of the cargo, and what is read of the records of its events. -/
def contents (store : RecordStore) (id : TrackingId) :
    Option CargoRecord × List (Except Error HandlingEvent) :=
  (store.cargos[id]?, (store.events.filter (·.trackingId = id.text)).map
    fun record => record.read.map .unstamped)

theorem history_unstamped (store : RecordStore) (id : TrackingId) :
    (store.history id).map History.unstamped =
      ((store.contents id).2.mapM fun event => event).map .mk := by
  have hread := map_mapM EventRecord.read HandlingEvent.unstamped
    (store.events.filter (·.trackingId = id.text))
  rw [contents, List.mapM_map]
  show _ = Except.map History.mk ((store.events.filter (·.trackingId = id.text)).mapM
    fun record : EventRecord => record.read.map HandlingEvent.unstamped)
  rw [← hread, history]
  cases (store.events.filter (·.trackingId = id.text)).mapM EventRecord.read <;> rfl

theorem contents_put_self (store : RecordStore) (id : TrackingId) (record : CargoRecord) :
    (store.put id record).contents id = (some record, (store.contents id).2) := by
  rw [contents, getElem?_put_self]
  rfl

theorem contents_put_of_ne (store : RecordStore) {id other : TrackingId} (record : CargoRecord)
    (h : other ≠ id) : (store.put id record).contents other = store.contents other := by
  rw [contents, getElem?_put_of_ne store record h]
  rfl

theorem contents_addEvent (store : RecordStore) (record : EventRecord) (id : TrackingId) :
    (store.addEvent record).contents id = ((store.contents id).1, (store.contents id).2 ++
      if record.trackingId = id.text then [record.read.map .unstamped] else []) := by
  have hevents : (store.events ++ [record]).filter (·.trackingId = id.text) =
      store.events.filter (·.trackingId = id.text) ++
        if record.trackingId = id.text then [record] else [] := by
    simp only [List.filter_append, List.filter_cons, List.filter_nil, decide_eq_true_iff]
  rw [contents, addEvent, hevents, List.map_append, apply_ite (List.map _)]
  rfl

/-- An event is read back as it was, or not at all, whenever it was registered. -/
theorem read_ofEvent_congr {event event' : HandlingEvent} (h : event.unstamped = event'.unstamped) :
    (EventRecord.ofEvent event).read.map HandlingEvent.unstamped =
      (EventRecord.ofEvent event').read.map HandlingEvent.unstamped := by
  have hkind : event.activity.kind = event'.activity.kind :=
    congrArg Activity.kind (HandlingEvent.activity_congr h)
  by_cases hnone : event.activity.kind = .notHandled
  · rw [EventRecord.read_ofEvent_of_notHandled hnone,
      EventRecord.read_ofEvent_of_notHandled (hkind ▸ hnone)]
  · rw [EventRecord.read_ofEvent hnone, EventRecord.read_ofEvent (hkind ▸ hnone)]
    exact congrArg Except.ok h

theorem store_eq_put (store : RecordStore) (cargo : Cargo) :
    store.store cargo = store.put cargo.trackingId { CargoRecord.ofCargo cargo with
      origin := ((store.contents cargo.trackingId).1.map (·.origin)).getD cargo.origin.text } := rfl

/-- A record does not say when the delivery was derived. -/
theorem ofCargo_congr {cargo cargo' : Cargo} (h : cargo.unstamped = cargo'.unstamped) :
    CargoRecord.ofCargo cargo = CargoRecord.ofCargo cargo' := by
  show CargoRecord.ofCargo cargo.unstamped = CargoRecord.ofCargo cargo'.unstamped
  rw [h]

theorem contents_store_congr {before other : RecordStore} {id : TrackingId} {cargo cargo' : Cargo}
    (h : before.contents id = other.contents id) (hcargo : cargo.unstamped = cargo'.unstamped) :
    (before.store cargo).contents id = (other.store cargo').contents id := by
  have hid := Cargo.trackingId_congr hcargo
  have horigin : cargo.origin = cargo'.origin := by
    show cargo.unstamped.origin = cargo'.unstamped.origin
    rw [hcargo]
  rw [store_eq_put, store_eq_put, ← hid, ← horigin, ← ofCargo_congr hcargo]
  by_cases hself : cargo.trackingId = id
  · subst hself
    rw [contents_put_self, contents_put_self, h]
  · rw [contents_put_of_ne _ _ (Ne.symm hself), contents_put_of_ne _ _ (Ne.symm hself), h]

/-! ### Records from elsewhere -/

theorem addCargo?_eq (store : RecordStore) (id : TrackingId) (origin specOrigin destination : String)
    (deadline : Option String) :
    store.addCargo? id origin specOrigin destination deadline =
      if (store.contents id).1.isSome then none
      else some (store.put id ⟨origin, specOrigin, destination, deadline, ∅⟩) := by
  rw [addCargo?, Std.TreeMap.contains_eq_isSome_getElem?]
  rfl

theorem addLeg?_eq (store : RecordStore) (id : TrackingId) (position : Int) (leg : LegRecord) :
    store.addLeg? id position leg = (store.contents id).1.bind fun record =>
      if record.legs.contains position then none
      else some (store.put id { record with legs := record.legs.insert position leg }) := rfl

/-- A row that is taken changes the record of its cargo, or is the record of an event of it. -/
theorem addRow?_cases {before after : RecordStore} {row : Row}
    (h : before.addRow? row = some after) :
    (∃ record, after = before.put row.trackingId record) ∨
      ∃ record, record.trackingId = row.trackingId.text ∧ after = before.addEvent record := by
  cases row with
  | cargo id origin specOrigin destination deadline =>
    rw [addRow?, addCargo?_eq] at h
    by_cases htaken : (before.contents ⟨id⟩).1.isSome
    · rw [if_pos htaken] at h
      cases h
    · rw [if_neg htaken] at h
      cases h
      exact .inl ⟨_, rfl⟩
  | leg id position leg =>
    rw [addRow?, addLeg?_eq] at h
    cases hrecord : (before.contents ⟨id⟩).1 with
    | none =>
      rw [hrecord] at h
      cases h
    | some record =>
      rw [hrecord, Option.bind_some] at h
      by_cases htaken : record.legs.contains position
      · rw [if_pos htaken] at h
        cases h
      · rw [if_neg htaken] at h
        cases h
        exact .inl ⟨_, rfl⟩
  | event record =>
    cases h
    exact .inr ⟨record, rfl, rfl⟩

theorem contents_addRow?_of_ne {before after : RecordStore} {row : Row} {id : TrackingId}
    (h : row.trackingId ≠ id) (hadd : before.addRow? row = some after) :
    after.contents id = before.contents id := by
  rcases addRow?_cases hadd with ⟨record, rfl⟩ | ⟨record, hrecord, rfl⟩
  · exact contents_put_of_ne before record h.symm
  · have hne : record.trackingId ≠ id.text := fun heq =>
      h (congrArg TrackingId.mk (hrecord.symm.trans heq))
    rw [contents_addEvent, if_neg hne, List.append_nil]

/-- Whether a row is taken, and what becomes of its cargo, depends on that cargo only. -/
theorem contents_addRow?_congr {before other : RecordStore} {row : Row}
    (h : before.contents row.trackingId = other.contents row.trackingId) :
    (before.addRow? row).map (contents · row.trackingId) =
      (other.addRow? row).map (contents · row.trackingId) := by
  cases row with
  | cargo id origin specOrigin destination deadline =>
    rw [Row.trackingId] at h ⊢
    rw [addRow?, addRow?, addCargo?_eq, addCargo?_eq, h]
    by_cases htaken : (other.contents ⟨id⟩).1.isSome
    · rw [if_pos htaken, if_pos htaken]
    · rw [if_neg htaken, if_neg htaken, Option.map_some, Option.map_some, contents_put_self,
        contents_put_self, h]
  | leg id position leg =>
    rw [Row.trackingId] at h ⊢
    rw [addRow?, addRow?, addLeg?_eq, addLeg?_eq, h]
    cases (other.contents ⟨id⟩).1 with
    | none => rfl
    | some record =>
      rw [Option.bind_some, Option.bind_some]
      by_cases htaken : record.legs.contains position
      · rw [if_pos htaken, if_pos htaken]
      · rw [if_neg htaken, if_neg htaken, Option.map_some, Option.map_some, contents_put_self,
          contents_put_self, h]
  | event record =>
    rw [Row.trackingId] at h ⊢
    rw [addRow?, addRow?, Option.map_some, Option.map_some, contents_addEvent, contents_addEvent, h]

theorem append_eq_addEvent (store : RecordStore) (event : HandlingEvent) :
    append store event = store.addEvent (.ofEvent event) := rfl

instance : SeparateStore RecordStore where
  Contents := Option CargoRecord × List (Except Error HandlingEvent)
  contents := contents
  agreeAt {store other id} h := by
    have hhistory : (store.history id).map History.unstamped =
        (other.history id).map History.unstamped := by
      rw [history_unstamped, history_unstamped, h]
    exact ⟨unstamped_find_congr (congrArg Prod.fst h) hhistory, hhistory⟩
  contents_store_of_ne h before := contents_put_of_ne before _ h.symm
  contents_store_congr := contents_store_congr
  contents_append_of_ne {event id} h before := by
    have hne : (EventRecord.ofEvent event).trackingId ≠ id.text :=
      mt (trackingId_ofEvent event id).mp h
    rw [append_eq_addEvent, contents_addEvent, if_neg hne, List.append_nil]
  contents_append_congr {before other id event event'} h hevent := by
    have hid : (EventRecord.ofEvent event).trackingId = (EventRecord.ofEvent event').trackingId :=
      congrArg TrackingId.text (HandlingEvent.trackingId_congr hevent)
    rw [append_eq_addEvent, append_eq_addEvent, contents_addEvent, contents_addEvent, h, hid,
      read_ofEvent_congr hevent]
  contents_insert_of_ne := contents_addRow?_of_ne
  contents_insert_congr := contents_addRow?_congr
  keyed_insert _ _ := keyed _

end RecordStore

end CargoTracking
