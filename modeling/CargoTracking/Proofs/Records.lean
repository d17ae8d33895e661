import CargoTracking.Proofs.Instant
import CargoTracking.Proofs.OrderedMap
import CargoTracking.Store.Records

/-!
# Reading what was written

Every leg, cargo and event is read back from its record, except that no record stands for an event
of the kind that means no event.  So a record store answers as its last changes say, for the cargos
that were changed and for the others.
-/

namespace CargoTracking

theorem readTime_text (column : TimeColumn) (t : Instant) : readTime column t.text = .ok t := by
  rw [readTime, Instant.ofString?_text]

theorem EventKind.ofName_name (kind : EventKind) : ofName kind.name = kind := by
  cases kind with
  | notHandled => decide +kernel
  | receive => decide +kernel
  | load => decide +kernel
  | unload => decide +kernel
  | customs => decide +kernel
  | claim => decide +kernel

theorem readKind_name {kind : EventKind} (h : kind ≠ .notHandled) : readKind kind.name = .ok kind := by
  rw [readKind, EventKind.ofName_name, if_neg h]

theorem LegRecord.read_ofLeg (leg : Leg) : (LegRecord.ofLeg leg).read = .ok leg := by
  simp only [LegRecord.read, LegRecord.ofLeg, readTime_text]
  rfl

theorem EventRecord.read_ofEvent {event : HandlingEvent} (h : event.activity.kind ≠ .notHandled) :
    (EventRecord.ofEvent event).read = .ok event := by
  simp only [EventRecord.read, EventRecord.ofEvent, readKind_name h, readTime_text]
  obtain ⟨_, ⟨_, _, _ | _⟩, _, _⟩ := event <;> rfl

/-- What reads back element by element reads back as a list. -/
theorem mapM_map_eq_pure {m : Type → Type} [Monad m] [LawfulMonad m] {α β : Type} {write : α → β}
    {read : β → m α} {l : List α} (h : ∀ a ∈ l, read (write a) = pure a) :
    (l.map write).mapM read = pure l := by
  induction l with
  | nil => rfl
  | cons a l ih =>
    rw [List.map_cons, List.mapM_cons, h a List.mem_cons_self,
      ih fun b hb => h b (List.mem_cons_of_mem a hb), pure_bind, pure_bind]

namespace CargoRecord

/-- The legs of a record are those of the itinerary, in their order. -/
theorem values_ofItinerary (itinerary : Itinerary) :
    (LegRecord.ofItinerary itinerary).values = itinerary.legs.map .ofLeg := by
  -- The legs are inserted under their positions, which increase.
  have hfold : LegRecord.ofItinerary itinerary =
      (itinerary.legs.zipIdx.map fun e => ((e.2 : Int), LegRecord.ofLeg e.1)).foldl
        (fun legs e => legs.insert e.1 e.2) ∅ := by
    rw [List.foldl_map]
    rfl
  have hlt : itinerary.legs.zipIdx.Pairwise fun a b => a.2 < b.2 := by
    rw [← List.pairwise_map, List.zipIdx_map_snd]
    exact List.pairwise_lt_range'
  have hsorted : (itinerary.legs.zipIdx.map fun e => ((e.2 : Int), LegRecord.ofLeg e.1)).Pairwise
      fun a b => compare a.1 b.1 = .lt := by
    rw [List.pairwise_map]
    refine List.Pairwise.imp (fun h => ?_) hlt
    exact Int.compare_eq_lt.mpr (Int.ofNat_lt.mpr h)
  rw [OrderedMap.values_eq_map, hfold, OrderedMap.toList_foldl_insert_empty hsorted, List.map_map]
  conv => rhs; rw [← List.zipIdx_map_fst 0 itinerary.legs, List.map_map]
  rfl

theorem readSpecification_ofCargo (cargo : Cargo) :
    (ofCargo cargo).readSpecification = .ok cargo.routeSpecification := by
  obtain ⟨_, _, ⟨_, _, _ | deadline⟩, _, _⟩ := cargo
  · rfl
  · simp only [readSpecification, ofCargo, Option.map_some, Option.mapM_some, readTime_text]
    rfl

theorem readItinerary_ofCargo (cargo : Cargo) :
    (ofCargo cargo).readItinerary = .ok cargo.itinerary := by
  rw [readItinerary, ofCargo, values_ofItinerary,
    mapM_map_eq_pure fun leg _ => LegRecord.read_ofLeg leg]
  rfl

end CargoRecord

namespace RecordStore

theorem trackingId_ofEvent (event : HandlingEvent) (id : TrackingId) :
    (EventRecord.ofEvent event).trackingId = id.text ↔ event.trackingId = id :=
  ⟨fun h => congrArg TrackingId.mk h, fun h => congrArg TrackingId.text h⟩

theorem filter_append_ofEvent (events : List EventRecord) (event : HandlingEvent) (id : TrackingId) :
    (events ++ [EventRecord.ofEvent event]).filter (·.trackingId = id.text) =
      events.filter (·.trackingId = id.text) ++
        if event.trackingId = id then [EventRecord.ofEvent event] else [] := by
  simp only [List.filter_append, List.filter_cons, List.filter_nil, decide_eq_true_iff,
    trackingId_ofEvent]

theorem history_append_of_ne {event : HandlingEvent} {id : TrackingId} (h : event.trackingId ≠ id)
    (store : RecordStore) : history (CargoStore.append store event) id = store.history id := by
  have happend : (CargoStore.append store event).events = store.events ++ [EventRecord.ofEvent event] :=
    rfl
  rw [history, history, happend, filter_append_ofEvent, if_neg h, List.append_nil]

/-- The new record is read after all those that were there. -/
theorem history_append_self (store : RecordStore) (event : HandlingEvent) :
    history (CargoStore.append store event) event.trackingId = do
      let before ← store.history event.trackingId
      return before.append (← (EventRecord.ofEvent event).read) := by
  have happend : (CargoStore.append store event).events = store.events ++ [EventRecord.ofEvent event] :=
    rfl
  rw [history, history, happend, filter_append_ofEvent, if_pos rfl, List.mapM_append,
    List.mapM_cons]
  cases (store.events.filter (·.trackingId = event.trackingId.text)).mapM EventRecord.read with
  | error e => rfl
  | ok events => cases (EventRecord.ofEvent event).read <;> rfl

theorem history_append {event : HandlingEvent} (h : event.activity.kind ≠ .notHandled)
    (store : RecordStore) (id : TrackingId) :
    history (CargoStore.append store event) id =
      if event.trackingId = id then (store.history id).map (·.append event)
      else store.history id := by
  by_cases hid : event.trackingId = id
  · subst hid
    rw [if_pos rfl, history_append_self, EventRecord.read_ofEvent h]
    -- A record before it that is unreadable makes both sides fail alike.
    cases store.history event.trackingId <;> rfl
  · rw [if_neg hid, history_append_of_ne hid]

theorem history_store (store : RecordStore) (cargo : Cargo) (id : TrackingId) :
    history (store.store cargo) id = store.history id := rfl

/-- What a cargo that is found consists of: what is read of its record, and the delivery that is
derived from it and the history. -/
theorem find_eq_ok_iff {store : RecordStore} {id : TrackingId} {now : Instant} {cargo : Cargo} :
    store.find id now = .ok cargo ↔ ∃ record spec itinerary history,
      store.cargos[id]? = some record ∧ record.readSpecification = .ok spec ∧
      record.readItinerary = .ok itinerary ∧ store.history id = .ok history ∧
      cargo = ⟨id, ⟨record.origin⟩, spec, itinerary, .derive spec itinerary history now⟩ := by
  unfold find
  cases store.cargos[id]? with
  | none => simp
  | some record =>
    simp only [readCargo, Option.some.injEq]
    constructor
    · intro h
      -- The parts are read one after the other, and the first that is unreadable ends it.
      cases hspec : record.readSpecification with
      | error e => rw [hspec] at h; cases h
      | ok spec =>
        cases hitinerary : record.readItinerary with
        | error e => rw [hspec, hitinerary] at h; cases h
        | ok itinerary =>
          cases hhistory : store.history id with
          | error e => rw [hspec, hitinerary, hhistory] at h; cases h
          | ok history =>
            rw [hspec, hitinerary, hhistory] at h
            cases h
            exact ⟨record, spec, itinerary, history, rfl, hspec, hitinerary, rfl, rfl⟩
    · rintro ⟨_, spec, itinerary, history, rfl, hspec, hitinerary, hhistory, rfl⟩
      rw [hspec, hitinerary, hhistory]
      rfl

theorem find_store_self {store : RecordStore} {cargo : Cargo} {history : History}
    (h : store.history cargo.trackingId = .ok history) (now : Instant) :
    (store.store cargo).find cargo.trackingId now = .ok { cargo with
      origin := (store.cargos[cargo.trackingId]?.map fun record => ⟨record.origin⟩).getD cargo.origin
      delivery := .derive cargo.routeSpecification cargo.itinerary history now } := by
  rw [find_eq_ok_iff]
  -- A record that is there already keeps its origin.
  refine ⟨{ CargoRecord.ofCargo cargo with
      origin := (store.cargos[cargo.trackingId]?.map (·.origin)).getD cargo.origin.text },
    cargo.routeSpecification, cargo.itinerary, history, Std.TreeMap.getElem?_insert_self,
    CargoRecord.readSpecification_ofCargo cargo, CargoRecord.readItinerary_ofCargo cargo, h, ?_⟩
  cases store.cargos[cargo.trackingId]? <;> rfl

theorem find_store_of_ne {cargo : Cargo} {id : TrackingId} (h : cargo.trackingId ≠ id)
    (store : RecordStore) (now : Instant) : (store.store cargo).find id now = store.find id now := by
  have hkey : ¬ compare cargo.trackingId id = .eq := fun heq => h (Std.LawfulEqOrd.eq_of_compare heq)
  have hrecord : (store.store cargo).cargos[id]? = store.cargos[id]? := by
    simp only [RecordStore.store]
    rw [Std.TreeMap.getElem?_insert, if_neg hkey]
  unfold find
  rw [hrecord]
  rfl

end RecordStore

end CargoTracking
