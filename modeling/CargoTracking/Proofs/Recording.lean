import CargoTracking.Proofs.Failure
import CargoTracking.Proofs.Plan
import CargoTracking.Proofs.Steadiness

/-!
# Recording an event, all or nothing

An event is added to the history before the history is read again, and what was added is not taken
back.  So a record is all or nothing as long as the added event can be read.  The store in memory
reads every event; the store of records writes the kind that means no event and does not read it, and
such a record leaves a cargo behind that cannot be found any more.
-/

namespace CargoTracking.Inspection

open CargoStore

/-- The record fails and changes nothing, or it adds the event to the history of its cargo and to
no other, and the cargo can be found. -/
structure Whole {σ : Type} [CargoStore σ] (store : σ) (now : Instant) (event : HandlingEvent) :
    Prop where
  failed : ∀ e, ((record now event).perform store).result = .error e →
    ((record now event).perform store).world.store = store
  recorded : ((record now event).perform store).result = .ok () →
    ∃ before, history store event.trackingId = .ok before ∧
      history ((record now event).perform store).world.store event.trackingId =
        .ok (before.append event)
  others : ((record now event).perform store).result = .ok () → ∀ id, event.trackingId ≠ id →
    history ((record now event).perform store).world.store id = history store id
  found : ((record now event).perform store).result = .ok () → ∀ later, ∃ cargo,
    find ((record now event).perform store).world.store event.trackingId later = .ok cargo

section Steady

variable {σ : Type} [CargoStore σ]

/-- A record in full: its outcome when the cargo was found. -/
theorem record_of_find {store : σ} {now : Instant} {event : HandlingEvent} {cargo : Cargo}
    (h : find store event.trackingId now = .ok cargo) :
    (∃ e, history (append store event) event.trackingId = .error e ∧
      ((record now event).perform store).result = .error e ∧
      ((record now event).perform store).world.store = append store event) ∨
    ∃ reports, history (append store event) event.trackingId = .ok reports ∧
      ((record now event).perform store).result = .ok () ∧
      ((record now event).perform store).world.store =
        CargoStore.store (append store event) (cargo.deriveFrom reports now) := by
  rw [Service.perform_eq_on, record, inspectAfter_on]
  dsimp only [extended]
  rw [h]
  cases history (append store event) event.trackingId with
  | error e => exact .inl ⟨e, rfl, rfl, rfl⟩
  | ok reports => exact .inr ⟨reports, rfl, rfl, rfl⟩

theorem record_of_not_found {store : σ} {now : Instant} {event : HandlingEvent} {e : Error}
    (h : find store event.trackingId now = .error e) :
    ((record now event).perform store).result = .error e ∧
      ((record now event).perform store).world.store = store := by
  rw [Service.perform_eq_on, record, inspectAfter_on]
  dsimp only
  rw [h]
  exact ⟨rfl, rfl⟩

theorem whole_of_not_found {store : σ} {now : Instant} {event : HandlingEvent} {e : Error}
    (h : find store event.trackingId now = .error e) : Whole store now event := by
  obtain ⟨hresult, hstore⟩ := record_of_not_found h
  have hfailed : ((record now event).perform store).result ≠ .ok () := by
    rw [hresult]
    exact fun hok => by cases hok
  exact ⟨fun _ _ => hstore, fun hok => absurd hok hfailed, fun hok => absurd hok hfailed,
    fun hok => absurd hok hfailed⟩

variable [SteadyStore σ]

/-- A record is all or nothing if the event can be read again. -/
theorem whole_of_readable {store : σ} {now : Instant} {event : HandlingEvent} {cargo : Cargo}
    (hfind : find store event.trackingId now = .ok cargo) {reports : History}
    (hhistory : history (append store event) event.trackingId = .ok reports) :
    Whole store now event := by
  rcases record_of_find hfind with ⟨e, herror, -⟩ | ⟨reports', hreports, hresult, hstore⟩
  · rw [hhistory] at herror
    cases herror
  · rw [hhistory] at hreports
    cases hreports
    have hafter := LawfulStore.history_store (append store event) (cargo.deriveFrom reports now)
    refine ⟨fun e he => ?_, fun _ => ?_, fun _ id hid => ?_, fun _ later => ?_⟩
    · rw [hresult] at he
      cases he
    · obtain ⟨before, hbefore, rfl⟩ := SteadyStore.history_of_append hhistory
      rw [if_pos rfl] at hhistory
      rw [hstore, hafter]
      exact ⟨before, hbefore, hhistory⟩
    · rw [hstore, hafter]
      exact SteadyStore.history_append_of_ne hid store
    · -- The cargo is found with the event, and still after it was stored.
      obtain ⟨delivery, hextended⟩ := SteadyStore.find_append_of_readable hfind hhistory
      obtain ⟨cargo', hstored⟩ := exists_find_store hextended (cargo.deriveFrom reports now)
      obtain ⟨found, hfound, -⟩ := SteadyStore.exists_find_later hstored later
      rw [hstore]
      exact ⟨found, hfound⟩

end Steady

/-! ## Events that are none -/

section NotHandled

variable {store : RecordStore} {now : Instant} {event : HandlingEvent}

theorem append_ne (store : RecordStore) (event : HandlingEvent) : append store event ≠ store := by
  intro h
  have hlength : (store.events ++ [EventRecord.ofEvent event]).length = store.events.length :=
    congrArg (·.events.length) h
  rw [List.length_append, List.length_singleton] at hlength
  omega

/-- Over records, an event that is none stays in the history, which cannot be read with it. -/
theorem record_of_notHandled (hkind : event.activity.kind = .notHandled) {cargo : Cargo}
    (hfind : find store event.trackingId now = .ok cargo) :
    ((record now event).perform store).result = .error (.corruptRecord (.eventKind "NotHandled")) ∧
      ((record now event).perform store).world.store = append store event := by
  obtain ⟨before, hbefore⟩ := LawfulStore.history_of_find hfind
  have hhistory : history (append store event) event.trackingId = _ :=
    RecordStore.history_append_of_notHandled hkind hbefore
  rcases record_of_find hfind with ⟨e, herror, hresult, hstore⟩ | ⟨reports, hreports, -⟩
  · rw [hhistory] at herror
    cases herror
    exact ⟨hresult, hstore⟩
  · rw [hhistory] at hreports
    cases hreports

/-- Nor can the cargo be found with it, at any time. -/
theorem find_append_of_notHandled (hkind : event.activity.kind = .notHandled) {cargo : Cargo}
    (hfind : find store event.trackingId now = .ok cargo) (later : Instant) :
    find (append store event) event.trackingId later =
      .error (.corruptRecord (.eventKind "NotHandled")) := by
  obtain ⟨record, spec, itinerary, before, hrecord, hspec, hitinerary, hbefore, -⟩ :=
    RecordStore.find_eq_ok_iff.mp hfind
  have hhistory := RecordStore.history_append_of_notHandled hkind hbefore
  have hrecord' : (append store event).cargos[event.trackingId]? = some record := hrecord
  show RecordStore.find (append store event) event.trackingId later = _
  rw [RecordStore.find, hrecord']
  show RecordStore.readCargo (append store event) event.trackingId record later = _
  rw [RecordStore.readCargo, hspec, hitinerary, hhistory]
  rfl

end NotHandled

/-- Over the store in memory every record is all or nothing.  Over records it is so unless the event
is none and its cargo can be found: then the record fails, and leaves the event in the history and
the cargo where it cannot be found. -/
theorem record_whole_iff (now : Instant) (event : HandlingEvent) :
    (∀ store : MemoryStore, Whole store now event) ∧
    (∀ store : RecordStore, Whole store now event ↔
      (event.activity.kind = .notHandled → ∃ e, find store event.trackingId now = .error e)) ∧
    ∀ (store : RecordStore) (cargo : Cargo), event.activity.kind = .notHandled →
      find store event.trackingId now = .ok cargo →
      ((record now event).perform store).result =
        .error (.corruptRecord (.eventKind "NotHandled")) ∧
      ((record now event).perform store).world.store = append store event ∧
      ∀ later, find ((record now event).perform store).world.store event.trackingId later =
        .error (.corruptRecord (.eventKind "NotHandled")) := by
  refine ⟨fun store => ?_, fun store => ⟨fun hwhole hkind => ?_, fun hlost => ?_⟩,
    fun store cargo hkind hfind => ?_⟩
  · -- In memory every history is readable.
    cases hfind : find store event.trackingId now with
    | error e => exact whole_of_not_found hfind
    | ok cargo => exact whole_of_readable hfind rfl
  · cases hfind : find store event.trackingId now with
    | error e => exact ⟨e, rfl⟩
    | ok cargo =>
      obtain ⟨hresult, hstore⟩ := record_of_notHandled hkind hfind
      rw [hwhole.failed _ hresult] at hstore
      exact absurd hstore.symm (append_ne store event)
  · cases hfind : find store event.trackingId now with
    | error e => exact whole_of_not_found hfind
    | ok cargo =>
      have hkind : event.activity.kind ≠ .notHandled := by
        intro hkind
        obtain ⟨e, herror⟩ := hlost hkind
        rw [hfind] at herror
        cases herror
      obtain ⟨reports, hhistory⟩ := exists_history_extended (HandlingEvent.handled_some hkind) hfind
      exact whole_of_readable hfind hhistory
  · obtain ⟨hresult, hstore⟩ := record_of_notHandled hkind hfind
    refine ⟨hresult, hstore, fun later => ?_⟩
    rw [hstore]
    exact find_append_of_notHandled hkind hfind later

/-- A booked cargo of which it is recorded that nothing was done: the record fails, and then the
history is not the one it was, and the cargo that could be found is lost. -/
theorem cargo_lost_by_record :
    let id : TrackingId := ⟨"3F2A9C1B"⟩
    let store : RecordStore := ((Booking.book .sample (sampleDay 1) id ⟨"CNHKG"⟩ ⟨"SESTO"⟩
      (some (sampleDay 18))).perform empty).world.store
    let outcome := (record (sampleDay 2) (sampleEvent (.at .notHandled ⟨"CNHKG"⟩) 2)).perform store
    outcome.result.isOk = false ∧
      (history store id).toOption = some .empty ∧
      (history outcome.world.store id).toOption ≠ some .empty ∧
      (find store id (sampleDay 3)).isOk = true ∧
      (find outcome.world.store id (sampleDay 3)).isOk = false := by
  decide +kernel

end CargoTracking.Inspection
