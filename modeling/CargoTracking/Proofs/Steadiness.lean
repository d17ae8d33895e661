import CargoTracking.Proofs.Stamps
import CargoTracking.Proofs.Stores

/-!
# Stores under any event

An event of the kind that means no event is kept by the store in memory, and makes the history
unreadable in the store of records.  The laws here hold of every event: what can be read after it
was added could be read before, and says what it said, with the event behind it.  They are laws of
both stores, as are those on the start and on the time of a lookup.
-/

namespace CargoTracking

open CargoStore

class SteadyStore (σ : Type) [CargoStore σ] : Prop extends LawfulStore σ where
  trackingIds_empty : trackingIds (empty : σ) = []
  history_empty (id : TrackingId) : history (empty : σ) id = .ok .empty
  /-- When a cargo is looked up shows in its stamps at most. -/
  find_time (store : σ) (id : TrackingId) (now now' : Instant) :
    (find store id now).map Cargo.unstamped = (find store id now').map Cargo.unstamped
  trackingId_of_find_store {store : σ} {cargo found : Cargo} {now : Instant}
    (h : find (CargoStore.store store cargo) cargo.trackingId now = .ok found) :
    found.trackingId = cargo.trackingId
  /-- A stored cargo keeps its specification, and has its own origin or the one that is known. -/
  route_of_find_store {store : σ} {cargo found : Cargo} {now : Instant}
    (h : find (CargoStore.store store cargo) cargo.trackingId now = .ok found) :
    found.routeSpecification = cargo.routeSpecification ∧ (found.origin = cargo.origin ∨
      cargo.trackingId ∈ trackingIds store ∧ ∀ earlier known,
        find store cargo.trackingId earlier = .ok known → found.origin = known.origin)
  history_append_of_ne {event : HandlingEvent} {id : TrackingId} (h : event.trackingId ≠ id)
    (store : σ) : history (append store event) id = history store id
  history_of_append {store : σ} {event : HandlingEvent} {id : TrackingId} {reports : History}
    (h : history (append store event) id = .ok reports) :
    ∃ before, history store id = .ok before ∧
      reports = if event.trackingId = id then before.append event else before
  find_append_of_readable {store : σ} {event : HandlingEvent} {id : TrackingId} {now : Instant}
    {cargo : Cargo} {reports : History} (hfind : find store id now = .ok cargo)
    (hhistory : history (append store event) id = .ok reports) :
    ∃ delivery, find (append store event) id now = .ok { cargo with delivery }
  find_of_append {store : σ} {event : HandlingEvent} {id : TrackingId} {now : Instant}
    {cargo : Cargo} (h : find (append store event) id now = .ok cargo) :
    ∃ delivery, find store id now = .ok { cargo with delivery }

section Find

variable {σ : Type} [CargoStore σ] [SteadyStore σ] {store : σ} {id : TrackingId} {now : Instant}
  {cargo : Cargo}

variable (σ id now) in
theorem SteadyStore.find_empty : find (empty : σ) id now = .error (.unknownCargo id) := by
  refine LawfulStore.find_of_not_mem ?_ now
  rw [trackingIds_empty]
  exact List.not_mem_nil

/-- What is found once is found at any time, up to its stamps. -/
theorem SteadyStore.exists_find_later (h : find store id now = .ok cargo) (later : Instant) :
    ∃ cargo', find store id later = .ok cargo' ∧ cargo'.unstamped = cargo.unstamped := by
  rcases cases_of_map_eq (find_time store id now later) with
    ⟨e, hnow, -⟩ | ⟨_, cargo', hnow, hlater, hsame⟩
  · rw [h] at hnow
    cases hnow
  · rw [h] at hnow
    cases hnow
    exact ⟨cargo', hlater, hsame.symm⟩

/-- So is what is not found. -/
theorem SteadyStore.find_eq_error {e : Error} (h : find store id now = .error e) (later : Instant) :
    find store id later = .error e := by
  rcases cases_of_map_eq (find_time store id now later) with
    ⟨e', hnow, hlater⟩ | ⟨_, _, hnow, -, -⟩
  · rw [h] at hnow
    cases hnow
    exact hlater
  · rw [h] at hnow
    cases hnow

/-- At another time its delivery differs at most. -/
theorem SteadyStore.exists_find_of_find (h : find store id now = .ok cargo) (later : Instant) :
    ∃ delivery, find store id later = .ok { cargo with delivery } := by
  obtain ⟨cargo', hlater, hsame⟩ := exists_find_later h later
  refine ⟨cargo'.delivery, hlater.trans ?_⟩
  obtain ⟨hid, horigin, hspec, hitinerary, -⟩ := Cargo.mk.inj hsame
  rw [← hid, ← horigin, ← hspec, ← hitinerary]

end Find

/-! ## The store in memory -/

namespace MemoryStore

theorem history_of_append {store : MemoryStore} {event : HandlingEvent} {id : TrackingId}
    {reports : History} (h : history (append store event) id = .ok reports) :
    ∃ before, history store id = .ok before ∧
      reports = if event.trackingId = id then before.append event else before := by
  rw [history_append] at h
  refine ⟨⟨store.events.filter (·.trackingId = id)⟩, rfl, ?_⟩
  by_cases hid : event.trackingId = id
  · rw [if_pos hid] at h ⊢
    exact (Except.ok.inj h).symm
  · rw [if_neg hid] at h ⊢
    exact (Except.ok.inj h).symm

instance : SteadyStore MemoryStore where
  trackingIds_empty := rfl
  history_empty _ := rfl
  find_time _ _ _ _ := rfl
  trackingId_of_find_store {store cargo found now} h := by
    rw [find_store_self] at h
    rw [Except.ok.inj h]
  route_of_find_store {store cargo found now} h := by
    rw [find_store_self] at h
    rw [Except.ok.inj h]
    exact ⟨rfl, .inl rfl⟩
  history_append_of_ne h store := by rw [history_append, if_neg h]
  history_of_append := history_of_append
  find_append_of_readable {_ _ _ _ cargo _} hfind _ := ⟨cargo.delivery, hfind⟩
  find_of_append {_ _ _ _ cargo} h := ⟨cargo.delivery, h⟩

end MemoryStore

/-! ## The store of records -/

/-- The record of an event that is none stands for nothing. -/
theorem EventRecord.read_ofEvent_of_notHandled {event : HandlingEvent}
    (h : event.activity.kind = .notHandled) :
    (EventRecord.ofEvent event).read = .error (.corruptRecord (.eventKind "NotHandled")) := by
  have hkind : readKind event.activity.kind.name =
      .error (.corruptRecord (.eventKind "NotHandled")) := by
    rw [h, readKind, EventKind.ofName_name]
    rfl
  simp only [EventRecord.read, EventRecord.ofEvent, hkind]
  rfl

namespace RecordStore

theorem history_append_of_notHandled {event : HandlingEvent}
    (h : event.activity.kind = .notHandled) {store : RecordStore} {before : History}
    (hbefore : store.history event.trackingId = .ok before) :
    history (append store event) event.trackingId =
      .error (.corruptRecord (.eventKind "NotHandled")) := by
  rw [history_append_self, hbefore, EventRecord.read_ofEvent_of_notHandled h]
  rfl

theorem history_of_append {store : RecordStore} {event : HandlingEvent} {id : TrackingId}
    {reports : History} (h : history (append store event) id = .ok reports) :
    ∃ before, store.history id = .ok before ∧
      reports = if event.trackingId = id then before.append event else before := by
  by_cases hid : event.trackingId = id
  · subst hid
    simp only [if_true]
    cases hbefore : store.history event.trackingId with
    | error e =>
      rw [history_append_self, hbefore] at h
      cases h
    | ok before =>
      by_cases hkind : event.activity.kind = .notHandled
      · rw [history_append_of_notHandled hkind hbefore] at h
        cases h
      · rw [history_append hkind, if_pos rfl, hbefore] at h
        exact ⟨before, rfl, (Except.ok.inj h).symm⟩
  · rw [history_append_of_ne hid] at h
    exact ⟨reports, h, (if_neg hid).symm⟩

/-- A lookup depends on the record of the cargo and on its history, and no stamp but that of the
derivation comes from anywhere else. -/
theorem unstamped_find_congr {store other : RecordStore} {id : TrackingId}
    (hrecord : store.cargos[id]? = other.cargos[id]?)
    (hhistory : (store.history id).map History.unstamped = (other.history id).map History.unstamped)
    (now now' : Instant) :
    (store.find id now).map Cargo.unstamped = (other.find id now').map Cargo.unstamped := by
  unfold find
  rw [hrecord]
  cases other.cargos[id]? with
  | none => rfl
  | some record =>
    show (store.readCargo id record now).map _ = (other.readCargo id record now').map _
    unfold readCargo
    cases record.readSpecification with
    | error e => rfl
    | ok spec =>
      cases record.readItinerary with
      | error e => rfl
      | ok itinerary =>
        rcases cases_of_map_eq hhistory with ⟨e, hx, hy⟩ | ⟨reports, reports', hx, hy, hreports⟩
        · rw [hx, hy]
          rfl
        · rw [hx, hy]
          have hdelivery : (Delivery.derive spec itinerary reports now).unstamped =
              (Delivery.derive spec itinerary reports' now').unstamped := by
            rw [Delivery.unstamped_derive, hreports, Delivery.unstamped_derive]
          show Except.ok (Cargo.unstamped _) = Except.ok (Cargo.unstamped _)
          simp only [Cargo.unstamped, hdelivery]

theorem trackingId_of_find {store : RecordStore} {id : TrackingId} {now : Instant} {cargo : Cargo}
    (h : store.find id now = .ok cargo) : cargo.trackingId = id := by
  obtain ⟨_, _, _, _, _, _, _, _, rfl⟩ := find_eq_ok_iff.mp h
  rfl

/-- What is found at one time is found at any other, and says when. -/
theorem find_dated {store : RecordStore} {id : TrackingId} {now : Instant} {cargo : Cargo}
    (h : store.find id now = .ok cargo) (later : Instant) :
    store.find id later = .ok (cargo.dated later) := by
  obtain ⟨record, spec, itinerary, reports, hrecord, hspec, hitinerary, hhistory, rfl⟩ :=
    find_eq_ok_iff.mp h
  rw [find_eq_ok_iff]
  exact ⟨record, spec, itinerary, reports, hrecord, hspec, hitinerary, hhistory, rfl⟩

/-- The origin that a record was made with stays in it. -/
theorem route_of_find_store {store : RecordStore} {cargo found : Cargo} {now : Instant}
    (h : (store.store cargo).find cargo.trackingId now = .ok found) :
    found.routeSpecification = cargo.routeSpecification ∧ (found.origin = cargo.origin ∨
      cargo.trackingId ∈ trackingIds store ∧ ∀ earlier known,
        store.find cargo.trackingId earlier = .ok known → found.origin = known.origin) := by
  obtain ⟨_, _, _, reports, -, -, -, hhistory, -⟩ := find_eq_ok_iff.mp h
  rw [history_store] at hhistory
  cases h.symm.trans (find_store_self hhistory now)
  refine ⟨rfl, ?_⟩
  dsimp only
  cases hrecord : store.cargos[cargo.trackingId]? with
  | none => exact .inl rfl
  | some record =>
    refine .inr ⟨?_, fun earlier known hknown => ?_⟩
    · exact Std.TreeMap.mem_keys.mpr (Std.TreeMap.mem_iff_isSome_getElem?.mpr (hrecord ▸ rfl))
    · obtain ⟨_, _, _, _, hrecord', _, _, _, rfl⟩ := find_eq_ok_iff.mp hknown
      rw [hrecord] at hrecord'
      cases hrecord'
      rfl

instance : SteadyStore RecordStore where
  trackingIds_empty := rfl
  history_empty _ := rfl
  find_time _ _ now now' := unstamped_find_congr rfl rfl now now'
  trackingId_of_find_store h := trackingId_of_find h
  route_of_find_store := route_of_find_store
  history_append_of_ne := history_append_of_ne
  history_of_append := history_of_append
  find_append_of_readable hfind hhistory := by
    obtain ⟨record, spec, itinerary, _, hrecord, hspec, hitinerary, _, rfl⟩ :=
      find_eq_ok_iff.mp hfind
    exact ⟨_, find_eq_ok_iff.mpr
      ⟨record, spec, itinerary, _, hrecord, hspec, hitinerary, hhistory, rfl⟩⟩
  find_of_append h := by
    obtain ⟨record, spec, itinerary, _, hrecord, hspec, hitinerary, hhistory, rfl⟩ :=
      find_eq_ok_iff.mp h
    obtain ⟨before, hbefore, -⟩ := history_of_append hhistory
    exact ⟨_, find_eq_ok_iff.mpr
      ⟨record, spec, itinerary, before, hrecord, hspec, hitinerary, hbefore, rfl⟩⟩

end RecordStore

end CargoTracking
