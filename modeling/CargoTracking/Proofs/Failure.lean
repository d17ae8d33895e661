import CargoTracking.Proofs.Scripts
import CargoTracking.Proofs.Stores

/-!
# A failure changes nothing

Nothing is undone when an operation fails, so what it changes must come after all that can fail.
Once a cargo has been found, its history is readable, an event that is added to it is readable too,
and the cargo can be found again after it was stored.  This holds for any contents of a store.
-/

namespace CargoTracking

open CargoStore

variable {σ α β : Type}

/-- The second world differs from the first in its log at most. -/
def World.Untouched (before after : World σ) : Prop :=
  after.store = before.store ∧ after.notices = before.notices

def Service.AllOrNothing (service : Service σ α) : Prop :=
  ∀ world e world', service.on world = (.error e, world') → world.Untouched world'

def Script.AllOrNothing (script : Script σ α) : Prop :=
  ∀ terminal message terminal', script.on terminal = (.error message, terminal') →
    terminal.world.Untouched terminal'.world

theorem World.untouched_refl (world : World σ) : world.Untouched world := ⟨rfl, rfl⟩

/-- An operation that only reads fails without a change. -/
theorem Service.allOrNothing_of_on_eq {service : Service σ α} {result : World σ → Except Error α}
    (h : ∀ world, service.on world = (result world, world)) : service.AllOrNothing := by
  intro world e world' hfail
  rw [h] at hfail
  rw [← (Prod.mk.inj hfail).2]
  exact world.untouched_refl

section Stores

variable [CargoStore σ] [LawfulStore σ]

theorem exists_find_store {store : σ} {id : TrackingId} {now : Instant} {cargo : Cargo}
    (h : find store id now = .ok cargo) (stored : Cargo) :
    ∃ cargo', find (CargoStore.store store stored) id now = .ok cargo' := by
  by_cases hid : stored.trackingId = id
  · -- The new record is readable, and so was the history.
    subst hid
    obtain ⟨reports, hhistory⟩ := LawfulStore.history_of_find h
    exact LawfulStore.find_store_self hhistory now
  · rw [LawfulStore.find_store_of_ne hid]
    exact ⟨cargo, h⟩

/-- The history of a cargo that was found is readable, also with an event that is added to it. -/
theorem exists_history_extended {store : σ} {id : TrackingId} {now : Instant} {cargo : Cargo}
    {event : Option HandlingEvent} (hkind : ∀ e ∈ event, e.activity.kind ≠ .notHandled)
    (h : find store id now = .ok cargo) :
    ∃ reports, history (Inspection.extended store event) id = .ok reports := by
  obtain ⟨reports, hhistory⟩ := LawfulStore.history_of_find h
  cases event with
  | none => exact ⟨reports, hhistory⟩
  | some event =>
    -- The event is readable, whether it is one of this cargo or not.
    have happend := LawfulStore.history_append (hkind event rfl) store id
    rw [hhistory] at happend
    show ∃ reports', history (append store event) id = .ok reports'
    rw [happend]
    by_cases hid : event.trackingId = id
    · exact ⟨_, if_pos hid⟩
    · exact ⟨_, if_neg hid⟩

end Stores

/-! ## Operations -/

section Operations

variable [CargoStore σ]

namespace Booking

theorem book_allOrNothing (directory : Directory) (now : Instant) (fresh : TrackingId)
    (origin destination : UnLocode) (deadline : Option Instant) :
    (book directory now fresh origin destination deadline : Service σ TrackingId).AllOrNothing := by
  intro world e world' hfail
  rw [book_on] at hfail
  cases hspec : specification directory origin destination deadline with
  | error e =>
    rw [hspec] at hfail
    cases hfail
    exact world.untouched_refl
  | ok spec => rw [hspec] at hfail; cases hfail

theorem cargos_allOrNothing (now : Instant) :
    (cargos now : Service σ (List BookedCargo)).AllOrNothing :=
  Service.allOrNothing_of_on_eq (cargos_on now)

/-- An assignment fails without a change, or it has found the cargo and stores it. -/
theorem assign_cases (now : Instant) (id : TrackingId) (itinerary : Itinerary) (world : World σ) :
    (∃ e, (assign now id itinerary).on world = (.error e, world)) ∨
    ∃ cargo world', id.isEmpty = false ∧ find world.store id now = .ok cargo ∧
      (assign now id itinerary).on world = (.ok (), world') ∧
      world'.store = CargoStore.store world.store (cargo.assign itinerary now) := by
  rw [assign_on]
  by_cases hempty : id.isEmpty || itinerary.isEmpty
  · rw [if_pos hempty]
    exact .inl ⟨_, rfl⟩
  · rw [if_neg hempty]
    rw [Bool.or_eq_true, not_or, Bool.not_eq_true] at hempty
    cases find world.store id now with
    | error e => exact .inl ⟨e, rfl⟩
    | ok cargo => exact .inr ⟨cargo, _, hempty.1, rfl, rfl, rfl⟩

theorem assign_allOrNothing (now : Instant) (id : TrackingId) (itinerary : Itinerary) :
    (assign now id itinerary : Service σ Unit).AllOrNothing := by
  intro world e world' hfail
  rcases assign_cases now id itinerary world with ⟨_, hassign⟩ | ⟨_, _, -, -, hassign, -⟩
  · rw [hassign] at hfail
    cases hfail
    exact world.untouched_refl
  · rw [hassign] at hfail
    cases hfail

/-- Another destination is refused without a change, or the cargo was found and is stored. -/
theorem changeDestination_cases (directory : Directory) (now : Instant) (id : TrackingId)
    (destination : UnLocode) (world : World σ) :
    (∃ e, (changeDestination directory now id destination).on world = (.error e, world)) ∨
    ∃ cargo location world', id.isEmpty = false ∧ find world.store id now = .ok cargo ∧
      (changeDestination directory now id destination).on world = (.ok (), world') ∧
      world'.store = CargoStore.store world.store (cargo.redirect location now) := by
  rw [changeDestination_on]
  by_cases hempty : id.isEmpty || destination.isEmpty
  · rw [if_pos hempty]
    exact .inl ⟨_, rfl⟩
  · rw [if_neg hempty]
    rw [Bool.or_eq_true, not_or, Bool.not_eq_true] at hempty
    cases find world.store id now with
    | error e => exact .inl ⟨e, rfl⟩
    | ok cargo =>
      cases directory.findLocation destination with
      | error e => exact .inl ⟨e, rfl⟩
      | ok location => exact .inr ⟨cargo, location.unLocode, _, hempty.1, rfl, rfl, rfl⟩

theorem changeDestination_allOrNothing (directory : Directory) (now : Instant) (id : TrackingId)
    (destination : UnLocode) :
    (changeDestination directory now id destination : Service σ Unit).AllOrNothing := by
  intro world e world' hfail
  rcases changeDestination_cases directory now id destination world with
    ⟨_, hchange⟩ | ⟨_, _, _, -, -, hchange, -⟩
  · rw [hchange] at hfail
    cases hfail
    exact world.untouched_refl
  · rw [hchange] at hfail
    cases hfail

end Booking

theorem Tracking.track_allOrNothing (now : Instant) (id : TrackingId) :
    (track now id : Service σ TrackedCargo).AllOrNothing :=
  Service.allOrNothing_of_on_eq (track_on now id)

/-- An inspection fails without a change, or it has found the cargo and stores it with the delivery
that its history gives. -/
theorem Inspection.inspectAfter_cases [LawfulStore σ] (now : Instant) (id : TrackingId)
    {event : Option HandlingEvent} (hkind : ∀ e ∈ event, e.activity.kind ≠ .notHandled)
    (world : World σ) :
    (∃ e, find world.store id now = .error e ∧
      (inspectAfter now id event).on world = (.error e, world)) ∨
    ∃ cargo reports world', find world.store id now = .ok cargo ∧
      history (extended world.store event) id = .ok reports ∧
      (inspectAfter now id event).on world = (.ok (), world') ∧
      world'.store =
        CargoStore.store (extended world.store event) (cargo.deriveFrom reports now) ∧
      world'.notices =
        world.notices ++ notices cargo.delivery (cargo.deriveFrom reports now) := by
  rw [inspectAfter_on]
  cases hfind : find world.store id now with
  | error e => exact .inl ⟨e, rfl, rfl⟩
  | ok cargo =>
    -- The event is in the store by now, so this reading must not fail.
    obtain ⟨reports, hhistory⟩ := exists_history_extended hkind hfind
    dsimp only
    rw [hhistory]
    exact .inr ⟨cargo, reports, _, rfl, rfl, rfl, rfl, rfl⟩

theorem HandlingEvent.handled_some {event : HandlingEvent} (h : event.activity.kind ≠ .notHandled) :
    ∀ e ∈ some event, e.activity.kind ≠ .notHandled := by
  intro e he
  rw [← Option.some.inj he]
  exact h

theorem Inspection.record_allOrNothing [LawfulStore σ] (now : Instant) {event : HandlingEvent}
    (hkind : event.activity.kind ≠ .notHandled) :
    (record now event : Service σ Unit).AllOrNothing := by
  intro world e world' hfail
  rw [record] at hfail
  rcases inspectAfter_cases now event.trackingId (HandlingEvent.handled_some hkind) world with
    ⟨_, -, hrecord⟩ | ⟨_, _, _, -, -, hrecord, -, -⟩
  · rw [hrecord] at hfail
    cases hfail
    exact world.untouched_refl
  · rw [hrecord] at hfail
    cases hfail

/-- A report that is complete has an id, a location and a kind. -/
theorem Report.of_completion {report : Report} {completedAt : Instant}
    (h : report.completion = .ok completedAt) :
    report.trackingId.isEmpty = false ∧ report.location.isEmpty = false ∧
      report.kind ≠ .notHandled := by
  unfold completion at h
  cases htime : report.completedAt with
  | none => rw [htime] at h; cases h
  | some time =>
    rw [htime] at h
    dsimp only at h
    by_cases hempty : report.trackingId.isEmpty || report.location.isEmpty
    · rw [if_pos hempty] at h; cases h
    · by_cases hkind : report.kind = .notHandled
      · rw [if_neg hempty, if_pos hkind] at h; cases h
      · rw [Bool.or_eq_true, not_or, Bool.not_eq_true, Bool.not_eq_true] at hempty
        exact ⟨hempty.1, hempty.2, hkind⟩

theorem Registration.kind_of_event {directory : Directory} {now registeredAt completedAt : Instant}
    {report : Report} {store : σ} {event : HandlingEvent}
    (h : Registration.event directory now registeredAt completedAt report store = .ok event) :
    event.activity.kind = report.kind := by
  obtain ⟨_, _, -, hdone, rfl⟩ := exists_of_event h
  obtain ⟨_, _, -, -, rfl⟩ := exists_of_activity hdone
  rfl

/-- A complete report is never of the kind that means no event. -/
theorem Registration.handled_of_event {directory : Directory}
    {now registeredAt time completedAt : Instant} {report : Report} {store : σ}
    {event : HandlingEvent} (hcompletion : report.completion = .ok time)
    (hevent : Registration.event directory now registeredAt completedAt report store = .ok event) :
    event.activity.kind ≠ .notHandled := by
  rw [kind_of_event hevent]
  exact (Report.of_completion hcompletion).2.2

/-- A registration fails with a line in the log at most, or it records an event of a cargo that was
found. -/
theorem Registration.register_cases [LawfulStore σ] (directory : Directory) (now : Instant)
    (report : Report) (world : World σ) :
    (∃ e world', (register directory now report).on world = (.error e, world') ∧
      world.Untouched world') ∨
    ∃ cargo event world' world'', report.trackingId.isEmpty = false ∧
      event.activity.kind ≠ .notHandled ∧ find world.store report.trackingId now = .ok cargo ∧
      (Inspection.record now event).on world = (.ok (), world') ∧
      (register directory now report).on world = (.ok (), world'') ∧
      world''.store = world'.store := by
  rw [register_on]
  cases hcompletion : report.completion with
  | error fault => exact .inl ⟨_, _, rfl, rfl, rfl⟩
  | ok completedAt =>
    dsimp only
    cases hevent : event directory now now completedAt report world.store with
    | error cause => exact .inl ⟨_, _, rfl, rfl, rfl⟩
    | ok event =>
      have hkind := handled_of_event hcompletion hevent
      dsimp only
      -- The inspection may fail, but only before it has changed anything.
      rcases hrecord : (Inspection.record now event).on world with ⟨e | _, after⟩
      · exact .inl ⟨e, after, rfl, Inspection.record_allOrNothing now hkind world _ _ hrecord⟩
      · obtain ⟨cargo, _, hfind, -, -⟩ := exists_of_event hevent
        exact .inr ⟨cargo, event, after, _, (Report.of_completion hcompletion).1, hkind, hfind,
          hrecord, rfl, rfl⟩

theorem Registration.register_allOrNothing [LawfulStore σ] (directory : Directory) (now : Instant)
    (report : Report) : (register directory now report : Service σ Unit).AllOrNothing := by
  intro world e world' hfail
  rcases register_cases directory now report world with
    ⟨_, _, hregister, huntouched⟩ | ⟨_, _, _, _, -, -, -, -, hregister, -⟩
  · rw [hregister] at hfail
    cases hfail
    exact huntouched
  · rw [hregister] at hfail
    cases hfail

/-! A cargo that an operation has changed can be found again. -/

theorem Booking.find_after_assign [LawfulStore σ] {now : Instant} {id : TrackingId}
    {itinerary : Itinerary} {world world' : World σ}
    (h : (assign now id itinerary).on world = (.ok (), world')) :
    id.isEmpty = false ∧ ∃ cargo, find world'.store id now = .ok cargo := by
  rcases assign_cases now id itinerary world with
    ⟨_, hassign⟩ | ⟨cargo, _, hid, hfind, hassign, hstore⟩
  · rw [hassign] at h
    cases h
  · rw [hassign] at h
    cases h
    rw [hstore]
    exact ⟨hid, exists_find_store hfind _⟩

theorem Booking.find_after_changeDestination [LawfulStore σ] {directory : Directory} {now : Instant}
    {id : TrackingId} {destination : UnLocode} {world world' : World σ}
    (h : (changeDestination directory now id destination).on world = (.ok (), world')) :
    id.isEmpty = false ∧ ∃ cargo, find world'.store id now = .ok cargo := by
  rcases changeDestination_cases directory now id destination world with
    ⟨_, hchange⟩ | ⟨cargo, location, _, hid, hfind, hchange, hstore⟩
  · rw [hchange] at h
    cases h
  · rw [hchange] at h
    cases h
    rw [hstore]
    exact ⟨hid, exists_find_store hfind _⟩

theorem Inspection.find_after_record [LawfulStore σ] {now : Instant} {event : HandlingEvent}
    {id : TrackingId} {cargo : Cargo} {world world' : World σ}
    (hkind : event.activity.kind ≠ .notHandled) (hfind : find world.store id now = .ok cargo)
    (h : (record now event).on world = (.ok (), world')) :
    ∃ cargo', find world'.store id now = .ok cargo' := by
  rw [record] at h
  rcases inspectAfter_cases now event.trackingId (HandlingEvent.handled_some hkind) world with
    ⟨_, -, hrecord⟩ | ⟨_, _, _, -, -, hrecord, hstore, -⟩
  · rw [hrecord] at h
    cases h
  · rw [hrecord] at h
    cases h
    -- First the event was added, then the cargo of the event stored.
    obtain ⟨delivery, hfind'⟩ := LawfulStore.find_append hkind hfind
    rw [hstore]
    exact exists_find_store hfind' _

theorem Registration.find_after_register [LawfulStore σ] {directory : Directory} {now : Instant}
    {report : Report} {world world' : World σ}
    (h : (register directory now report).on world = (.ok (), world')) :
    report.trackingId.isEmpty = false ∧
      ∃ cargo, find world'.store report.trackingId now = .ok cargo := by
  rcases register_cases directory now report world with
    ⟨_, _, hregister, -⟩ | ⟨cargo, event, _, _, hid, hkind, hfind, hrecord, hregister, hstore⟩
  · rw [hregister] at h
    cases h
  · rw [hregister] at h
    cases h
    rw [hstore]
    exact ⟨hid, Inspection.find_after_record hkind hfind hrecord⟩

theorem Booking.load_of_find {now : Instant} {id : TrackingId} {cargo : Cargo} {world : World σ}
    (hid : id.isEmpty = false) (hfind : find world.store id now = .ok cargo) :
    (load now id).on world = (.ok (.of cargo), world) := by
  rw [load_on, if_neg (Bool.eq_false_iff.mp hid), hfind]
  rfl

theorem Tracking.track_of_find [LawfulStore σ] {now : Instant} {id : TrackingId} {cargo : Cargo}
    {world : World σ} (hid : id.isEmpty = false) (hfind : find world.store id now = .ok cargo) :
    ∃ tracked, (track now id).on world = (.ok tracked, world) := by
  obtain ⟨reports, hhistory⟩ := LawfulStore.history_of_find hfind
  refine ⟨.of cargo reports, ?_⟩
  rw [track_on, if_neg (Bool.eq_false_iff.mp hid), hfind, hhistory]

end Operations

/-! ## Commands -/

namespace Script

theorem allOrNothing_throw (message : String) : (throw message : Script σ α).AllOrNothing := by
  intro terminal _ _ hfail
  cases hfail
  exact terminal.world.untouched_refl

theorem Succeeds.allOrNothing {script : Script σ α} (h : script.Succeeds) : script.AllOrNothing := by
  intro terminal message terminal' hfail
  obtain ⟨_, _, hok⟩ := h terminal
  rw [hok] at hfail
  cases hfail

/-- The script fails with the operation, and otherwise only shows what the operation has done. -/
structure Wraps (script : Script σ Unit) (service : Service σ α) : Prop where
  fails {terminal : Terminal σ} {e : Error} {world : World σ}
    (h : service.on terminal.world = (.error e, world)) :
    ∃ message terminal', script.on terminal = (.error message, terminal') ∧ terminal'.world = world
  succeeds {terminal : Terminal σ} {a : α} {world : World σ}
    (h : service.on terminal.world = (.ok a, world)) :
    ∃ terminal', script.on terminal = (.ok (), terminal') ∧ terminal'.world.store = world.store

theorem wraps_attempt_bind {failure : String} {service : Service σ α} {next : α → Script σ Unit}
    (hnext : ∀ {terminal : Terminal σ} {a world}, service.on terminal.world = (.ok a, world) →
      ∃ u terminal', (next a).on { terminal with world } = (.ok u, terminal'))
    (hkeeps : ∀ a, (next a).KeepsStore) : (attempt failure service >>= next).Wraps service where
  fails h := by
    rw [on_bind, on_attempt, h]
    exact ⟨_, _, rfl, rfl⟩
  succeeds {terminal a world} h := by
    obtain ⟨_, terminal', hok⟩ := hnext h
    have hstore := hkeeps a { terminal with world }
    rw [on_bind, on_attempt, h]
    rw [hok] at hstore
    exact ⟨terminal', hok, hstore⟩

theorem Wraps.allOrNothing {script : Script σ Unit} {service : Service σ α} (h : script.Wraps service)
    (hservice : service.AllOrNothing) : script.AllOrNothing := by
  intro terminal message terminal' hfail
  rcases hoperation : service.on terminal.world with ⟨e | a, world⟩
  · obtain ⟨_, _, hscript, rfl⟩ := h.fails hoperation
    rw [hscript] at hfail
    cases hfail
    exact hservice _ _ _ hoperation
  · obtain ⟨_, hscript, -⟩ := h.succeeds hoperation
    rw [hscript] at hfail
    cases hfail

theorem exists_attempt_bind {failure : String} {service : Service σ α} {next : α → Script σ β}
    {terminal : Terminal σ} {a : α} {world : World σ}
    (h : service.on terminal.world = (.ok a, world)) (hnext : (next a).Succeeds) :
    ∃ b terminal', (attempt failure service >>= next).on terminal = (.ok b, terminal') := by
  rw [on_bind, on_attempt, h]
  exact hnext _

theorem allOrNothing_resolve_bind [CargoStore σ] {reference : String}
    {next : TrackingId → Script σ Unit} (h : ∀ id, (next id).AllOrNothing) :
    (resolveCargo reference >>= next).AllOrNothing := by
  intro terminal message terminal' hfail
  rw [on_bind, on_resolveCargo] at hfail
  cases hresolve : resolve (trackingIds terminal.world.store) reference with
  | error fault =>
    rw [hresolve] at hfail
    cases hfail
    exact terminal.world.untouched_refl
  | ok id =>
    rw [hresolve] at hfail
    exact h id _ _ _ hfail

end Script

namespace Command

open Script

variable [CargoStore σ]

theorem runBook_wraps (directory : Directory) (now : Instant) (fresh : TrackingId)
    (origin destination : String) (deadline : Instant) :
    (runBook directory now fresh origin destination deadline : Script σ Unit).Wraps
      (Booking.book directory now fresh ⟨normalized origin⟩ ⟨normalized destination⟩ (some deadline)) :=
  wraps_attempt_bind (fun _ => succeeds_output _ _) fun _ => keepsStore_output _

theorem runList_wraps (now : Instant) :
    (runList now : Script σ Unit).Wraps (Booking.cargos now) := by
  apply wraps_attempt_bind
  · intro terminal cargos world _
    have hlines : (cargos.forM fun cargo => output cargo.display : Script σ Unit).Succeeds :=
      succeeds_forM (fun _ => succeeds_output _) cargos
    by_cases hempty : cargos.isEmpty
    · rw [if_pos hempty]
      exact ((succeeds_output _).bind fun _ => hlines) _
    · rw [if_neg hempty]
      exact hlines _
  · intro cargos
    have hlines : (cargos.forM fun cargo => output cargo.display : Script σ Unit).KeepsStore :=
      keepsStore_forM (fun _ => keepsStore_output _) cargos
    by_cases hempty : cargos.isEmpty
    · rw [if_pos hempty]
      exact (keepsStore_output _).bind fun _ => hlines
    · rw [if_neg hempty]
      exact hlines

omit [CargoStore σ] in
theorem runLocations_allOrNothing (directory : Directory) :
    (runLocations directory : Script σ Unit).AllOrNothing :=
  (succeeds_forM (fun _ => succeeds_output _) _).allOrNothing

theorem runTrack_wraps (now : Instant) (id : TrackingId) (json : Bool) :
    (runTrack now id json : Script σ Unit).Wraps (Tracking.track now id) := by
  apply wraps_attempt_bind
  · intro terminal tracked world _
    cases json with
    | true => exact succeeds_output _ _
    | false => exact succeeds_forM (fun _ => succeeds_output _) _ _
  · intro tracked
    cases json with
    | true => exact keepsStore_output _
    | false => exact keepsStore_forM (fun _ => keepsStore_output _) _

/-! After an operation that changes a cargo, the cargo is loaded once more to be shown, and it is
there. -/

theorem load_keepsStore {failure : String} (now : Instant) (id : TrackingId) :
    (attempt failure (Booking.load now id) : Script σ BookedCargo).KeepsStore :=
  keepsStore_attempt fun world => by rw [Booking.load_on]

theorem runRoute_wraps [LawfulStore σ] (now : Instant) (id : TrackingId) (legs : List Leg) :
    (runRoute now id legs : Script σ Unit).Wraps (Booking.assign now id ⟨legs⟩) := by
  apply wraps_attempt_bind
  · intro terminal _ world hassign
    obtain ⟨hid, cargo, hfind⟩ := Booking.find_after_assign hassign
    apply exists_attempt_bind (Booking.load_of_find hid hfind)
    apply (succeeds_diagnose _).bind
    intro _
    apply (succeeds_forM (fun _ => succeeds_diagnose _) _).bind
    intro _
    exact succeeds_when (succeeds_diagnose _)
  · intro _
    apply (load_keepsStore now id).bind
    intro _
    apply (keepsStore_diagnose _).bind
    intro _
    apply (keepsStore_forM (fun _ => keepsStore_diagnose _) _).bind
    intro _
    exact keepsStore_when (keepsStore_diagnose _)

theorem runReroute_wraps [LawfulStore σ] (directory : Directory) (now : Instant) (id : TrackingId)
    (destination : String) :
    (runReroute directory now id destination : Script σ Unit).Wraps
      (Booking.changeDestination directory now id ⟨normalized destination⟩) := by
  apply wraps_attempt_bind
  · intro terminal _ world hchange
    obtain ⟨hid, cargo, hfind⟩ := Booking.find_after_changeDestination hchange
    apply exists_attempt_bind (Booking.load_of_find hid hfind)
    apply (succeeds_diagnose _).bind
    intro _
    exact succeeds_when (succeeds_diagnose _)
  · intro _
    apply (load_keepsStore now id).bind
    intro _
    apply (keepsStore_diagnose _).bind
    intro _
    exact keepsStore_when (keepsStore_diagnose _)

theorem runHandle_wraps [LawfulStore σ] (directory : Directory) (now : Instant) (id : TrackingId)
    {event : String} (location : String) {voyage : Option String} (completed : Option Instant)
    (hkind : EventKind.ofName event ≠ .notHandled)
    (hvoyage : ((EventKind.ofName event).requiresVoyage && normalized (voyage.getD "") = "") = false) :
    (runHandle directory now id event location voyage completed : Script σ Unit).Wraps
      (Registration.register directory now
        { trackingId := id, kind := EventKind.ofName event, location := ⟨normalized location⟩
          voyageNumber := ⟨normalized (voyage.getD "")⟩, completedAt := some (completed.getD now) }) := by
  unfold runHandle
  rw [if_neg hkind, if_neg (Bool.eq_false_iff.mp hvoyage)]
  apply wraps_attempt_bind
  · intro terminal _ world hregister
    -- Looking the cargo up again, with its history, cannot fail after the registration.
    obtain ⟨hid, cargo, hfind⟩ := Registration.find_after_register hregister
    obtain ⟨tracked, htrack⟩ := Tracking.track_of_find hid hfind
    apply exists_attempt_bind htrack
    apply (succeeds_diagnose _).bind
    intro _
    apply (succeeds_diagnose _).bind
    intro _
    exact succeeds_when (succeeds_diagnose _)
  · intro _
    have htrack : (attempt "failed to track cargo" (Tracking.track now id) :
        Script σ TrackedCargo).KeepsStore :=
      keepsStore_attempt fun world => by rw [Tracking.track_on]
    apply htrack.bind
    intro _
    apply (keepsStore_diagnose _).bind
    intro _
    apply (keepsStore_diagnose _).bind
    intro _
    exact keepsStore_when (keepsStore_diagnose _)

theorem runHandle_allOrNothing [LawfulStore σ] (directory : Directory) (now : Instant)
    (id : TrackingId) (event location : String) (voyage : Option String)
    (completed : Option Instant) :
    (runHandle directory now id event location voyage completed : Script σ Unit).AllOrNothing := by
  by_cases hkind : EventKind.ofName event = .notHandled
  · unfold runHandle
    rw [if_pos hkind]
    exact allOrNothing_throw _
  · by_cases hvoyage : (EventKind.ofName event).requiresVoyage && normalized (voyage.getD "") = ""
    · unfold runHandle
      rw [if_neg hkind, if_pos hvoyage]
      exact allOrNothing_throw _
    · exact (runHandle_wraps directory now id location completed hkind
        (Bool.eq_false_iff.mpr hvoyage)).allOrNothing (Registration.register_allOrNothing directory now _)

theorem run_allOrNothing [LawfulStore σ] (directory : Directory) (now : Instant)
    (fresh : TrackingId) (command : Command) :
    (command.run directory now fresh : Script σ Unit).AllOrNothing := by
  cases command with
  | book origin destination deadline =>
    exact (runBook_wraps directory now fresh origin destination deadline).allOrNothing
      (Booking.book_allOrNothing directory now fresh _ _ _)
  | list => exact (runList_wraps now).allOrNothing (Booking.cargos_allOrNothing now)
  | locations => exact runLocations_allOrNothing directory
  | route cargo legs =>
    exact allOrNothing_resolve_bind fun id =>
      (runRoute_wraps now id legs).allOrNothing (Booking.assign_allOrNothing now id ⟨legs⟩)
  | reroute cargo destination =>
    exact allOrNothing_resolve_bind fun id =>
      (runReroute_wraps directory now id destination).allOrNothing
        (Booking.changeDestination_allOrNothing directory now id _)
  | handle cargo event location voyage completed =>
    exact allOrNothing_resolve_bind fun id =>
      runHandle_allOrNothing directory now id event location voyage completed
  | track cargo json =>
    exact allOrNothing_resolve_bind fun id =>
      (runTrack_wraps now id json).allOrNothing (Tracking.track_allOrNothing now id)

end Command

/-! ## Both stores -/

structure OperationsAllOrNothing (σ : Type) [CargoStore σ] (directory : Directory) (now : Instant) :
    Prop where
  book : ∀ (fresh : TrackingId) (origin destination : UnLocode) (deadline : Option Instant),
    (Booking.book directory now fresh origin destination deadline :
      Service σ TrackingId).AllOrNothing
  assign : ∀ (id : TrackingId) (itinerary : Itinerary),
    (Booking.assign now id itinerary : Service σ Unit).AllOrNothing
  changeDestination : ∀ (id : TrackingId) (destination : UnLocode),
    (Booking.changeDestination directory now id destination : Service σ Unit).AllOrNothing
  register : ∀ report : Report,
    (Registration.register directory now report : Service σ Unit).AllOrNothing

theorem operationsAllOrNothing (σ : Type) [CargoStore σ] [LawfulStore σ] (directory : Directory)
    (now : Instant) : OperationsAllOrNothing σ directory now where
  book := Booking.book_allOrNothing directory now
  assign := Booking.assign_allOrNothing now
  changeDestination := Booking.changeDestination_allOrNothing directory now
  register := Registration.register_allOrNothing directory now

/-- Whatever a store holds and whatever the arguments are, an operation or a command that fails
leaves every cargo, leg and event as it was, and tells nobody anything. -/
theorem failure_changes_nothing (directory : Directory) (now : Instant) :
    OperationsAllOrNothing MemoryStore directory now ∧
      OperationsAllOrNothing RecordStore directory now ∧
      ∀ (fresh : TrackingId) (command : Command),
        (command.run directory now fresh : Script RecordStore Unit).AllOrNothing :=
  ⟨operationsAllOrNothing MemoryStore directory now,
    operationsAllOrNothing RecordStore directory now,
    fun fresh command => Command.run_allOrNothing directory now fresh command⟩

/-- A cargo with a record that stands for no event. -/
def unreadableStore : RecordStore where
  cargos := (∅ : Std.TreeMap TrackingId CargoRecord).insert ⟨"ABC"⟩
    ⟨"CNHKG", "CNHKG", "SESTO", none, ∅⟩
  events := [⟨"ABC", "Lost", "CNHKG", none, "", ""⟩]

/-- There are failures with something to be changed: here the history cannot be read. -/
example : ((Registration.register .sample (march2009 1)
    ⟨⟨"ABC"⟩, .receive, ⟨"CNHKG"⟩, ⟨""⟩, some (march2009 1)⟩).perform unreadableStore).result =
      .error (.corruptRecord (.eventKind "Lost")) := by
  cbv

end CargoTracking
