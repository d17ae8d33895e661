import CargoTracking.Proofs.Calls
import CargoTracking.Proofs.Steadiness

/-!
# Effects of calls

All that a call of the services can do to a store and tell, in five cases.  A call is about one
cargo at most: it stores that cargo under a new plan, or adds an event to its history and stores it
with the delivery derived from it.  Notices come from the latter only.
-/

namespace CargoTracking

open CargoStore Inspection

namespace Call

/-- The cargo that the call is about; the list of all cargos is about none. -/
def about : Call → Option TrackingId
  | book fresh .. => some fresh
  | cargos => none
  | register report => some report.trackingId
  | record event => some event.trackingId
  | load id | possibleRoutes _ id | assign id _ | changeDestination id _ | inspect id | track id =>
    some id

/-- The id that the call books. -/
def booked? : Call → Option TrackingId
  | book fresh .. => some fresh
  | _ => none

/-- The call makes or changes the plan of the cargo. -/
def Plans (id : TrackingId) : Call → Prop
  | book fresh .. => fresh = id
  | assign cargo _ => cargo = id
  | changeDestination cargo _ => cargo = id
  | _ => False

/-- The call inspects the cargo, after it has added the event, if there is one. -/
inductive Inspects : Call → TrackingId → Option HandlingEvent → Prop
  | inspect (id : TrackingId) : Inspects (.inspect id) id none
  | record (event : HandlingEvent) : Inspects (.record event) event.trackingId (some event)
  | register {report : Report} {event : HandlingEvent}
      (complete : report.completion = .ok event.completedAt)
      (owner : event.trackingId = report.trackingId)
      (kind : event.activity.kind = report.kind) :
      Inspects (.register report) report.trackingId (some event)

theorem Plans.about_eq {call : Call} {id : TrackingId} (h : call.Plans id) :
    call.about = some id := by
  cases call with
  | book fresh => exact congrArg some h
  | assign cargo => exact congrArg some h
  | changeDestination cargo => exact congrArg some h
  | _ => cases h

theorem Inspects.about_eq {call : Call} {id : TrackingId} {event : Option HandlingEvent}
    (h : call.Inspects id event) : call.about = some id := by
  cases h <;> rfl

theorem Inspects.owner {call : Call} {id : TrackingId} {event : HandlingEvent}
    (h : call.Inspects id (some event)) : event.trackingId = id := by
  cases h with
  | record => rfl
  | register _ howner _ => exact howner

theorem Inspects.ne_of_about {call : Call} {id other : TrackingId} {event : Option HandlingEvent}
    (h : call.Inspects other event) (habout : call.about ≠ some id) :
    ∀ e ∈ event, e.trackingId ≠ id := by
  intro e he heq
  cases he
  exact habout (h.about_eq.trans (congrArg some (h.owner.symm.trans heq)))

end Call

/-- Every cargo is found under its own id. -/
structure Keyed {σ : Type} [CargoStore σ] (store : σ) : Prop where
  trackingId : ∀ {id now cargo}, find store id now = .ok cargo → cargo.trackingId = id

theorem RecordStore.keyed (store : RecordStore) : Keyed store := ⟨trackingId_of_find⟩

/-- The cargo under another plan, with the same last event. -/
def Cargo.replan (cargo : Cargo) (spec : RouteSpecification) (itinerary : Itinerary)
    (now : Instant) : Cargo :=
  { cargo with
    routeSpecification := spec
    itinerary
    delivery := cargo.delivery.updateOnRouting spec itinerary now }

/-- The store after a call on a store, and what the call tells. -/
inductive Effect {σ : Type} [CargoStore σ] (now : Instant) (store : σ) :
    Call → σ → List Notice → Prop
  | silent (call : Call) : Effect now store call store []
  | booked (fresh : TrackingId) (origin destination : UnLocode) (deadline : Option Instant)
      (spec : RouteSpecification) :
      Effect now store (.book fresh origin destination deadline)
        (CargoStore.store store (.book fresh spec now)) []
  | planned {call : Call} {id : TrackingId} {cargo : Cargo} (plans : call.Plans id)
      (found : find store id now = .ok cargo) (spec : RouteSpecification) (itinerary : Itinerary) :
      Effect now store call (CargoStore.store store (cargo.replan spec itinerary now)) []
  | inspected {call : Call} {id : TrackingId} {event : Option HandlingEvent} {cargo : Cargo}
      {reports : History} (inspects : call.Inspects id event)
      (found : find store id now = .ok cargo)
      (read : history (extended store event) id = .ok reports) :
      Effect now store call (commit store event (cargo.deriveFrom reports now))
        (notices cargo.delivery (cargo.deriveFrom reports now))
  -- The event was added, and what was added is not taken back.
  | unreadable {call : Call} {id : TrackingId} {event : Option HandlingEvent} {cargo : Cargo}
      {e : Error} (inspects : call.Inspects id event) (found : find store id now = .ok cargo)
      (unread : history (extended store event) id = .error e) :
      Effect now store call (extended store event) []

namespace Call

variable {σ : Type} [CargoStore σ]

def after (directory : Directory) (now : Instant) (call : Call) (store : σ) : σ :=
  ((call.serve directory now).perform store).world.store

def told (directory : Directory) (now : Instant) (call : Call) (store : σ) : List Notice :=
  ((call.serve directory now).perform store).world.notices

section Serve

variable (directory : Directory) (now : Instant) (store : σ)

theorem effect_of_describes {call : Call}
    (h : (call.reply directory now store).Describes { store }
      ((call.serve directory now).on { store }))
    (heffect : Effect now store call ((call.reply directory now store).applied store)
      (call.reply directory now store).notices) :
    Effect now store call (call.after directory now store) (call.told directory now store) := by
  rw [after, told, Service.perform_eq_on, h.store, h.notices]
  exact heffect

theorem effect_assign (id : TrackingId) (itinerary : Itinerary) :
    Effect now store (assign id itinerary) ((assign id itinerary).after directory now store)
      ((assign id itinerary).told directory now store) := by
  apply effect_of_describes directory now store
    (describes_assign directory now { store } id itinerary)
  rw [reply]
  by_cases hempty : id.isEmpty || itinerary.isEmpty
  · rw [if_pos hempty]
    exact .silent _
  · rw [if_neg hempty]
    cases hfind : find store id now with
    | error e => exact .silent _
    | ok cargo =>
      have hplans : (assign id itinerary).Plans id := rfl
      exact .planned hplans hfind cargo.routeSpecification itinerary

theorem effect_changeDestination (id : TrackingId) (destination : UnLocode) :
    Effect now store (changeDestination id destination)
      ((changeDestination id destination).after directory now store)
      ((changeDestination id destination).told directory now store) := by
  apply effect_of_describes directory now store
    (describes_changeDestination directory now { store } id destination)
  rw [reply]
  by_cases hempty : id.isEmpty || destination.isEmpty
  · rw [if_pos hempty]
    exact .silent _
  · rw [if_neg hempty]
    cases hfind : find store id now with
    | error e => exact .silent _
    | ok cargo =>
      cases directory.findLocation destination with
      | error e => exact .silent _
      | ok location =>
        have hplans : (changeDestination id destination).Plans id := rfl
        exact .planned hplans hfind _ cargo.itinerary

theorem effect_inspection {call : Call} {id : TrackingId} {event : Option HandlingEvent}
    (h : call.Inspects id event) :
    Effect now store call ((inspection now store id event).applied store)
      (inspection now store id event).notices := by
  unfold inspection
  cases hfind : find store id now with
  | error e => exact .silent call
  | ok cargo =>
    dsimp only
    cases hhistory : history (extended store event) id with
    | error e => exact .silent call
    | ok reports => exact .inspected h hfind hhistory

variable {directory now store} in
theorem inspects_of_event (hkeyed : Keyed store) {report : Report} {completedAt : Instant}
    (hcompletion : report.completion = .ok completedAt) {event : HandlingEvent}
    (hevent : Registration.event directory now now completedAt report store = .ok event) :
    (register report).Inspects report.trackingId (some event) := by
  have hkind := Registration.kind_of_event hevent
  obtain ⟨cargo, _, hfind, -, rfl⟩ := Registration.exists_of_event hevent
  exact .register hcompletion (hkeyed.trackingId hfind) hkind

theorem effect_register [LawfulStore σ] (hkeyed : Keyed store) (report : Report) :
    Effect now store (register report) ((register report).after directory now store)
      ((register report).told directory now store) := by
  apply effect_of_describes directory now store (describes_register directory now { store } report)
  rw [reply]
  cases hcompletion : report.completion with
  | error fault => exact .silent _
  | ok completedAt =>
    dsimp only
    cases hevent : Registration.event directory now now completedAt report store with
    | error e => exact .silent _
    | ok event =>
      have hinspects := inspects_of_event hkeyed hcompletion hevent
      dsimp only
      rw [hinspects.owner]
      exact effect_inspection now store hinspects

/-- An inspection that is called as such may add an event of any kind, and find it unreadable. -/
theorem effect_inspectAfter {call : Call} {id : TrackingId} {event : Option HandlingEvent}
    (h : call.Inspects id event)
    (hserve : call.serve directory now =
      (do inspectAfter now id event; return .done : Service σ Answer)) :
    Effect now store call (call.after directory now store) (call.told directory now store) := by
  rw [after, told, Service.perform_eq_on, hserve, Service.on_map, inspectAfter_on]
  cases hfind : find store id now with
  | error e => exact .silent call
  | ok cargo =>
    dsimp only
    cases hhistory : history (extended store event) id with
    | error e => exact .unreadable h hfind hhistory
    | ok reports => exact .inspected h hfind hhistory

/-- All that a call can do. -/
theorem effect_serve [LawfulStore σ] (hkeyed : Keyed store) (call : Call) :
    Effect now store call (call.after directory now store) (call.told directory now store) := by
  cases call with
  | book fresh origin destination deadline =>
    apply effect_of_describes directory now store
      (describes_book directory now { store } fresh origin destination deadline)
    rw [reply]
    cases Booking.specification directory origin destination deadline with
    | error e => exact .silent _
    | ok spec => exact .booked fresh origin destination deadline spec
  | load id =>
    exact effect_of_describes directory now store (describes_load directory now { store } id)
      (.silent _)
  | cargos =>
    exact effect_of_describes directory now store (describes_cargos directory now { store })
      (.silent _)
  | possibleRoutes router id =>
    exact effect_of_describes directory now store
      (describes_possibleRoutes directory now { store } router id) (.silent _)
  | assign id itinerary => exact effect_assign directory now store id itinerary
  | changeDestination id destination =>
    exact effect_changeDestination directory now store id destination
  | register report => exact effect_register directory now store hkeyed report
  | record event => exact effect_inspectAfter directory now store (.record event) rfl
  | inspect id => exact effect_inspectAfter directory now store (.inspect id) rfl
  | track id =>
    exact effect_of_describes directory now store (describes_track directory now { store } id)
      (.silent _)

end Serve

end Call

/-! ## Calls about other cargos -/

/-- The second store comes from the first one by changes of other cargos. -/
inductive Elsewhere {σ : Type} [CargoStore σ] (id : TrackingId) (before : σ) : σ → Prop
  | refl : Elsewhere id before before
  | append {after : σ} (h : Elsewhere id before after) {event : HandlingEvent}
      (hne : event.trackingId ≠ id) : Elsewhere id before (append after event)
  | store {after : σ} (h : Elsewhere id before after) {cargo : Cargo}
      (hne : cargo.trackingId ≠ id) : Elsewhere id before (CargoStore.store after cargo)

section Elsewhere

variable {σ : Type} [CargoStore σ] {now : Instant} {before after : σ} {id : TrackingId}

theorem Elsewhere.extended {event : Option HandlingEvent} (h : ∀ e ∈ event, e.trackingId ≠ id) :
    Elsewhere id before (extended before event) := by
  cases event with
  | none => exact .refl
  | some event => exact .append .refl (h event rfl)

theorem Elsewhere.find_eq [LawfulStore σ] (h : Elsewhere id before after) (now : Instant) :
    find after id now = find before id now := by
  induction h with
  | refl => rfl
  | append _ hne ih => rw [LawfulStore.find_append_of_ne hne, ih]
  | store _ hne ih => rw [LawfulStore.find_store_of_ne hne, ih]

theorem Elsewhere.history_eq [SteadyStore σ] (h : Elsewhere id before after) :
    history after id = history before id := by
  induction h with
  | refl => rfl
  | append _ hne ih => rw [SteadyStore.history_append_of_ne hne, ih]
  | store _ _ ih => rw [LawfulStore.history_store, ih]

theorem Effect.elsewhere (hkeyed : Keyed before) {call : Call} {told : List Notice}
    (h : Effect now before call after told) (habout : call.about ≠ some id) :
    Elsewhere id before after := by
  cases h with
  | silent => exact .refl
  | booked fresh => exact .store .refl fun heq => habout (congrArg some heq)
  | planned plans found =>
    refine .store .refl fun heq => habout ?_
    rw [plans.about_eq, ← heq]
    exact congrArg some (hkeyed.trackingId found).symm
  | inspected inspects found =>
    refine .store (.extended (inspects.ne_of_about habout)) fun heq => habout ?_
    rw [inspects.about_eq, ← heq]
    exact congrArg some (hkeyed.trackingId found).symm
  | unreadable inspects => exact .extended (inspects.ne_of_about habout)

end Elsewhere

theorem mem_trackingIds_of_find {σ : Type} [CargoStore σ] [LawfulStore σ] {now : Instant}
    {store : σ} {id : TrackingId} {cargo : Cargo} (h : find store id now = .ok cargo) :
    id ∈ trackingIds store := by
  by_cases hid : id ∈ trackingIds store
  · exact hid
  · rw [LawfulStore.find_of_not_mem hid] at h
    cases h

theorem Keyed.mem_trackingIds {σ : Type} [CargoStore σ] [LawfulStore σ] {now : Instant} {store : σ}
    (h : Keyed store) {id : TrackingId} {cargo : Cargo} (hfind : find store id now = .ok cargo) :
    cargo.trackingId ∈ trackingIds store := by
  rw [h.trackingId hfind]
  exact mem_trackingIds_of_find hfind

/-- Only a booking adds an id. -/
theorem Effect.mem_trackingIds {σ : Type} [CargoStore σ] [LawfulStore σ] {now : Instant}
    {before after : σ} {id : TrackingId} (hkeyed : Keyed before) {call : Call} {told : List Notice}
    (h : Effect now before call after told) (hid : id ∈ trackingIds after) :
    id ∈ trackingIds before ∨ call.booked? = some id := by
  cases h with
  | silent => exact .inl hid
  | booked fresh =>
    rw [LawfulStore.mem_trackingIds_store] at hid
    rcases hid with rfl | hbefore
    · exact .inr rfl
    · exact .inl hbefore
  | planned _ found =>
    rw [LawfulStore.mem_trackingIds_store] at hid
    have hmem := hkeyed.mem_trackingIds found
    rcases hid with rfl | hbefore
    · exact .inl hmem
    · exact .inl hbefore
  | inspected _ found =>
    rw [mem_trackingIds_commit] at hid
    have hmem := hkeyed.mem_trackingIds found
    rcases hid with rfl | hbefore
    · exact .inl hmem
    · exact .inl hbefore
  | unreadable =>
    rw [trackingIds_extended] at hid
    exact .inl hid

/-! ## The cargo of a call -/

section Stored

variable {σ : Type} [CargoStore σ] [SteadyStore σ] {now later : Instant} {before : σ}
  {id : TrackingId} {cargo found : Cargo} {reports : History}

/-- A cargo whose delivery is derived from its history is found as it was stored, but for the time
of the derivation. -/
theorem eq_of_find_store {time : Instant}
    (hfind : find (CargoStore.store before cargo) cargo.trackingId later = .ok found)
    (hhistory : history before cargo.trackingId = .ok reports)
    (hderived : cargo.delivery = .derive cargo.routeSpecification cargo.itinerary reports time)
    (horigin : cargo.trackingId ∈ trackingIds before → ∃ earlier known,
      find before cargo.trackingId earlier = .ok known ∧ known.origin = cargo.origin) :
    ∃ time', found = { cargo with
      delivery := .derive cargo.routeSpecification cargo.itinerary reports time' } := by
  obtain ⟨time', hstored⟩ := LawfulStore.find_store_of_derived hhistory hderived horigin
  exact ⟨time', Except.ok.inj (hfind.symm.trans hstored)⟩

theorem find_extended_of_readable {event : Option HandlingEvent}
    (hfind : find before id now = .ok cargo)
    (hhistory : history (extended before event) id = .ok reports) :
    ∃ delivery, find (extended before event) id now = .ok { cargo with delivery } := by
  cases event with
  | none => exact ⟨cargo.delivery, hfind⟩
  | some event => exact SteadyStore.find_append_of_readable hfind hhistory

/-- After an inspection the cargo is found as the inspection has derived it, but for the time of the
derivation. -/
theorem find_inspected (hkeyed : Keyed before) {event : Option HandlingEvent}
    (hknown : find before id now = .ok cargo)
    (hread : history (extended before event) id = .ok reports) (later : Instant) :
    ∃ time, find (commit before event (cargo.deriveFrom reports now)) id later =
      .ok (cargo.deriveFrom reports time) := by
  obtain ⟨delivery, hextended⟩ := find_extended_of_readable hknown hread
  have hid := hkeyed.trackingId hknown
  subst hid
  have hderived : (cargo.deriveFrom reports now).delivery =
      .derive cargo.routeSpecification cargo.itinerary reports now := rfl
  exact LawfulStore.find_store_of_derived hread hderived fun _ => ⟨now, _, hextended, rfl⟩

theorem eq_of_find_inspected (hkeyed : Keyed before) {event : Option HandlingEvent}
    (hknown : find before id now = .ok cargo)
    (hread : history (extended before event) id = .ok reports)
    (hfind : find (commit before event (cargo.deriveFrom reports now)) id later = .ok found) :
    ∃ time, found = { cargo with
      delivery := .derive cargo.routeSpecification cargo.itinerary reports time } := by
  obtain ⟨time, hinspected⟩ := find_inspected hkeyed hknown hread later
  exact ⟨time, Except.ok.inj (hfind.symm.trans hinspected)⟩

end Stored

/-! ## What every call keeps -/

section Keyed

variable {σ : Type} [CargoStore σ] [SteadyStore σ] {now : Instant} {before after : σ}

theorem keyed_empty : Keyed (empty : σ) where
  trackingId h := by
    rw [SteadyStore.find_empty] at h
    cases h

theorem Keyed.append (h : Keyed before) (event : HandlingEvent) : Keyed (append before event) where
  trackingId {id now cargo} hfind := by
    obtain ⟨delivery, hfound⟩ := SteadyStore.find_of_append hfind
    have hid : { cargo with delivery }.trackingId = id := h.trackingId hfound
    exact hid

theorem Keyed.store (h : Keyed before) (cargo : Cargo) :
    Keyed (CargoStore.store before cargo) where
  trackingId {id now found} hfind := by
    by_cases hid : cargo.trackingId = id
    · subst hid
      exact SteadyStore.trackingId_of_find_store hfind
    · rw [LawfulStore.find_store_of_ne hid] at hfind
      exact h.trackingId hfind

theorem Keyed.extended (h : Keyed before) (event : Option HandlingEvent) :
    Keyed (extended before event) := by
  cases event with
  | none => exact h
  | some event => exact h.append event

theorem Keyed.effect (h : Keyed before) {call : Call} {told : List Notice}
    (heffect : Effect now before call after told) : Keyed after := by
  cases heffect with
  | silent => exact h
  | booked => exact h.store _
  | planned => exact h.store _
  | inspected => exact (h.extended _).store _
  | unreadable => exact h.extended _

end Keyed

end CargoTracking
