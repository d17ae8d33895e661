import CargoTracking.Proofs.Separation

/-!
# The event log

Events are appended to a store directly or by the services, between uses of any other kind.  What is
appended stays as it is: the history of a cargo is always the list of the events that were appended
for it, in the order in which they were appended.
-/

namespace CargoTracking

open CargoStore Inspection

namespace History

/-- Appends the events of the cargo among those of a list. -/
def appendOf (history : History) (id : TrackingId) (events : List HandlingEvent) : History :=
  ⟨history.events ++ events.filter (·.trackingId = id)⟩

theorem appendOf_nil (history : History) (id : TrackingId) : history.appendOf id [] = history := by
  rw [appendOf, List.filter_nil, List.append_nil]

theorem appendOf_append (history : History) (id : TrackingId) (events more : List HandlingEvent) :
    history.appendOf id (events ++ more) = (history.appendOf id events).appendOf id more := by
  simp only [appendOf, List.filter_append, List.append_assoc]

theorem appendOf_singleton (history : History) (id : TrackingId) (event : HandlingEvent) :
    history.appendOf id [event] =
      if event.trackingId = id then history.append event else history := by
  simp only [appendOf, List.filter_cons, List.filter_nil, decide_eq_true_iff]
  split
  · rfl
  · rw [List.append_nil]

theorem map_appendOf_nil (result : Except Error History) (id : TrackingId) :
    result.map (·.appendOf id []) = result := by
  cases result with
  | error e => rfl
  | ok history => rw [Except.map, appendOf_nil]

theorem map_appendOf_append (result : Except Error History) (id : TrackingId)
    (events more : List HandlingEvent) :
    result.map (·.appendOf id (events ++ more)) =
      (result.map (·.appendOf id events)).map (·.appendOf id more) := by
  cases result with
  | error e => rfl
  | ok history => simp only [Except.map, appendOf_append]

end History

/-! ## Calls -/

namespace Call

/-- An event that the call is given to record is one. -/
def Handled : Call → Prop
  | record event => event.activity.kind ≠ .notHandled
  | _ => True

section Definitions

variable {σ : Type} [CargoStore σ] (directory : Directory) (now : Instant) (store : σ)

/-- The event that the call has to record; of a report the one that is made of it. -/
def event? : Call → Option HandlingEvent
  | record event => some event
  | register report =>
    match report.completion with
    | .error _ => none
    | .ok completedAt => (Registration.event directory now now completedAt report store).toOption
  | book .. | load _ | cargos | possibleRoutes .. | assign .. | changeDestination .. | inspect _
  | track _ => none

/-- The event that the call appends; a call that fails appends none. -/
def recorded (call : Call) : Option HandlingEvent :=
  ((call.serve directory now).perform store).result.toOption.bind fun _ =>
    call.event? directory now store

end Definitions

variable {σ : Type} [CargoStore σ] {directory : Directory} {now : Instant} {store : σ} {call : Call}

theorem Handled.record (h : call.Handled) :
    ∀ event, call = .record event → event.activity.kind ≠ .notHandled := by
  rintro event rfl
  exact h

theorem event?_register_eq_some_iff {report : Report} {event : HandlingEvent} :
    (register report).event? directory now store = some event ↔ ∃ completedAt,
      report.completion = .ok completedAt ∧
        Registration.event directory now now completedAt report store = .ok event := by
  rw [event?]
  cases report.completion with
  | error fault =>
    refine iff_of_false (fun h => by cases h) ?_
    rintro ⟨_, htime, -⟩
    cases htime
  | ok completedAt =>
    constructor
    · intro h
      exact ⟨completedAt, rfl, ok_of_toOption h⟩
    · rintro ⟨_, htime, hmade⟩
      cases htime
      exact congrArg Except.toOption hmade

theorem Handled.event? (h : call.Handled) {event : HandlingEvent}
    (hevent : call.event? directory now store = some event) : event.activity.kind ≠ .notHandled := by
  cases call with
  | record added =>
    cases hevent
    exact h
  | register report =>
    obtain ⟨_, hcompletion, hmade⟩ := event?_register_eq_some_iff.mp hevent
    exact Registration.handled_of_event hcompletion hmade
  | _ => cases hevent

/-- An inspection commits the event that it was given, or fails. -/
theorem event_of_inspection (now : Instant) (store : σ) (id : TrackingId)
    (event : Option HandlingEvent) :
    (inspection now store id event).change.bind Prod.fst =
      (inspection now store id event).result.toOption.bind fun _ => event := by
  unfold inspection
  cases find store id now with
  | error e => rfl
  | ok cargo =>
    dsimp only
    cases history (extended store event) id <;> rfl

/-- The event of the commit of a call is the one that the call records. -/
theorem event_of_change (directory : Directory) (now : Instant) (store : σ) (call : Call) :
    (call.reply directory now store).change.bind Prod.fst =
      (call.reply directory now store).result.toOption.bind fun _ =>
        call.event? directory now store := by
  cases call with
  | record event => exact event_of_inspection now store event.trackingId (some event)
  | register report =>
    rw [reply, event?]
    cases report.completion with
    | error fault => rfl
    | ok completedAt =>
      dsimp only
      cases Registration.event directory now now completedAt report store with
      | error e => rfl
      | ok event => exact event_of_inspection now store event.trackingId (some event)
  | inspect id => exact event_of_inspection now store id none
  -- The others commit no event, whether they succeed or not.
  | book fresh origin destination deadline =>
    rw [event?, Option.bind_fun_none, reply]
    cases Booking.specification directory origin destination deadline <;> rfl
  | assign id itinerary =>
    rw [event?, Option.bind_fun_none, reply]
    split
    · rfl
    · cases find store id now <;> rfl
  | changeDestination id destination =>
    rw [event?, Option.bind_fun_none, reply]
    split
    · rfl
    · cases find store id now with
      | error e => rfl
      | ok cargo => cases directory.findLocation destination <;> rfl
  | load id | cargos | possibleRoutes router id | track id => rw [event?, Option.bind_fun_none]; rfl

theorem Handled.recorded (h : call.Handled) :
    ∀ event ∈ call.recorded directory now store, event.activity.kind ≠ .notHandled := by
  intro event hevent
  obtain ⟨_, -, hmade⟩ := Option.bind_eq_some_iff.mp hevent
  exact h.event? hmade

variable [LawfulStore σ]

/-- The history after an event, if there is one. -/
theorem history_extended {event : Option HandlingEvent}
    (h : ∀ e ∈ event, e.activity.kind ≠ .notHandled) (store : σ) (id : TrackingId) :
    history (extended store event) id = (history store id).map (·.appendOf id event.toList) := by
  cases event with
  | none => exact (History.map_appendOf_nil (history store id) id).symm
  | some event =>
    show history (append store event) id = (history store id).map (·.appendOf id [event])
    rw [LawfulStore.history_append (h event rfl)]
    -- The event is one of this cargo or of another one.
    simp only [History.appendOf_singleton]
    by_cases hid : event.trackingId = id
    · simp only [if_pos hid]
    · simp only [if_neg hid]
      cases history store id <;> rfl

/-- The cargo that is stored after the event does not show in the history. -/
theorem history_applied (reply : Reply) (store : σ) (id : TrackingId) :
    history (reply.applied store) id = history (extended store (reply.change.bind Prod.fst)) id := by
  unfold Reply.applied
  cases reply.change with
  | none => rfl
  | some change => exact LawfulStore.history_store (extended store change.1) change.2 id

/-- A call adds the event that it records to the history of its cargo, and leaves all others. -/
theorem history_after (h : call.Handled) (directory : Directory) (now : Instant) (store : σ)
    (id : TrackingId) :
    history (call.after directory now store) id =
      (history store id).map (·.appendOf id (call.recorded directory now store).toList) := by
  have hdescribes := describes_serve directory now { store } h.record
  have hrecorded : call.recorded directory now store =
      (call.reply directory now store).change.bind Prod.fst := by
    rw [event_of_change, Call.recorded, Service.perform_eq_on, hdescribes.result]
  rw [after, Service.perform_eq_on, hdescribes.store, history_applied, ← hrecorded]
  exact history_extended h.recorded store id

end Call

/-! ## Uses of a store -/

namespace Access

/-- An event that is appended is one, and nothing is put into the store as a record. -/
def Handled : Access → Prop
  | .call request => request.Handled
  | append event => event.activity.kind ≠ .notHandled
  | insert _ => False
  | find _ | history _ | store _ => True

section Definitions

variable {σ : Type} [CargoStore σ] [RowStore σ] (directory : Directory)

/-- The events that the access appends. -/
def appended (now : Instant) (store : σ) : Access → List HandlingEvent
  | .call request => (request.recorded directory now store).toList
  | append event => [event]
  | find _ | history _ | .store _ | insert _ => []

/-- The store after accesses in a row, each at its time. -/
def run (store : σ) : List (Instant × Access) → σ
  | [] => store
  | (now, access) :: rest => run (access.react directory now store).2 rest

/-- The events that accesses in a row append, in their order. -/
def log (store : σ) : List (Instant × Access) → List HandlingEvent
  | [] => []
  | (now, access) :: rest =>
    access.appended directory now store ++ log (access.react directory now store).2 rest

end Definitions

variable {σ : Type} [CargoStore σ] [RowStore σ] [LawfulStore σ]

/-- One access adds the events that it appends, and changes nothing else in any history. -/
theorem history_react {access : Access} (h : access.Handled) (directory : Directory)
    (now : Instant) (store : σ) (id : TrackingId) :
    CargoStore.history (access.react directory now store).2 id =
      (CargoStore.history store id).map (·.appendOf id (access.appended directory now store)) := by
  cases access with
  | call request => exact request.history_after h directory now store id
  | append event => exact Call.history_extended (HandlingEvent.handled_some h) store id
  | store cargo =>
    rw [appended, History.map_appendOf_nil]
    exact LawfulStore.history_store store cargo id
  | find cargo | history cargo => exact (History.map_appendOf_nil _ id).symm
  | insert row => cases h

/-- Accesses in a row add the events that they append. -/
theorem history_run (directory : Directory) {accesses : List (Instant × Access)}
    (h : ∀ entry ∈ accesses, entry.2.Handled) (store : σ) (id : TrackingId) :
    CargoStore.history (run directory store accesses) id =
      (CargoStore.history store id).map (·.appendOf id (log directory store accesses)) := by
  induction accesses generalizing store with
  | nil => exact (History.map_appendOf_nil _ id).symm
  | cons first rest ih =>
    obtain ⟨now, access⟩ := first
    rw [List.forall_mem_cons] at h
    rw [run, log, ih h.2, history_react h.1, History.map_appendOf_append]

end Access

open Access

/-- Over either store, the history of a cargo after any accesses is the list of the events that they
have appended for it, in their order.  Over records this holds from any contents on. -/
theorem history_is_log (directory : Directory) (id : TrackingId)
    {accesses : List (Instant × Access)} (h : ∀ entry ∈ accesses, entry.2.Handled) :
    history (run directory (empty : MemoryStore) accesses) id =
        .ok ⟨(log directory (empty : MemoryStore) accesses).filter (·.trackingId = id)⟩ ∧
      history (run directory (empty : RecordStore) accesses) id =
        .ok ⟨(log directory (empty : RecordStore) accesses).filter (·.trackingId = id)⟩ ∧
      ∀ store : RecordStore, history (run directory store accesses) id =
        (history store id).map fun before =>
          ⟨before.events ++ (log directory store accesses).filter (·.trackingId = id)⟩ := by
  refine ⟨?_, ?_, fun store => history_run directory h store id⟩
  · rw [history_run directory h, SteadyStore.history_empty]
    rfl
  · rw [history_run directory h, SteadyStore.history_empty]
    rfl

/-- Events of two cargos, one of which is not booked, and the other one is received after its customs
were told of. -/
def interleaved : List (Instant × Access) :=
  [(sampleDay 1, .append ⟨⟨"5D07E4A2"⟩, .at .customs ⟨"SESTO"⟩, sampleDay 1, sampleDay 1⟩),
    (sampleDay 2, .call (.book ⟨"3F2A9C1B"⟩ ⟨"CNHKG"⟩ ⟨"SESTO"⟩ (some (sampleDay 18)))),
    (sampleDay 5, .call (.record (sampleEvent (.at .customs ⟨"CNHKG"⟩) 4))),
    (sampleDay 6, .append ⟨⟨"5D07E4A2"⟩, .onVoyage .load ⟨"SESTO"⟩ ⟨""⟩, sampleDay 6, sampleDay 1⟩),
    (sampleDay 7, .call (.assign ⟨"3F2A9C1B"⟩ sampleItinerary)),
    (sampleDay 8, .call (.register ⟨⟨"3F2A9C1B"⟩, .receive, ⟨"CNHKG"⟩, ⟨""⟩, some (sampleDay 3)⟩)),
    (sampleDay 9, .call (.record ⟨⟨"5D07E4A2"⟩, .at .claim ⟨"SESTO"⟩, sampleDay 9, sampleDay 9⟩)),
    (sampleDay 9, .call (.changeDestination ⟨"3F2A9C1B"⟩ ⟨"JNTKO"⟩))]

theorem log_of_interleaved : (∀ entry ∈ interleaved, entry.2.Handled) ∧
    history (run .sample (empty : RecordStore) interleaved) ⟨"3F2A9C1B"⟩ =
      .ok ⟨[sampleEvent (.at .customs ⟨"CNHKG"⟩) 4,
        ⟨⟨"3F2A9C1B"⟩, .at .receive ⟨"CNHKG"⟩, sampleDay 8, sampleDay 3⟩]⟩ := by
  have hhandled : ∀ entry ∈ interleaved, entry.2.Handled := by
    simp [interleaved, Access.Handled, Call.Handled, sampleEvent, Activity.at, Activity.onVoyage]
  have hlog : (log .sample (empty : RecordStore) interleaved).filter
      (·.trackingId = ⟨"3F2A9C1B"⟩) = [sampleEvent (.at .customs ⟨"CNHKG"⟩) 4,
        ⟨⟨"3F2A9C1B"⟩, .at .receive ⟨"CNHKG"⟩, sampleDay 8, sampleDay 3⟩] := by decide +kernel
  refine ⟨hhandled, ?_⟩
  rw [(history_is_log .sample ⟨"3F2A9C1B"⟩ hhandled).2.1, hlog]

end CargoTracking
