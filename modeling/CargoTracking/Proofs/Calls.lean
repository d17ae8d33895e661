import CargoTracking.Proofs.Failure
import CargoTracking.Proofs.UpToDate

/-!
# Calls of the services

The services as one: a call is a request with its arguments, and comes to an answer, one commit at
most, and notices.  What a call comes to is a function of what it finds in the store.
-/

namespace CargoTracking

open CargoStore Inspection

/-- A request to the services.  A cargo that is booked gets the id `fresh`. -/
inductive Call
  | book (fresh : TrackingId) (origin destination : UnLocode) (deadline : Option Instant)
  | load (id : TrackingId)
  | cargos
  | possibleRoutes (router : RouteSpecification → List Itinerary) (id : TrackingId)
  | assign (id : TrackingId) (itinerary : Itinerary)
  | changeDestination (id : TrackingId) (destination : UnLocode)
  | register (report : Report)
  | record (event : HandlingEvent)
  | inspect (id : TrackingId)
  | track (id : TrackingId)

inductive Answer
  | done
  | booked (id : TrackingId)
  | loaded (cargo : BookedCargo)
  | listed (cargos : List BookedCargo)
  | routes (itineraries : List Itinerary)
  | tracked (cargo : TrackedCargo)
  deriving DecidableEq

/-- What a call comes to; the change is the event and the cargo of a commit. -/
structure Reply where
  result : Except Error Answer
  change : Option (Option HandlingEvent × Cargo) := none
  notices : List Notice := []

variable {σ : Type} [CargoStore σ]

def Reply.applied (reply : Reply) (store : σ) : σ :=
  match reply.change with
  | none => store
  | some (event, cargo) => commit store event cargo

namespace Call

/-- No id is booked twice, and no event is recorded that is none. -/
def Admissible (booked : List TrackingId) : Call → Prop
  | book fresh .. => fresh ∉ booked
  | record event => event.activity.kind ≠ .notHandled
  | _ => True

theorem Admissible.handled {booked : List TrackingId} {call : Call} (h : call.Admissible booked)
    (event : HandlingEvent) (hrecord : call = record event) : event.activity.kind ≠ .notHandled := by
  subst hrecord
  exact h

def serve (directory : Directory) (now : Instant) : Call → Service σ Answer
  | book fresh origin destination deadline => do
    return .booked (← Booking.book directory now fresh origin destination deadline)
  | load id => do return .loaded (← Booking.load now id)
  | cargos => do return .listed (← Booking.cargos now)
  | possibleRoutes router id => do return .routes (← Booking.possibleRoutes now router id)
  | assign id itinerary => do
    Booking.assign now id itinerary
    return .done
  | changeDestination id destination => do
    Booking.changeDestination directory now id destination
    return .done
  | register report => do
    Registration.register directory now report
    return .done
  | record event => do
    Inspection.record now event
    return .done
  | inspect id => do
    Inspection.inspect now id
    return .done
  | track id => do return .tracked (← Tracking.track now id)

def inspection (now : Instant) (store : σ) (id : TrackingId) (event : Option HandlingEvent) : Reply :=
  match find store id now with
  | .error e => { result := .error e }
  | .ok cargo =>
    match history (extended store event) id with
    | .error e => { result := .error e }
    | .ok reports => {
        result := .ok .done
        change := some (event, cargo.deriveFrom reports now)
        notices := notices cargo.delivery (cargo.deriveFrom reports now) }

def reply (directory : Directory) (now : Instant) (store : σ) : Call → Reply
  | book fresh origin destination deadline =>
    match Booking.specification directory origin destination deadline with
    | .error e => { result := .error e }
    | .ok spec => { result := .ok (.booked fresh), change := some (none, .book fresh spec now) }
  | load id => {
      result := if id.isEmpty then .error (.invalidArgument .noTrackingId)
        else (find store id now).map fun cargo => .loaded (.of cargo) }
  | cargos => { result := (findAll store now).map fun cargos => .listed (cargos.map .of) }
  | possibleRoutes router id => {
      result := (Booking.possibleRoutesOf router (find store id now)).map .routes }
  | assign id itinerary =>
    if id.isEmpty || itinerary.isEmpty then
      { result := .error (.invalidArgument .noTrackingIdOrItinerary) }
    else match find store id now with
      | .error e => { result := .error e }
      | .ok cargo => { result := .ok .done, change := some (none, cargo.assign itinerary now) }
  | changeDestination id destination =>
    if id.isEmpty || destination.isEmpty then
      { result := .error (.invalidArgument .noTrackingIdOrDestination) }
    else match find store id now, directory.findLocation destination with
      | .ok cargo, .ok location => {
          result := .ok .done, change := some (none, cargo.redirect location.unLocode now) }
      | .error e, _ => { result := .error e }
      | .ok _, .error e => { result := .error e }
  | register report =>
    match report.completion with
    | .error fault => { result := .error (.invalidArgument fault) }
    | .ok completedAt =>
      match Registration.event directory now now completedAt report store with
      | .error e => { result := .error e }
      | .ok event => inspection now store event.trackingId (some event)
  | record event => inspection now store event.trackingId (some event)
  | inspect id => inspection now store id none
  | track id => {
      result := if id.isEmpty then .error (.invalidArgument .noTrackingId)
        else match find store id now, history store id with
          | .ok cargo, .ok reports => .ok (.tracked (.of cargo reports))
          | .error e, _ => .error e
          | .ok _, .error e => .error e }

attribute [simp] serve reply

end Call

/-- The outcome of a call on a world is what the reply says. -/
structure Reply.Describes (reply : Reply) (world : World σ) (outcome : Except Error Answer × World σ) :
    Prop where
  result : outcome.1 = reply.result
  store : outcome.2.store = reply.applied world.store
  notices : outcome.2.notices = world.notices ++ reply.notices

omit [CargoStore σ] in
theorem Service.on_map {α β : Type} (f : α → β) (service : Service σ α) (world : World σ) :
    (do return f (← service) : Service σ β).on world =
      ((service.on world).1.map f, (service.on world).2) := by
  rw [on_bind]
  rcases service.on world with ⟨_ | _, _⟩ <;> rfl

/-- A call that only reads. -/
theorem Reply.describes_of_reading {result : Except Error Answer} (world : World σ) :
    Describes { result } world (result, world) :=
  ⟨rfl, rfl, (List.append_nil _).symm⟩

theorem Reply.describes_of_change {answer : Answer} {event : Option HandlingEvent} {cargo : Cargo}
    {told : List Notice} {world world' : World σ} (hstore : world'.store = commit world.store event cargo)
    (hnotices : world'.notices = world.notices ++ told) :
    Describes { result := .ok answer, change := some (event, cargo), notices := told } world
      (.ok answer, world') :=
  ⟨rfl, hstore, hnotices⟩

namespace Call

section Serve

variable (directory : Directory) (now : Instant) (world : World σ)

theorem describes_book (fresh : TrackingId) (origin destination : UnLocode)
    (deadline : Option Instant) :
    ((book fresh origin destination deadline).reply directory now world.store).Describes world
      (((book fresh origin destination deadline).serve directory now).on world) := by
  simp only [serve, reply, Service.on_map, Booking.book_on]
  cases Booking.specification directory origin destination deadline with
  | error e => exact Reply.describes_of_reading world
  | ok spec => exact Reply.describes_of_change rfl (List.append_nil _).symm

theorem describes_load (id : TrackingId) :
    ((load id).reply directory now world.store).Describes world
      (((load id).serve directory now).on world) := by
  have h : ((load id).serve directory now).on world =
      (((load id).reply directory now world.store).result, world) := by
    simp only [serve, reply, Service.on_map, Booking.load_on]
    by_cases hid : id.isEmpty
    · rw [if_pos hid, if_pos hid]
      rfl
    · rw [if_neg hid, if_neg hid]
      cases find world.store id now <;> rfl
  rw [h]
  exact Reply.describes_of_reading world

theorem describes_cargos :
    (cargos.reply directory now world.store).Describes world
      ((cargos.serve directory now).on world) := by
  have h : (cargos.serve directory now).on world =
      ((cargos.reply directory now world.store).result, world) := by
    simp only [serve, reply, Service.on_map, Booking.cargos_on]
    cases findAll world.store now <;> rfl
  rw [h]
  exact Reply.describes_of_reading world

theorem describes_possibleRoutes (router : RouteSpecification → List Itinerary) (id : TrackingId) :
    ((possibleRoutes router id).reply directory now world.store).Describes world
      (((possibleRoutes router id).serve directory now).on world) := by
  simp only [serve, reply, Service.on_map, Booking.possibleRoutes_on]
  exact Reply.describes_of_reading world

theorem describes_track (id : TrackingId) :
    ((track id).reply directory now world.store).Describes world
      (((track id).serve directory now).on world) := by
  have h : ((track id).serve directory now).on world =
      (((track id).reply directory now world.store).result, world) := by
    simp only [serve, reply, Service.on_map, Tracking.track_on]
    by_cases hid : id.isEmpty
    · rw [if_pos hid, if_pos hid]
      rfl
    · rw [if_neg hid, if_neg hid]
      cases find world.store id now with
      | error e => rfl
      | ok cargo => cases history world.store id <;> rfl
  rw [h]
  exact Reply.describes_of_reading world

theorem describes_assign (id : TrackingId) (itinerary : Itinerary) :
    ((assign id itinerary).reply directory now world.store).Describes world
      (((assign id itinerary).serve directory now).on world) := by
  simp only [serve, reply, Service.on_map, Booking.assign_on]
  by_cases hempty : id.isEmpty || itinerary.isEmpty
  · rw [if_pos hempty, if_pos hempty]
    exact Reply.describes_of_reading world
  · rw [if_neg hempty, if_neg hempty]
    cases find world.store id now with
    | error e => exact Reply.describes_of_reading world
    | ok cargo => exact Reply.describes_of_change rfl (List.append_nil _).symm

theorem describes_changeDestination (id : TrackingId) (destination : UnLocode) :
    ((changeDestination id destination).reply directory now world.store).Describes world
      (((changeDestination id destination).serve directory now).on world) := by
  simp only [serve, reply, Service.on_map, Booking.changeDestination_on]
  by_cases hempty : id.isEmpty || destination.isEmpty
  · rw [if_pos hempty, if_pos hempty]
    exact Reply.describes_of_reading world
  · rw [if_neg hempty, if_neg hempty]
    cases find world.store id now with
    | error e => exact Reply.describes_of_reading world
    | ok cargo =>
      cases directory.findLocation destination with
      | error e => exact Reply.describes_of_reading world
      | ok location => exact Reply.describes_of_change rfl (List.append_nil _).symm

/-- The history of a cargo that was found is readable, so an inspection has no other way to end. -/
theorem describes_inspection [LawfulStore σ] (id : TrackingId) {event : Option HandlingEvent}
    (h : ∀ e ∈ event, e.activity.kind ≠ .notHandled) :
    (inspection now world.store id event).Describes world
      ((((inspectAfter now id event).on world).1.map fun _ => .done),
        ((inspectAfter now id event).on world).2) := by
  unfold inspection
  rcases inspectAfter_cases now id h world with
    ⟨e, hfind, hinspect⟩ | ⟨cargo, reports, after, hfind, hhistory, hinspect, hstore, hnotices⟩
  · rw [hinspect, hfind]
    exact Reply.describes_of_reading world
  · rw [hinspect, hfind]
    dsimp only
    rw [hhistory]
    exact Reply.describes_of_change hstore hnotices

theorem describes_register [LawfulStore σ] (report : Report) :
    ((register report).reply directory now world.store).Describes world
      (((register report).serve directory now).on world) := by
  simp only [serve, reply, Service.on_map, Registration.register_on]
  cases hcompletion : report.completion with
  | error fault => exact ⟨rfl, rfl, (List.append_nil _).symm⟩
  | ok completedAt =>
    dsimp only
    cases hevent : Registration.event directory now now completedAt report world.store with
    | error e => exact ⟨rfl, rfl, (List.append_nil _).symm⟩
    | ok event =>
      have hkind := Registration.handled_of_event hcompletion hevent
      have hdescribes := describes_inspection now world event.trackingId
        (HandlingEvent.handled_some hkind)
      dsimp only
      -- Only the log is written after the inspection, whichever way that ended.
      rw [Inspection.record]
      rcases hrecord : (inspectAfter now event.trackingId (some event)).on world with ⟨e | _, after⟩
      · rw [hrecord] at hdescribes
        exact hdescribes
      · rw [hrecord] at hdescribes
        exact ⟨hdescribes.result, hdescribes.store, hdescribes.notices⟩

/-- What a call comes to, as far as the store and the notices go. -/
theorem describes_serve [LawfulStore σ] {call : Call} (h : ∀ event, call = record event →
    event.activity.kind ≠ .notHandled) :
    (call.reply directory now world.store).Describes world
      ((call.serve directory now).on world) := by
  cases call with
  | book fresh origin destination deadline => exact describes_book directory now world ..
  | load id => exact describes_load directory now world id
  | cargos => exact describes_cargos directory now world
  | possibleRoutes router id => exact describes_possibleRoutes directory now world router id
  | assign id itinerary => exact describes_assign directory now world id itinerary
  | changeDestination id destination =>
    exact describes_changeDestination directory now world id destination
  | register report => exact describes_register directory now world report
  | record event =>
    simp only [serve, Service.on_map]
    exact describes_inspection now world event.trackingId
      (HandlingEvent.handled_some (h event rfl))
  | inspect id =>
    simp only [serve, Service.on_map]
    exact describes_inspection now world id fun e he => by cases he
  | track id => exact describes_track directory now world id

end Serve

end Call

end CargoTracking
