import CargoTracking.Booking
import CargoTracking.Registration
import CargoTracking.Tracking

/-!
# What the operations do

One equation for each operation, over any store: its result and the world after it, in terms of what
the store answers.  Everything further about the operations is proved from these equations.
-/

namespace CargoTracking

/-- An action that fails ends there, with the state that it has left. -/
theorem run_bind {ε τ α β : Type} (action : ExceptT ε (StateM τ) α)
    (next : α → ExceptT ε (StateM τ) β) (state : τ) :
    (ExceptT.run (action >>= next)).run state =
      match (ExceptT.run action).run state with
      | (.ok a, state) => (ExceptT.run (next a)).run state
      | (.error e, state) => (.error e, state) := by
  have h : (ExceptT.run (action >>= next)).run state =
      (ExceptT.bindCont next ((ExceptT.run action).run state).1 : StateM τ (Except ε β)).run
        ((ExceptT.run action).run state).2 := rfl
  rw [h]
  rcases (ExceptT.run action).run state with ⟨_ | _, _⟩ <;> rfl

namespace Service

variable {σ α β : Type}

/-- The result of an operation on a world, and the world after it. -/
def on (service : Service σ α) (world : World σ) : Except Error α × World σ :=
  (ExceptT.run service).run world

theorem perform_eq_on (service : Service σ α) (store : σ) :
    service.perform store = ⟨(service.on { store }).1, (service.on { store }).2⟩ := rfl

theorem on_bind (service : Service σ α) (next : α → Service σ β) (world : World σ) :
    (service >>= next).on world =
      match service.on world with
      | (.ok a, world) => (next a).on world
      | (.error e, world) => (.error e, world) := by
  rw [on, run_bind]
  unfold on
  rcases (ExceptT.run service).run world with ⟨_ | _, _⟩ <;> rfl

theorem on_pure (a : α) (world : World σ) : (pure a : Service σ α).on world = (.ok a, world) := rfl

theorem on_throw (e : Error) (world : World σ) :
    (throw e : Service σ α).on world = (.error e, world) := rfl

theorem on_get (world : World σ) : (get : Service σ (World σ)).on world = (.ok world, world) := rfl

theorem on_ofExcept (result : Except Error α) (world : World σ) :
    (ofExcept result : Service σ α).on world = (result, world) := by
  cases result <;> rfl

theorem on_log (event : LogEvent) (world : World σ) :
    (log event).on world = (.ok (), { world with log := world.log ++ [event] }) := rfl

theorem on_notify (notice : Notice) (world : World σ) :
    (notify notice).on world = (.ok (), { world with
      notices := world.notices ++ [notice], log := world.log ++ [.noticed notice] }) := rfl

variable [CargoStore σ]

theorem on_findCargo (id : TrackingId) (now : Instant) (world : World σ) :
    (findCargo id now).on world = (CargoStore.find world.store id now, world) :=
  on_ofExcept (CargoStore.find world.store id now) world

theorem on_history (id : TrackingId) (world : World σ) :
    (history id).on world = (CargoStore.history world.store id, world) :=
  on_ofExcept (CargoStore.history world.store id) world

theorem on_storeCargo (cargo : Cargo) (world : World σ) :
    (storeCargo cargo).on world =
      (.ok (), { world with store := CargoStore.store world.store cargo }) := rfl

theorem on_appendEvent (event : HandlingEvent) (world : World σ) :
    (appendEvent event).on world =
      (.ok (), { world with store := CargoStore.append world.store event }) := rfl

end Service

open Service

variable {σ : Type} [CargoStore σ]

/-! ## Booking -/

namespace Booking

/-- The specification that a booking asks for, or the first thing wrong with it. -/
def specification (directory : Directory) (origin destination : UnLocode)
    (deadline : Option Instant) : Except Error RouteSpecification :=
  if origin.isEmpty || destination.isEmpty then .error (.invalidArgument .noOriginOrDestination)
  else match deadline with
    | none => .error (.invalidArgument .noDeadline)
    | some deadline =>
      match directory.findLocation origin, directory.findLocation destination with
      | .ok _, .ok _ => .ok { origin, destination, arrivalDeadline := some deadline }
      | .error e, _ => .error e
      | .ok _, .error e => .error e

/-- Cargos can be booked for the specification. -/
structure Valid (directory : Directory) (spec : RouteSpecification) : Prop where
  origin : spec.origin.isEmpty = false
  destination : spec.destination.isEmpty = false
  deadline : spec.arrivalDeadline.isSome
  known_origin : ∃ location, directory.findLocation spec.origin = .ok location
  known_destination : ∃ location, directory.findLocation spec.destination = .ok location

theorem specification_eq_ok_iff {directory : Directory} {origin destination : UnLocode}
    {deadline : Option Instant} {spec : RouteSpecification} :
    specification directory origin destination deadline = .ok spec ↔
      spec = ⟨origin, destination, deadline⟩ ∧ Valid directory spec := by
  unfold specification
  constructor
  · intro h
    split at h
    · cases h
    · rename_i hnonempty
      rw [Bool.or_eq_true, not_or, Bool.not_eq_true, Bool.not_eq_true] at hnonempty
      cases deadline with
      | none => cases h
      | some deadline =>
        dsimp only at h
        cases horigin : directory.findLocation origin with
        | error e => rw [horigin] at h; cases h
        | ok start =>
          cases hdestination : directory.findLocation destination with
          | error e => rw [horigin, hdestination] at h; cases h
          | ok goal =>
            rw [horigin, hdestination] at h
            cases h
            exact ⟨rfl, hnonempty.1, hnonempty.2, rfl, ⟨start, horigin⟩, ⟨goal, hdestination⟩⟩
  · rintro ⟨rfl, h⟩
    obtain ⟨start, horigin⟩ := h.known_origin
    obtain ⟨goal, hdestination⟩ := h.known_destination
    obtain ⟨deadline, rfl⟩ := Option.isSome_iff_exists.mp h.deadline
    have hnonempty : ¬(origin.isEmpty || destination.isEmpty) = true := by
      rw [h.origin, h.destination]
      exact Bool.false_ne_true
    rw [if_neg hnonempty]
    dsimp only at horigin hdestination ⊢
    rw [horigin, hdestination]

theorem book_on (directory : Directory) (now : Instant) (fresh : TrackingId)
    (origin destination : UnLocode) (deadline : Option Instant) (world : World σ) :
    (book directory now fresh origin destination deadline).on world =
      match specification directory origin destination deadline with
      | .error e => (.error e, world)
      | .ok spec => (.ok fresh, { world with
          store := CargoStore.store world.store (.book fresh spec now)
          log := world.log ++ [.booked fresh spec] }) := by
  unfold book specification
  by_cases hempty : origin.isEmpty || destination.isEmpty
  · rw [if_pos hempty, if_pos hempty]
    rfl
  · rw [if_neg hempty, if_neg hempty]
    cases deadline with
    | none => rfl
    | some deadline =>
      simp only [on_bind, on_ofExcept]
      cases directory.findLocation origin with
      | error e => rfl
      | ok _ => cases directory.findLocation destination <;> rfl

theorem load_on (now : Instant) (id : TrackingId) (world : World σ) :
    (load now id).on world =
      (if id.isEmpty then .error (.invalidArgument .noTrackingId)
        else (CargoStore.find world.store id now).map .of, world) := by
  unfold load
  by_cases hid : id.isEmpty
  · rw [if_pos hid, if_pos hid]
    rfl
  · rw [if_neg hid, if_neg hid]
    simp only [on_bind, on_findCargo]
    cases CargoStore.find world.store id now <;> rfl

/-- What a router is asked for a cargo that is there. -/
def possibleRoutesOf (router : RouteSpecification → List Itinerary) :
    Except Error Cargo → Except Error (List Itinerary)
  | .ok cargo => .ok (router cargo.routeSpecification)
  | .error (.unknownCargo _) => .ok []
  | .error e => .error e

theorem possibleRoutes_on (now : Instant) (router : RouteSpecification → List Itinerary)
    (id : TrackingId) (world : World σ) :
    (possibleRoutes now router id).on world =
      (possibleRoutesOf router (CargoStore.find world.store id now), world) := by
  unfold possibleRoutes routeRequest
  simp only [on_bind, on_get]
  rcases CargoStore.find world.store id now with (_ | _ | _ | _ | _) | _ <;> rfl

/-- The log of an assignment. -/
def assignedLog (id : TrackingId) (cargo : Cargo) : List LogEvent :=
  .assigned id cargo.itinerary.legs.length ::
    if cargo.delivery.routingStatus = .misrouted then [.unsatisfying id] else []

theorem assign_on (now : Instant) (id : TrackingId) (itinerary : Itinerary) (world : World σ) :
    (assign now id itinerary).on world =
      if id.isEmpty || itinerary.isEmpty then
        (.error (.invalidArgument .noTrackingIdOrItinerary), world)
      else match CargoStore.find world.store id now with
        | .error e => (.error e, world)
        | .ok cargo => (.ok (), { world with
            store := CargoStore.store world.store (cargo.assign itinerary now)
            log := world.log ++ assignedLog id (cargo.assign itinerary now) }) := by
  unfold assign assignedLog
  by_cases hempty : id.isEmpty || itinerary.isEmpty
  · rw [if_pos hempty, if_pos hempty]
    rfl
  · rw [if_neg hempty, if_neg hempty]
    simp only [on_bind, on_findCargo]
    cases CargoStore.find world.store id now with
    | error e => rfl
    | ok cargo =>
      simp only [on_storeCargo, on_log]
      -- The log gets a second line if the plan does not satisfy the specification.
      split
      · simp only [on_log, List.append_assoc, List.cons_append, List.nil_append]
      · rfl

end Booking

/-- The cargo with another destination, and with the origin of its booking and its deadline. -/
def Cargo.redirect (cargo : Cargo) (destination : UnLocode) (now : Instant) : Cargo :=
  cargo.respecify
    { origin := cargo.origin, destination
      arrivalDeadline := cargo.routeSpecification.arrivalDeadline } now

namespace Booking

theorem changeDestination_on (directory : Directory) (now : Instant) (id : TrackingId)
    (destination : UnLocode) (world : World σ) :
    (changeDestination directory now id destination).on world =
      if id.isEmpty || destination.isEmpty then
        (.error (.invalidArgument .noTrackingIdOrDestination), world)
      else match CargoStore.find world.store id now, directory.findLocation destination with
        | .ok cargo, .ok location => (.ok (), { world with
            store := CargoStore.store world.store (cargo.redirect location.unLocode now)
            log := world.log ++ [.redirected id destination
              (cargo.redirect location.unLocode now).delivery.routingStatus] })
        | .error e, _ => (.error e, world)
        | .ok _, .error e => (.error e, world) := by
  unfold changeDestination
  by_cases hempty : id.isEmpty || destination.isEmpty
  · rw [if_pos hempty, if_pos hempty]
    rfl
  · rw [if_neg hempty, if_neg hempty]
    simp only [on_bind, on_findCargo, on_ofExcept]
    cases CargoStore.find world.store id now with
    | error e => rfl
    | ok cargo => cases directory.findLocation destination <;> rfl

theorem cargos_on (now : Instant) (world : World σ) :
    (cargos now).on world =
      ((CargoStore.findAll world.store now).map (List.map .of), world) := by
  unfold cargos
  simp only [on_bind, on_get, on_ofExcept]
  cases CargoStore.findAll world.store now <;> rfl

end Booking

/-! ## Inspection -/

namespace Inspection

/-- The notices of an inspection, given the delivery before it. -/
def notices (before : Delivery) (cargo : Cargo) : List Notice :=
  (if cargo.delivery.isMisdirected && !before.isMisdirected then [.misdirected cargo] else []) ++
    if cargo.delivery.isUnloadedAtDestination && !before.isUnloadedAtDestination then [.arrived cargo]
    else []

omit [CargoStore σ] in
theorem announce_on (before : Delivery) (cargo : Cargo) (world : World σ) :
    (announce before cargo).on world = (.ok (), { world with
      notices := world.notices ++ notices before cargo
      log := world.log ++ (notices before cargo).map .noticed }) := by
  unfold announce notices
  -- Each of the two notices is given or not, and a misdirection is told first.
  by_cases hmisdirected : cargo.delivery.isMisdirected && !before.isMisdirected
  · by_cases harrived : cargo.delivery.isUnloadedAtDestination && !before.isUnloadedAtDestination
    · simp only [hmisdirected, harrived, if_true, on_bind, on_notify, List.map_append, List.map_cons,
        List.map_nil, List.append_assoc]
    · simp only [hmisdirected, harrived, if_true, Bool.false_eq_true, if_false, on_bind, on_notify,
        on_pure, List.append_nil, List.map_cons, List.map_nil]
  · by_cases harrived : cargo.delivery.isUnloadedAtDestination && !before.isUnloadedAtDestination
    · simp only [hmisdirected, harrived, Bool.false_eq_true, if_false, if_true, on_notify,
        List.nil_append, List.map_cons, List.map_nil]
    · simp only [hmisdirected, harrived, Bool.false_eq_true, if_false, on_pure, List.append_nil,
        List.map_nil]

/-- The store to which the event of an inspection, if there is one, has been added. -/
def extended (store : σ) : Option HandlingEvent → σ
  | none => store
  | some event => CargoStore.append store event

theorem inspectAfter_on (now : Instant) (id : TrackingId) (event : Option HandlingEvent)
    (world : World σ) :
    (inspectAfter now id event).on world =
      match CargoStore.find world.store id now with
      | .error e => (.error e, world)
      | .ok cargo =>
        match CargoStore.history (extended world.store event) id with
        | .error e => (.error e, { world with store := extended world.store event })
        | .ok history => (.ok (), {
            store := CargoStore.store (extended world.store event) (cargo.deriveFrom history now)
            notices := world.notices ++ notices cargo.delivery (cargo.deriveFrom history now)
            log := world.log ++ [.derived id (cargo.deriveFrom history now).delivery] ++
              (notices cargo.delivery (cargo.deriveFrom history now)).map .noticed }) := by
  unfold inspectAfter
  simp only [on_bind, on_findCargo]
  cases CargoStore.find world.store id now with
  | error e => rfl
  | ok cargo =>
    cases event with
    | none =>
      simp only [on_bind, on_history, extended]
      cases CargoStore.history world.store id with
      | error e => rfl
      | ok history => simp only [on_storeCargo, on_log, announce_on]
    | some event =>
      simp only [on_bind, on_appendEvent, on_history, extended]
      cases CargoStore.history (CargoStore.append world.store event) id with
      | error e => rfl
      | ok history => simp only [on_storeCargo, on_log, announce_on]

end Inspection

/-! ## Registration and tracking -/

namespace Registration

/-- What a report says was done, if its voyage and its location exist. -/
def activity (directory : Directory) (report : Report) : Except Error Activity := do
  let voyage ←
    if report.voyageNumber.isEmpty then pure none
    else some <$> directory.findVoyage report.voyageNumber
  let location ← directory.findLocation report.location
  return ⟨report.kind, location.unLocode, voyage.map (·.number)⟩

/-- The voyage and the location of a report were looked up and found. -/
theorem exists_of_activity {directory : Directory} {report : Report} {done : Activity}
    (h : activity directory report = .ok done) :
    ∃ (location : Location) (voyage : Option Voyage),
      directory.findLocation report.location = .ok location ∧
      (∀ v ∈ voyage, report.voyageNumber.isEmpty = false ∧
        directory.findVoyage report.voyageNumber = .ok v) ∧
      done = ⟨report.kind, location.unLocode, voyage.map (·.number)⟩ := by
  unfold activity at h
  by_cases hvoyage : report.voyageNumber.isEmpty
  · -- No voyage is looked up for an empty number.
    rw [if_pos hvoyage] at h
    cases hlocation : directory.findLocation report.location with
    | error e => rw [hlocation] at h; cases h
    | ok location =>
      rw [hlocation] at h
      cases h
      refine ⟨location, none, rfl, fun v hv => ?_, rfl⟩
      cases hv
  · rw [if_neg hvoyage] at h
    cases hnumber : directory.findVoyage report.voyageNumber with
    | error e => rw [hnumber] at h; cases h
    | ok voyage =>
      cases hlocation : directory.findLocation report.location with
      | error e => rw [hnumber, hlocation] at h; cases h
      | ok location =>
        rw [hnumber, hlocation] at h
        cases h
        refine ⟨location, some voyage, rfl, fun v hv => ?_, rfl⟩
        cases hv
        exact ⟨Bool.eq_false_iff.mpr hvoyage, rfl⟩

/-- The cargo is looked up first. -/
theorem event_eq (directory : Directory) (now registeredAt completedAt : Instant) (report : Report)
    (store : σ) :
    event directory now registeredAt completedAt report store =
      match CargoStore.find store report.trackingId now, activity directory report with
      | .ok cargo, .ok activity =>
        .ok { trackingId := cargo.trackingId, activity, registeredAt, completedAt }
      | .error e, _ => .error e
      | .ok _, .error e => .error e := by
  unfold event activity
  cases CargoStore.find store report.trackingId now with
  | error e => rfl
  | ok cargo =>
    cases report.voyageNumber.isEmpty with
    | true => cases directory.findLocation report.location <;> rfl
    | false =>
      cases directory.findVoyage report.voyageNumber with
      | error e => rfl
      | ok voyage => cases directory.findLocation report.location <;> rfl

/-- The cargo of a report was looked up and found as well. -/
theorem exists_of_event {directory : Directory} {now registeredAt completedAt : Instant}
    {report : Report} {store : σ} {made : HandlingEvent}
    (h : event directory now registeredAt completedAt report store = .ok made) :
    ∃ cargo done, CargoStore.find store report.trackingId now = .ok cargo ∧
      activity directory report = .ok done ∧
      made = ⟨cargo.trackingId, done, registeredAt, completedAt⟩ := by
  rw [event_eq] at h
  cases hfind : CargoStore.find store report.trackingId now with
  | error e => rw [hfind] at h; cases h
  | ok cargo =>
    cases hactivity : activity directory report with
    | error e => rw [hfind, hactivity] at h; cases h
    | ok done =>
      rw [hfind, hactivity] at h
      exact ⟨cargo, done, rfl, rfl, (Except.ok.inj h).symm⟩

theorem register_on (directory : Directory) (now : Instant) (report : Report) (world : World σ) :
    (register directory now report).on world =
      match report.completion with
      | .error fault => (.error (.invalidArgument fault), { world with
          log := world.log ++ [.incomplete report.trackingId fault] })
      | .ok completedAt =>
        match event directory now now completedAt report world.store with
        | .error cause => (.error cause, { world with
            log := world.log ++ [.refused report.trackingId cause] })
        | .ok event =>
          match (Inspection.record now event).on world with
          | (.error e, world) => (.error e, world)
          | (.ok _, world) => (.ok (), { world with log := world.log ++ [.registered event] }) := by
  unfold register
  cases report.completion with
  | error fault => rfl
  | ok completedAt =>
    simp only [on_bind, on_get]
    cases event directory now now completedAt report world.store with
    | error cause => rfl
    | ok event =>
      -- What the inspection does is left as it is here: it has its own equation.
      simp only [on_bind, on_log]
      rcases (Inspection.record now event).on world with ⟨_ | _, _⟩ <;> rfl

end Registration

namespace Tracking

theorem track_on (now : Instant) (id : TrackingId) (world : World σ) :
    (track now id).on world =
      (if id.isEmpty then .error (.invalidArgument .noTrackingId)
        else match CargoStore.find world.store id now, CargoStore.history world.store id with
          | .ok cargo, .ok history => .ok (.of cargo history)
          | .error e, _ => .error e
          | .ok _, .error e => .error e, world) := by
  unfold track
  by_cases hid : id.isEmpty
  · rw [if_pos hid, if_pos hid]
    rfl
  · rw [if_neg hid, if_neg hid]
    simp only [on_bind, on_findCargo, on_history]
    cases CargoStore.find world.store id now with
    | error e => rfl
    | ok cargo =>
      dsimp only
      cases CargoStore.history world.store id <;> rfl

end Tracking

end CargoTracking
