import CargoTracking.Cargo
import CargoTracking.Proofs.Prediction

/-!
# Deliveries under changing plans

A delivery is derived from a plan and a last event only.  So its fields fit together, under every
plan that the delivery is updated to, and a cargo that is updated step by step has the delivery that
its present plan and the last history that was looked at give, although most steps do not look at a
history.
-/

namespace CargoTracking

namespace Delivery

/-! ## The fields of a delivery -/

/-- The fields of a delivery fit each other and the plan. -/
structure Consistent (delivery : Delivery) (spec : RouteSpecification) (itinerary : Itinerary) :
    Prop where
  eta_isSome_iff : delivery.eta.isSome = true ↔
    delivery.routingStatus = .routed ∧ delivery.isMisdirected = false
  /-- The cargo arrives with the last leg, in time. -/
  eta : ∀ time ∈ delivery.eta,
    (∃ leg, itinerary.legs.getLast? = some leg ∧ time = leg.unloadTime) ∧
      ∀ deadline ∈ spec.arrivalDeadline, time ≤ deadline
  expected : delivery.nextExpectedActivity.isSome = true →
    delivery.routingStatus = .routed ∧ delivery.isMisdirected = false
  location_eq_none_iff : delivery.lastKnownLocation = none ↔
    delivery.transportStatus = .notReceived
  notReceived_iff : delivery.transportStatus = .notReceived ↔ delivery.lastEvent = none
  voyage : ∀ number ∈ delivery.currentVoyage, delivery.transportStatus = .onboardCarrier ∧
    ∃ event, delivery.lastEvent = some event ∧ event.activity.voyageNumber = some number
  unloaded : delivery.isUnloadedAtDestination = true → delivery.transportStatus = .inPort ∧
    delivery.lastKnownLocation = some spec.destination ∧ delivery.currentVoyage = none
  notRouted : delivery.routingStatus = .notRouted →
    (delivery.isMisdirected = true ↔ delivery.lastEvent.isSome = true)

section Fields

variable {spec : RouteSpecification} {itinerary : Itinerary} {last : Option HandlingEvent}
  {now : Instant}

theorem onTrack_iff_fields : onTrack spec itinerary last = true ↔
    (ofLastEvent spec itinerary last now).routingStatus = .routed ∧
      (ofLastEvent spec itinerary last now).isMisdirected = false := by
  rw [← isOnTrack_ofLastEvent spec itinerary last now, isOnTrack, Bool.and_eq_true,
    decide_eq_true_eq, Bool.not_eq_true']

/-- On track the plan has a last leg, which arrives in time. -/
theorem finalArrivalTime?_of_onTrack (h : onTrack spec itinerary last = true) :
    ∃ leg, itinerary.legs.getLast? = some leg ∧
      itinerary.finalArrivalTime? = some leg.unloadTime ∧
      ∀ deadline ∈ spec.arrivalDeadline, leg.unloadTime ≤ deadline := by
  obtain ⟨_, leg, -, hleg, -, -, hdeadline⟩ := Itinerary.satisfies_iff.1 (onTrack_iff.mp h).1
  refine ⟨leg, hleg, ?_, hdeadline⟩
  rw [Itinerary.finalArrivalTime?, hleg, Option.map_some]

theorem eta_ofLastEvent : (ofLastEvent spec itinerary last now).eta =
    if onTrack spec itinerary last then itinerary.finalArrivalTime? else none := rfl

theorem transportStatus_after_eq_notReceived_iff :
    TransportStatus.after last = .notReceived ↔ last = none := by
  cases last with
  | none => exact iff_of_true rfl rfl
  | some event =>
    refine iff_of_false ?_ (Option.some_ne_none event)
    dsimp only [TransportStatus.after]
    cases event.activity.kind <;> exact nofun

/-- Nothing is expected of a plan without legs. -/
theorem isMisdirected_of_notRouted (h : RoutingStatus.of spec itinerary = .notRouted) :
    (ofLastEvent spec itinerary last now).isMisdirected = last.isSome := by
  have hempty := RoutingStatus.of_eq_notRouted_iff.mp h
  cases last with
  | none => rfl
  | some event =>
    show (!itinerary.foresees event.activity) = true
    rw [Itinerary.foresees, hempty]
    rfl

variable (spec itinerary last now) in
theorem consistent_ofLastEvent :
    (ofLastEvent spec itinerary last now).Consistent spec itinerary where
  eta_isSome_iff := by
    rw [← onTrack_iff_fields, eta_ofLastEvent]
    constructor
    · intro h
      split at h
      · assumption
      · cases h
    · intro h
      obtain ⟨leg, -, harrival, -⟩ := finalArrivalTime?_of_onTrack h
      rw [if_pos h, harrival, Option.isSome_some]
  eta time htime := by
    rw [eta_ofLastEvent] at htime
    split at htime
    · rename_i htrack
      obtain ⟨leg, hleg, harrival, hdeadline⟩ := finalArrivalTime?_of_onTrack htrack
      rw [harrival] at htime
      cases htime
      exact ⟨⟨leg, hleg, rfl⟩, hdeadline⟩
    · cases htime
  expected h := by
    have hnext : (ofLastEvent spec itinerary last now).nextExpectedActivity =
      if onTrack spec itinerary last then nextActivity? spec itinerary last else none := rfl
    rw [hnext] at h
    split at h
    · exact onTrack_iff_fields.mp ‹_›
    · cases h
  location_eq_none_iff := by
    show last.map _ = none ↔ TransportStatus.after last = .notReceived
    rw [transportStatus_after_eq_notReceived_iff, Option.map_eq_none_iff]
  notReceived_iff := transportStatus_after_eq_notReceived_iff
  voyage number hnumber := by
    obtain ⟨event, rfl, hvoyage⟩ := Option.bind_eq_some_iff.mp hnumber
    rw [voyageAfter?] at hvoyage
    split at hvoyage
    · rename_i hload
      refine ⟨?_, event, rfl, hvoyage⟩
      show TransportStatus.after (some event) = _
      rw [TransportStatus.after, hload]
    · cases hvoyage
  unloaded h := by
    obtain ⟨event, rfl, hevent⟩ := (Option.any_eq_true _ _).mp h
    rw [Bool.and_eq_true, decide_eq_true_eq, decide_eq_true_eq] at hevent
    obtain ⟨hkind, hlocation⟩ := hevent
    refine ⟨?_, congrArg some hlocation, ?_⟩
    · show TransportStatus.after (some event) = _
      rw [TransportStatus.after, hkind]
    · show voyageAfter? event = none
      rw [voyageAfter?, hkind, if_neg (by decide)]
  notRouted h := by rw [isMisdirected_of_notRouted h]; rfl

end Fields

/-! ## Updates to other plans -/

/-- A plan that a delivery is updated to, and the time of the update. -/
structure Rerouting where
  specification : RouteSpecification
  itinerary : Itinerary
  time : Instant

/-- The delivery after updates to other plans, one after the other. -/
def rerouted (delivery : Delivery) : List Rerouting → Delivery
  | [] => delivery
  | update :: rest =>
    (delivery.updateOnRouting update.specification update.itinerary update.time).rerouted rest

/-- However often a delivery is updated to another plan, it is the one that the last plan and the
same last event give. -/
theorem rerouted_ofLastEvent (last : Option HandlingEvent) (start : Rerouting)
    (updates : List Rerouting) :
    (ofLastEvent start.specification start.itinerary last start.time).rerouted updates =
      let plan := updates.getLast?.getD start
      ofLastEvent plan.specification plan.itinerary last plan.time := by
  induction updates generalizing start with
  | nil => rfl
  | cons update rest ih =>
    rw [List.getLast?_cons, Option.getD_some]
    exact ih update

/-- An update forgets the routing status, which depends on the plan only. -/
theorem routingStatus_rerouted_congr {delivery delivery' : Delivery}
    (h : delivery.routingStatus = delivery'.routingStatus) (updates : List Rerouting) :
    (delivery.rerouted updates).routingStatus = (delivery'.rerouted updates).routingStatus := by
  induction updates generalizing delivery delivery' with
  | nil => exact h
  | cons update rest ih => exact ih rfl

/-- The fields of a delivery fit each other and the present plan, whatever plans it was derived for
before, and the history does not show in its routing status. -/
theorem rerouted_consistent (history : History) (start : Rerouting) (updates : List Rerouting) :
    let plan := updates.getLast?.getD start
    let delivery := (derive start.specification start.itinerary history start.time).rerouted updates
    delivery.Consistent plan.specification plan.itinerary ∧
      (delivery.lastEvent = none ↔ history.events = []) ∧
      ∀ (other : History) (time : Instant),
        ((derive start.specification start.itinerary other time).rerouted updates).routingStatus =
          delivery.routingStatus := by
  intro plan delivery
  have hdelivery : delivery = ofLastEvent plan.specification plan.itinerary history.last? plan.time :=
    rerouted_ofLastEvent history.last? start updates
  refine ⟨?_, ?_, fun other time => ?_⟩
  · rw [hdelivery]
    exact consistent_ofLastEvent plan.specification plan.itinerary history.last? plan.time
  · rw [hdelivery]
    exact History.last?_eq_none_iff
  · have hstatus : (derive start.specification start.itinerary other time).routingStatus =
      (derive start.specification start.itinerary history start.time).routingStatus := rfl
    exact routingStatus_rerouted_congr hstatus updates

end Delivery

/-! ## Updates of a cargo -/

/-- A step that gives a cargo a part of its plan, or looks at a history. -/
inductive Cargo.Update
  | assign (itinerary : Itinerary)
  | respecify (spec : RouteSpecification)
  | derive (history : History)

namespace Cargo.Update

def itinerary? : Update → Option Itinerary
  | assign itinerary => some itinerary
  | _ => none

def specification? : Update → Option RouteSpecification
  | respecify spec => some spec
  | _ => none

def history? : Update → Option History
  | derive history => some history
  | _ => none

/-- What updates in a row, each at its time, have given last. -/
def latest? {α : Type} (part : Update → Option α) (updates : List (Instant × Update)) : Option α :=
  (updates.filterMap fun entry => part entry.2).getLast?

theorem latest?_cons {α : Type} (part : Update → Option α) (now : Instant) (update : Update)
    (rest : List (Instant × Update)) (given : α) :
    (latest? part ((now, update) :: rest)).getD given =
      (latest? part rest).getD ((part update).getD given) := by
  rw [latest?, latest?, List.filterMap_cons]
  cases part update with
  | none => rfl
  | some a => rw [List.getLast?_cons, Option.getD_some, Option.getD_some]

end Cargo.Update

namespace Cargo

open Update

def update (cargo : Cargo) (now : Instant) : Update → Cargo
  | .assign itinerary => cargo.assign itinerary now
  | .respecify spec => cargo.respecify spec now
  | .derive history => cargo.deriveFrom history now

/-- The cargo after updates in a row, each at its time. -/
def updated (cargo : Cargo) : List (Instant × Update) → Cargo
  | [] => cargo
  | (now, update) :: rest => (cargo.update now update).updated rest

/-- The same cargo, with a delivery that was derived at another time. -/
def restamped (cargo : Cargo) (time : Instant) : Cargo :=
  { cargo with delivery := { cargo.delivery with calculatedAt := time } }

/-- The cargo of a plan whose delivery is derived from a history. -/
def derived (id : TrackingId) (origin : UnLocode) (spec : RouteSpecification)
    (itinerary : Itinerary) (history : History) (time : Instant) : Cargo :=
  ⟨id, origin, spec, itinerary, .derive spec itinerary history time⟩

section Updated

variable (id : TrackingId) (origin : UnLocode) (spec : RouteSpecification) (itinerary : Itinerary)
  (history : History) (time : Instant)

/-- One update puts its part in the place of what was there.  If that is no history, the delivery
remembers the last event of the one that was there. -/
theorem update_derived (now : Instant) (update : Update) :
    (derived id origin spec itinerary history time).update now update =
      derived id origin (update.specification?.getD spec) (update.itinerary?.getD itinerary)
        (update.history?.getD history) now := by
  cases update <;> rfl

theorem updated_derived (updates : List (Instant × Update)) :
    (derived id origin spec itinerary history time).updated updates =
      derived id origin ((latest? specification? updates).getD spec)
        ((latest? itinerary? updates).getD itinerary) ((latest? history? updates).getD history)
        ((updates.getLast?.map Prod.fst).getD time) := by
  induction updates generalizing spec itinerary history time with
  | nil => rfl
  | cons entry rest ih =>
    obtain ⟨now, update⟩ := entry
    rw [updated, update_derived, ih, latest?_cons, latest?_cons, latest?_cons, List.getLast?_cons]
    cases rest.getLast? <;> rfl

end Updated

/-- What updates make of a cargo that is booked. -/
structure Rederived (id : TrackingId) (spec : RouteSpecification) (booked : Instant)
    (updates : List (Instant × Update)) : Prop where
  trackingId : ((book id spec booked).updated updates).trackingId = id
  origin : ((book id spec booked).updated updates).origin = spec.origin
  routeSpecification : ((book id spec booked).updated updates).routeSpecification =
    (latest? specification? updates).getD spec
  itinerary : ((book id spec booked).updated updates).itinerary =
    (latest? itinerary? updates).getD .empty
  /-- The delivery is the one that the present plan and the last history give. -/
  delivery : ∃ time, ((book id spec booked).updated updates).delivery =
    .derive ((book id spec booked).updated updates).routeSpecification
      ((book id spec booked).updated updates).itinerary
      ((latest? history? updates).getD .empty) time
  /-- Nothing else matters of the updates. -/
  only_latest : ∀ (others : List (Instant × Update)),
    latest? specification? others = latest? specification? updates →
    latest? itinerary? others = latest? itinerary? updates →
    latest? history? others = latest? history? updates →
    ∃ time, (book id spec booked).updated others =
      ((book id spec booked).updated updates).restamped time
  /-- The two parts of the plan can be changed in either order. -/
  commute : ∀ (itinerary' : Itinerary) (spec' : RouteSpecification) (t₁ t₂ t₃ t₄ : Instant),
    ∃ time, ((((book id spec booked).updated updates).assign itinerary' t₁).respecify spec' t₂) =
      ((((book id spec booked).updated updates).respecify spec' t₃).assign itinerary' t₄).restamped
        time

/-- After any updates a cargo has the delivery that is derived from its present plan and the last
history that it was derived from, which is empty if there was none. -/
theorem updates_rederive (id : TrackingId) (spec : RouteSpecification) (booked : Instant)
    (updates : List (Instant × Update)) : Rederived id spec booked updates := by
  have hupdated := updated_derived id spec.origin spec .empty .empty booked
  have hbook : book id spec booked = derived id spec.origin spec .empty .empty booked := rfl
  rw [← hbook] at hupdated
  refine ⟨?_, ?_, ?_, ?_, ?_, fun others hspec hitinerary hhistory => ?_, fun _ _ _ t₂ _ _ => ⟨t₂, rfl⟩⟩
  · rw [hupdated]; rfl
  · rw [hupdated]; rfl
  · rw [hupdated]; rfl
  · rw [hupdated]; rfl
  · rw [hupdated]
    exact ⟨_, rfl⟩
  · rw [hupdated, hupdated, hspec, hitinerary, hhistory]
    exact ⟨_, rfl⟩

end Cargo

end CargoTracking
