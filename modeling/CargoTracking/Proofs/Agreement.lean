import CargoTracking.Proofs.Commits

/-!
# Stores that agree

Two stores agree if they answer alike, but for the stamps of the clock.  The services see no more of
a store than that: on stores that agree a call comes to the same, at whatever time it is made on
either of them, and the stores agree after it.
-/

namespace CargoTracking

open CargoStore Inspection

variable {σ τ : Type} [CargoStore σ] [CargoStore τ]

structure Agree (store : σ) (other : τ) : Prop where
  trackingIds : trackingIds store = CargoStore.trackingIds other
  find : ∀ id now now',
    (find store id now).map Cargo.unstamped = (CargoStore.find other id now').map Cargo.unstamped
  history : ∀ id,
    (history store id).map History.unstamped = (CargoStore.history other id).map History.unstamped

/-- Two stores answer alike about one cargo. -/
structure AgreeAt (id : TrackingId) (store : σ) (other : τ) : Prop where
  find : ∀ now now',
    (find store id now).map Cargo.unstamped = (CargoStore.find other id now').map Cargo.unstamped
  history :
    (history store id).map History.unstamped = (CargoStore.history other id).map History.unstamped

theorem Agree.agreeAt {store : σ} {other : τ} (h : Agree store other) (id : TrackingId) :
    AgreeAt id store other :=
  ⟨h.find id, h.history id⟩

def Reply.unstamped (reply : Reply) : Reply where
  result := reply.result
  change := reply.change.map fun (event, cargo) => (event.map .unstamped, cargo.unstamped)
  notices := reply.notices.map .unstamped

section Congruence

theorem HandlingEvent.activity_congr {event event' : HandlingEvent}
    (h : event.unstamped = event'.unstamped) : event.activity = event'.activity := by
  show event.unstamped.activity = event'.unstamped.activity
  rw [h]

theorem HandlingEvent.trackingId_congr {event event' : HandlingEvent}
    (h : event.unstamped = event'.unstamped) : event.trackingId = event'.trackingId := by
  show event.unstamped.trackingId = event'.unstamped.trackingId
  rw [h]

variable {cargo cargo' : Cargo} {reports reports' : History}

theorem Cargo.trackingId_congr (h : cargo.unstamped = cargo'.unstamped) :
    cargo.trackingId = cargo'.trackingId := by
  show cargo.unstamped.trackingId = cargo'.unstamped.trackingId
  rw [h]

theorem Cargo.routeSpecification_congr (h : cargo.unstamped = cargo'.unstamped) :
    cargo.routeSpecification = cargo'.routeSpecification := by
  show cargo.unstamped.routeSpecification = cargo'.unstamped.routeSpecification
  rw [h]

theorem Cargo.delivery_congr (h : cargo.unstamped = cargo'.unstamped) :
    cargo.delivery.unstamped = cargo'.delivery.unstamped := by
  show cargo.unstamped.delivery = cargo'.unstamped.delivery
  rw [h]

theorem BookedCargo.of_congr (h : cargo.unstamped = cargo'.unstamped) :
    of cargo = of cargo' := by
  rw [← of_unstamped cargo, h, of_unstamped]

theorem TrackedCargo.of_congr
    (h : cargo.unstamped = cargo'.unstamped) (hreports : reports.unstamped = reports'.unstamped) :
    of cargo reports = of cargo' reports' := by
  rw [← of_unstamped cargo, h, hreports, of_unstamped]

end Congruence

namespace Reply

variable {reply reply' : Reply}

theorem result_congr (h : reply.unstamped = reply'.unstamped) : reply.result = reply'.result := by
  show reply.unstamped.result = reply'.unstamped.result
  rw [h]

theorem notices_congr (h : reply.unstamped = reply'.unstamped) :
    reply.notices.map Notice.unstamped = reply'.notices.map Notice.unstamped := by
  show reply.unstamped.notices = reply'.unstamped.notices
  rw [h]

/-- One of the replies changes a store if and only if the other one does. -/
theorem change_cases (h : reply.unstamped = reply'.unstamped) :
    (reply.change = none ∧ reply'.change = none) ∨
      ∃ event event' cargo cargo', reply.change = some (event, cargo) ∧
        reply'.change = some (event', cargo') ∧
        event.map HandlingEvent.unstamped = event'.map HandlingEvent.unstamped ∧
        cargo.unstamped = cargo'.unstamped := by
  have hchange : reply.change.map _ = reply'.change.map _ := congrArg Reply.change h
  rcases hleft : reply.change with _ | ⟨event, cargo⟩
  · rcases hright : reply'.change with _ | ⟨event', cargo'⟩
    · exact .inl ⟨rfl, rfl⟩
    · rw [hleft, hright] at hchange
      cases hchange
  · rcases hright : reply'.change with _ | ⟨event', cargo'⟩
    · rw [hleft, hright] at hchange
      cases hchange
    · rw [hleft, hright] at hchange
      obtain ⟨hevent, hcargo⟩ := Prod.mk.inj (Option.some.inj hchange)
      exact .inr ⟨event, event', cargo, cargo', rfl, rfl, hevent, hcargo⟩

end Reply

/-- The event of a report differs in its registration at most. -/
theorem AgreeAt.event {store : σ} {other : τ} {report : Report}
    (h : AgreeAt report.trackingId store other) (directory : Directory)
    (now now' completedAt : Instant) :
    (Registration.event directory now now completedAt report store).map HandlingEvent.unstamped =
      (Registration.event directory now' now' completedAt report other).map
        HandlingEvent.unstamped := by
  rw [Registration.event_eq, Registration.event_eq]
  rcases cases_of_map_eq (h.find now now') with
    ⟨e, hx, hy⟩ | ⟨cargo, cargo', hx, hy, hcargo⟩
  · rw [hx, hy]
  · rw [hx, hy]
    cases Registration.activity directory report with
    | error e => rfl
    | ok activity =>
      dsimp only
      rw [Cargo.trackingId_congr hcargo]
      rfl

namespace Agree

variable {store : σ} {other : τ}

theorem bookedCargo (h : Agree store other) (id : TrackingId) (now now' : Instant) :
    (CargoStore.find store id now).map BookedCargo.of =
      (CargoStore.find other id now').map BookedCargo.of := by
  rcases cases_of_map_eq (h.find id now now') with ⟨e, hx, hy⟩ | ⟨cargo, cargo', hx, hy, hcargo⟩
  · rw [hx, hy]
  · rw [hx, hy]
    show Except.ok (BookedCargo.of cargo) = Except.ok (BookedCargo.of cargo')
    rw [BookedCargo.of_congr hcargo]

variable [LawfulStore σ] [LawfulStore τ]

theorem history_extended (h : Agree store other) {event event' : Option HandlingEvent}
    (hkind : ∀ e ∈ event, e.activity.kind ≠ .notHandled)
    (hevent : event.map HandlingEvent.unstamped = event'.map HandlingEvent.unstamped)
    (id : TrackingId) :
    (CargoStore.history (extended store event) id).map History.unstamped =
      (CargoStore.history (extended other event') id).map History.unstamped := by
  cases event with
  | none =>
    cases event' with
    | none => exact h.history id
    | some event' => cases hevent
  | some event =>
    cases event' with
    | none => cases hevent
    | some event' =>
      have hsame : event.unstamped = event'.unstamped := Option.some.inj hevent
      -- The two events differ in their registration at most, so the other one is handled as well.
      have hkind' : event'.activity.kind ≠ .notHandled := by
        rw [← HandlingEvent.activity_congr hsame]
        exact hkind event rfl
      have hid := HandlingEvent.trackingId_congr hsame
      show (CargoStore.history (append store event) id).map _ =
        (CargoStore.history (append other event') id).map _
      rw [LawfulStore.history_append (hkind event rfl), LawfulStore.history_append hkind', hid]
      by_cases hown : event'.trackingId = id
      · rw [if_pos hown, if_pos hown]
        rcases cases_of_map_eq (h.history id) with ⟨e, hx, hy⟩ | ⟨a, b, hx, hy, hab⟩
        · rw [hx, hy]
          rfl
        · rw [hx, hy]
          show Except.ok (a.append event).unstamped = Except.ok (b.append event').unstamped
          rw [History.unstamped_append, History.unstamped_append, hab, hsame]
      · rw [if_neg hown, if_neg hown]
        exact h.history id

end Agree

/-! ## Replies -/

section Replies

variable {store : σ} {other : τ} {id : TrackingId}

theorem unstamped_changing {answer : Answer} {event event' : Option HandlingEvent}
    {cargo cargo' : Cargo} {told told' : List Notice}
    (hevent : event.map HandlingEvent.unstamped = event'.map HandlingEvent.unstamped)
    (hcargo : cargo.unstamped = cargo'.unstamped)
    (htold : told.map Notice.unstamped = told'.map Notice.unstamped) :
    (Reply.mk (.ok answer) (some (event, cargo)) told).unstamped =
      (Reply.mk (.ok answer) (some (event', cargo')) told').unstamped := by
  unfold Reply.unstamped
  simp only [Option.map_some, hevent, hcargo, htold]

theorem unstamped_inspection [LawfulStore σ] [LawfulStore τ] (h : Agree store other)
    {event event' : Option HandlingEvent} (hkind : ∀ e ∈ event, e.activity.kind ≠ .notHandled)
    (hevent : event.map HandlingEvent.unstamped = event'.map HandlingEvent.unstamped)
    (id : TrackingId) (now now' : Instant) :
    (Call.inspection now store id event).unstamped =
      (Call.inspection now' other id event').unstamped := by
  unfold Call.inspection
  rcases cases_of_map_eq (h.find id now now') with ⟨e, hx, hy⟩ | ⟨cargo, cargo', hx, hy, hcargo⟩
  · rw [hx, hy]
  · rw [hx, hy]
    dsimp only
    rcases cases_of_map_eq (h.history_extended hkind hevent id) with
      ⟨e, hx, hy⟩ | ⟨reports, reports', hx, hy, hreports⟩
    · rw [hx, hy]
    · rw [hx, hy]
      have hderived : (cargo.deriveFrom reports now).unstamped =
          (cargo'.deriveFrom reports' now').unstamped := by
        rw [Cargo.unstamped_deriveFrom, hcargo, hreports, Cargo.unstamped_deriveFrom]
      apply unstamped_changing hevent hderived
      rw [notices_unstamped, notices_unstamped, hderived, Cargo.delivery_congr hcargo]

theorem unstamped_load (h : AgreeAt id store other) (directory : Directory) (now now' : Instant) :
    ((Call.load id).reply directory now store).unstamped =
      ((Call.load id).reply directory now' other).unstamped := by
  rw [Call.reply, Call.reply]
  by_cases hid : id.isEmpty
  · rw [if_pos hid, if_pos hid]
  · rw [if_neg hid, if_neg hid]
    rcases cases_of_map_eq (h.find now now') with ⟨e, hx, hy⟩ | ⟨cargo, cargo', hx, hy, hcargo⟩
    · rw [hx, hy]
    · rw [hx, hy]
      dsimp only [Except.map]
      rw [BookedCargo.of_congr hcargo]

theorem unstamped_cargos [LawfulStore σ] [LawfulStore τ] (h : Agree store other)
    (directory : Directory) (now now' : Instant) :
    (Call.cargos.reply directory now store).unstamped =
      (Call.cargos.reply directory now' other).unstamped := by
  -- The ids are the same in the same order, and each of them is found in both stores or in none.
  have hcargos : (findAll store now).map (List.map BookedCargo.of) =
      (findAll other now').map (List.map BookedCargo.of) := by
    rw [LawfulStore.findAll_eq, LawfulStore.findAll_eq, h.trackingIds, map_mapM, map_mapM]
    simp only [h.bookedCargo _ now now']
  rw [Call.reply, Call.reply]
  rcases cases_of_map_eq hcargos with ⟨e, hx, hy⟩ | ⟨cargos, cargos', hx, hy, hcargos⟩
  · rw [hx, hy]
  · rw [hx, hy]
    dsimp only [Except.map]
    rw [hcargos]

theorem unstamped_possibleRoutes (h : AgreeAt id store other) (directory : Directory)
    (now now' : Instant) (router : RouteSpecification → List Itinerary) :
    ((Call.possibleRoutes router id).reply directory now store).unstamped =
      ((Call.possibleRoutes router id).reply directory now' other).unstamped := by
  rw [Call.reply, Call.reply]
  rcases cases_of_map_eq (h.find now now') with ⟨e, hx, hy⟩ | ⟨cargo, cargo', hx, hy, hcargo⟩
  · rw [hx, hy]
  · rw [hx, hy]
    dsimp only [Booking.possibleRoutesOf]
    rw [Cargo.routeSpecification_congr hcargo]

theorem unstamped_assign (h : AgreeAt id store other) (directory : Directory)
    (now now' : Instant) (itinerary : Itinerary) :
    ((Call.assign id itinerary).reply directory now store).unstamped =
      ((Call.assign id itinerary).reply directory now' other).unstamped := by
  rw [Call.reply, Call.reply]
  by_cases hempty : id.isEmpty || itinerary.isEmpty
  · rw [if_pos hempty, if_pos hempty]
  · rw [if_neg hempty, if_neg hempty]
    rcases cases_of_map_eq (h.find now now') with ⟨e, hx, hy⟩ | ⟨cargo, cargo', hx, hy, hcargo⟩
    · rw [hx, hy]
    · rw [hx, hy]
      refine unstamped_changing rfl ?_ rfl
      rw [Cargo.unstamped_assign, hcargo, Cargo.unstamped_assign]

theorem unstamped_changeDestination (h : AgreeAt id store other) (directory : Directory)
    (now now' : Instant) (destination : UnLocode) :
    ((Call.changeDestination id destination).reply directory now store).unstamped =
      ((Call.changeDestination id destination).reply directory now' other).unstamped := by
  rw [Call.reply, Call.reply]
  by_cases hempty : id.isEmpty || destination.isEmpty
  · rw [if_pos hempty, if_pos hempty]
  · rw [if_neg hempty, if_neg hempty]
    rcases cases_of_map_eq (h.find now now') with ⟨e, hx, hy⟩ | ⟨cargo, cargo', hx, hy, hcargo⟩
    · rw [hx, hy]
    · rw [hx, hy]
      cases directory.findLocation destination with
      | error e => rfl
      | ok location =>
        refine unstamped_changing rfl ?_ rfl
        rw [Cargo.unstamped_redirect, hcargo, Cargo.unstamped_redirect]

theorem unstamped_register [LawfulStore σ] [LawfulStore τ] (h : Agree store other)
    (directory : Directory) (now now' : Instant) (report : Report) :
    ((Call.register report).reply directory now store).unstamped =
      ((Call.register report).reply directory now' other).unstamped := by
  rw [Call.reply, Call.reply]
  cases hcompletion : report.completion with
  | error fault => rfl
  | ok completedAt =>
    dsimp only
    rcases cases_of_map_eq ((h.agreeAt report.trackingId).event directory now now' completedAt) with
      ⟨e, hx, hy⟩ | ⟨event, event', hx, hy, hevent⟩
    · rw [hx, hy]
    · have hkind := Registration.handled_of_event hcompletion hx
      have hsame : (some event).map HandlingEvent.unstamped =
          (some event').map HandlingEvent.unstamped := congrArg some hevent
      rw [hx, hy]
      dsimp only
      rw [HandlingEvent.trackingId_congr hevent]
      exact unstamped_inspection h (HandlingEvent.handled_some hkind) hsame _ now now'

theorem unstamped_track (h : AgreeAt id store other) (directory : Directory)
    (now now' : Instant) :
    ((Call.track id).reply directory now store).unstamped =
      ((Call.track id).reply directory now' other).unstamped := by
  rw [Call.reply, Call.reply]
  by_cases hid : id.isEmpty
  · rw [if_pos hid, if_pos hid]
  · rw [if_neg hid, if_neg hid]
    rcases cases_of_map_eq (h.find now now') with ⟨e, hx, hy⟩ | ⟨cargo, cargo', hx, hy, hcargo⟩
    · rw [hx, hy]
    · rw [hx, hy]
      rcases cases_of_map_eq h.history with ⟨e, hx, hy⟩ | ⟨reports, reports', hx, hy, hreports⟩
      · rw [hx, hy]
      · rw [hx, hy]
        dsimp only
        rw [TrackedCargo.of_congr hcargo hreports]

/-- Stores that agree have the same reply to a call, whatever the time. -/
theorem unstamped_reply [LawfulStore σ] [LawfulStore τ] (h : Agree store other) {call : Call}
    (hkind : ∀ event, call = .record event → event.activity.kind ≠ .notHandled)
    (directory : Directory) (now now' : Instant) :
    (call.reply directory now store).unstamped = (call.reply directory now' other).unstamped := by
  cases call with
  | book fresh origin destination deadline =>
    rw [Call.reply, Call.reply]
    cases Booking.specification directory origin destination deadline with
    | error e => rfl
    | ok spec => exact unstamped_changing rfl rfl rfl
  | load id => exact unstamped_load (h.agreeAt id) directory now now'
  | cargos => exact unstamped_cargos h directory now now'
  | possibleRoutes router id =>
    exact unstamped_possibleRoutes (h.agreeAt id) directory now now' router
  | assign id itinerary => exact unstamped_assign (h.agreeAt id) directory now now' itinerary
  | changeDestination id destination =>
    exact unstamped_changeDestination (h.agreeAt id) directory now now' destination
  | register report => exact unstamped_register h directory now now' report
  | record event =>
    exact unstamped_inspection h (HandlingEvent.handled_some (hkind event rfl)) rfl _ now now'
  | inspect id => exact unstamped_inspection h (fun e he => by cases he) rfl id now now'
  | track id => exact unstamped_track (h.agreeAt id) directory now now'

end Replies

/-! ## Stores after a call -/

section Commit

variable {store : σ} {other : τ} {event event' : Option HandlingEvent} {cargo cargo' : Cargo}

theorem find_commit_unstamped [LawfulStore σ] (hfits : Fits store event cargo) (now : Instant) :
    (find (commit store event cargo) cargo.trackingId now).map Cargo.unstamped =
      .ok cargo.unstamped := by
  -- Both deliveries are derived from the same history, at two times that are forgotten.
  obtain ⟨reports, time, time', -, hdelivery, hfind⟩ := find_commit_self hfits now
  rw [hfind]
  show Except.ok (Cargo.unstamped _) = Except.ok cargo.unstamped
  unfold Cargo.unstamped
  rw [hdelivery, Delivery.unstamped_derive, Delivery.unstamped_derive]

variable [LawfulStore σ] [LawfulStore τ]

theorem Agree.mem_trackingIds_commit (h : Agree store other)
    (hcargo : cargo.unstamped = cargo'.unstamped) (id : TrackingId) :
    id ∈ CargoStore.trackingIds (commit store event cargo) ↔
      id ∈ CargoStore.trackingIds (commit other event' cargo') := by
  rw [CargoTracking.mem_trackingIds_commit, CargoTracking.mem_trackingIds_commit, h.trackingIds,
    Cargo.trackingId_congr hcargo]

/-- The same commit on stores that agree. -/
theorem Agree.commit (h : Agree store other) (hfits : Fits store event cargo)
    (hfits' : Fits other event' cargo')
    (hevent : event.map HandlingEvent.unstamped = event'.map HandlingEvent.unstamped)
    (hcargo : cargo.unstamped = cargo'.unstamped) :
    Agree (commit store event cargo) (commit other event' cargo') where
  trackingIds := OrderedMap.eq_of_sorted id (LawfulStore.sorted_trackingIds _)
    (LawfulStore.sorted_trackingIds _) (h.mem_trackingIds_commit hcargo)
  find id now now' := by
    have hid := Cargo.trackingId_congr hcargo
    by_cases hself : cargo.trackingId = id
    · subst hself
      rw [find_commit_unstamped hfits, hid, find_commit_unstamped hfits', hcargo]
    · rw [find_commit_of_ne hfits hself, find_commit_of_ne hfits' (hid ▸ hself)]
      exact h.find id now now'
  history id := by
    rw [CargoTracking.commit, CargoTracking.commit, LawfulStore.history_store,
      LawfulStore.history_store]
    exact h.history_extended hfits.handled hevent id

/-- The changes of two replies that are the same. -/
theorem Agree.applied (h : Agree store other) {reply reply' : Reply}
    (hreply : reply.unstamped = reply'.unstamped)
    (hfits : ∀ event cargo, reply.change = some (event, cargo) → Fits store event cargo)
    (hfits' : ∀ event cargo, reply'.change = some (event, cargo) → Fits other event cargo) :
    Agree (reply.applied store) (reply'.applied other) := by
  unfold Reply.applied
  rcases Reply.change_cases hreply with
    ⟨hleft, hright⟩ | ⟨event, event', cargo, cargo', hleft, hright, hevent, hcargo⟩
  · rw [hleft, hright]
    exact h
  · rw [hleft, hright]
    exact h.commit (hfits event cargo hleft) (hfits' event' cargo' hright) hevent hcargo

end Commit

/-- Two worlds with stores that are up to date and agree, and in which the same was told. -/
structure Matched (world : World σ) (other : World τ) : Prop where
  upToDate : UpToDate world.store
  upToDate' : UpToDate other.store
  agree : Agree world.store other.store
  notices : world.notices.map Notice.unstamped = other.notices.map Notice.unstamped

/-- One call: the same answer, and worlds that match again. -/
theorem Matched.serve [LawfulStore σ] [LawfulStore τ] {world : World σ} {other : World τ}
    (h : Matched world other) {call : Call} (hcall : call.Admissible (trackingIds world.store))
    (directory : Directory) (now now' : Instant) :
    ((call.serve directory now).on world).1 = ((call.serve directory now').on other).1 ∧
      Matched ((call.serve directory now).on world).2 ((call.serve directory now').on other).2 := by
  have hcall' : call.Admissible (trackingIds other.store) := h.agree.trackingIds ▸ hcall
  have hdoes := Call.describes_serve directory now world hcall.handled
  have hdoes' := Call.describes_serve directory now' other hcall.handled
  -- What the two calls do is told by their replies, and these are the same without their stamps.
  have hreply := unstamped_reply h.agree hcall.handled directory now now'
  refine ⟨?_, Call.upToDate_serve h.upToDate hcall, Call.upToDate_serve h.upToDate' hcall', ?_, ?_⟩
  · rw [hdoes.result, hdoes'.result, Reply.result_congr hreply]
  · rw [hdoes.store, hdoes'.store]
    exact h.agree.applied hreply (fun _ _ => Call.fits_reply h.upToDate hcall)
      fun _ _ => Call.fits_reply h.upToDate' hcall'
  · rw [hdoes.notices, hdoes'.notices, List.map_append, List.map_append, h.notices,
      Reply.notices_congr hreply]

end CargoTracking
