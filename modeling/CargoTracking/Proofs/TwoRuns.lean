import CargoTracking.Proofs.Effects
import CargoTracking.Proofs.Endings
import CargoTracking.Proofs.RoundTrip
import CargoTracking.Proofs.Scanning
import Mathlib.Logic.Equiv.Basic

/-!
# Two runs on the same store

The same call made twice on a store, at another time and with another id at hand, fails both times or
succeeds both times, and leaves stores that answer alike, where the id of one run stands for that of
the other.
-/

namespace CargoTracking

open CargoStore Inspection

/-! ## Stores that are alike -/

/-- The times are the same, or each is the one that its run has drawn. -/
def SameTime (draw draw' : Draw) (time time' : Instant) : Prop :=
  time = time' ∨ time = draw.now ∧ time' = draw'.now

structure SameEvent (draw draw' : Draw) (event event' : HandlingEvent) : Prop where
  activity : event.activity = event'.activity
  registeredAt : SameTime draw draw' event.registeredAt event'.registeredAt
  completedAt : SameTime draw draw' event.completedAt event'.completedAt

def SameHistory (draw draw' : Draw) (reports reports' : History) : Prop :=
  List.Forall₂ (SameEvent draw draw') reports.events reports'.events

/-- The cargos have the same plan, up to a relation of the legs. -/
structure SamePlan (R : Leg → Leg → Prop) (cargo cargo' : Cargo) : Prop where
  origin : cargo.origin = cargo'.origin
  routeSpecification : cargo.routeSpecification = cargo'.routeSpecification
  legs : List.Forall₂ R cargo.itinerary.legs cargo'.itinerary.legs

/-- They have the same routing status as well, if the legs are the same. -/
structure SameCargo (R : Leg → Leg → Prop) (cargo cargo' : Cargo) : Prop
    extends SamePlan R cargo cargo' where
  routingStatus : cargo.itinerary = cargo'.itinerary →
    cargo.delivery.routingStatus = cargo'.delivery.routingStatus

section Alike

variable {σ : Type} [CargoStore σ]

/-- The stores answer alike about the ids. -/
structure AlikeAt (R : Leg → Leg → Prop) (draw draw' : Draw) (store store' : σ)
    (id id' : TrackingId) : Prop where
  booked : id ∈ trackingIds store ↔ id' ∈ trackingIds store'
  cargo (time : Instant) : Option.Rel (SameCargo R) (find store id time).toOption
    (find store' id' time).toOption
  history : Option.Rel (SameHistory draw draw') (history store id).toOption
    (history store' id').toOption
  /-- Deliveries that come from the same differ in stamps at most. -/
  delivery {time : Instant} {cargo cargo' : Cargo} (h : find store id time = .ok cargo)
    (h' : find store' id' time = .ok cargo') (hitinerary : cargo.itinerary = cargo'.itinerary)
    (hhistory : (CargoStore.history store id).map History.unstamped =
      (CargoStore.history store' id').map History.unstamped) :
    cargo.delivery.unstamped = cargo'.delivery.unstamped

/-- The stores answer alike about every id, where the id of one draw stands for that of the other. -/
def Alike (R : Leg → Leg → Prop) (draw draw' : Draw) (store store' : σ) : Prop :=
  ∀ id, AlikeAt R draw draw' store store' id (Equiv.swap draw.fresh draw'.fresh id)

/-- No cargo and no event has the id. -/
structure Unused (store : σ) (id : TrackingId) : Prop where
  unbooked : id ∉ trackingIds store
  unhandled : CargoStore.history store id = .ok .empty

/-- The ids of the draws are new to the store, or there is one only. -/
def Draw.Comparable (store : σ) (draw draw' : Draw) : Prop :=
  draw.fresh = draw'.fresh ∨ Unused store draw.fresh ∧ Unused store draw'.fresh

section Relations

variable {R : Leg → Leg → Prop} {draw draw' : Draw} {store store' : σ} {id id' : TrackingId}

theorem sameHistory_refl (draw draw' : Draw) (reports : History) :
    SameHistory draw draw' reports reports :=
  List.forall₂_same.mpr fun _ _ => ⟨rfl, .inl rfl, .inl rfl⟩

theorem samePlan_of_eq (h : ∀ leg, R leg leg) {cargo cargo' : Cargo}
    (horigin : cargo.origin = cargo'.origin)
    (hspec : cargo.routeSpecification = cargo'.routeSpecification)
    (hitinerary : cargo.itinerary = cargo'.itinerary) : SamePlan R cargo cargo' where
  origin := horigin
  routeSpecification := hspec
  legs := by
    rw [hitinerary]
    exact List.forall₂_same.mpr fun leg _ => h leg

theorem alikeAt_of_eq (h : ∀ leg, R leg leg)
    (hbooked : id ∈ trackingIds store ↔ id' ∈ trackingIds store')
    (hfind : ∀ time, find store id time = find store' id' time)
    (hhistory : CargoStore.history store id = CargoStore.history store' id') :
    AlikeAt R draw draw' store store' id id' where
  booked := hbooked
  cargo time := by
    rw [hfind]
    exact rel_refl (fun cargo => ⟨samePlan_of_eq h rfl rfl rfl, fun _ => rfl⟩) _
  history := by
    rw [hhistory]
    exact rel_refl (sameHistory_refl draw draw') _
  delivery hcargo hcargo' _ _ := by
    rw [hfind] at hcargo
    rw [Except.ok.inj (hcargo.symm.trans hcargo')]

theorem Draw.Comparable.unused (h : Comparable store draw draw')
    (hne : Equiv.swap draw.fresh draw'.fresh id ≠ id) :
    Unused store id ∧ Unused store (Equiv.swap draw.fresh draw'.fresh id) := by
  rcases h with heq | ⟨hfresh, hfresh'⟩
  · rw [heq, Equiv.swap_self] at hne
    exact absurd rfl hne
  · by_cases hid : id = draw.fresh
    · rw [hid, Equiv.swap_apply_left]
      exact ⟨hfresh, hfresh'⟩
    · by_cases hid' : id = draw'.fresh
      · rw [hid', Equiv.swap_apply_right]
        exact ⟨hfresh', hfresh⟩
      · exact absurd (Equiv.swap_apply_of_ne_of_ne hid hid') hne

variable [SteadyStore σ] {before after after' : σ}

theorem Unused.alikeAt (h : Unused store id) (h' : Unused store' id') :
    AlikeAt R draw draw' store store' id id' where
  booked := iff_of_false h.unbooked h'.unbooked
  cargo time := by
    rw [LawfulStore.find_of_not_mem h.unbooked, LawfulStore.find_of_not_mem h'.unbooked]
    exact .none
  history := by
    rw [h.unhandled, h'.unhandled]
    exact .some (sameHistory_refl draw draw' .empty)
  delivery hcargo := by
    rw [LawfulStore.find_of_not_mem h.unbooked] at hcargo
    cases hcargo

theorem Elsewhere.mem_trackingIds (h : Elsewhere id before after) :
    id ∈ trackingIds after ↔ id ∈ trackingIds before := by
  induction h with
  | refl => rfl
  | append _ _ ih => rw [LawfulStore.trackingIds_append, ih]
  | store _ hne ih => rw [LawfulStore.mem_trackingIds_store, or_iff_right hne, ih]

theorem Elsewhere.unused (h : Elsewhere id before after) (hunused : Unused before id) :
    Unused after id where
  unbooked hid := hunused.unbooked (h.mem_trackingIds.mp hid)
  unhandled := by rw [h.history_eq, hunused.unhandled]

theorem Elsewhere.alikeAt (hrefl : ∀ leg, R leg leg) (h : Elsewhere id before after)
    (h' : Elsewhere id before after') : AlikeAt R draw draw' after after' id id :=
  alikeAt_of_eq hrefl (h.mem_trackingIds.trans h'.mem_trackingIds.symm)
    (fun time => (h.find_eq time).trans (h'.find_eq time).symm) (h.history_eq.trans h'.history_eq.symm)

/-- Two changes of one cargo leave stores that are alike if they are alike about the cargo. -/
theorem alike_of_elsewhere (hrefl : ∀ leg, R leg leg) (hdraws : Draw.Comparable before draw draw')
    (hid : id ∈ trackingIds before) (h : ∀ other ≠ id, Elsewhere other before after)
    (h' : ∀ other ≠ id, Elsewhere other before after')
    (hself : AlikeAt R draw draw' after after' id id) : Alike R draw draw' after after' := by
  have hother : ∀ {other}, Unused before other → other ≠ id := by
    rintro _ hunused rfl
    exact hunused.unbooked hid
  intro other
  by_cases hswap : Equiv.swap draw.fresh draw'.fresh other = other
  · rw [hswap]
    by_cases heq : other = id
    · rw [heq]
      exact hself
    · exact (h other heq).alikeAt hrefl (h' other heq)
  · -- The id is that of a draw, and so is the one that it stands for.
    obtain ⟨hunused, hunused'⟩ := hdraws.unused hswap
    exact ((h other (hother hunused)).unused hunused).alikeAt
      ((h' _ (hother hunused')).unused hunused')

theorem alike_self (hrefl : ∀ leg, R leg leg) (hdraws : Draw.Comparable before draw draw') :
    Alike R draw draw' before before := by
  intro id
  by_cases hswap : Equiv.swap draw.fresh draw'.fresh id = id
  · rw [hswap]
    exact Elsewhere.refl.alikeAt hrefl .refl
  · obtain ⟨hunused, hunused'⟩ := hdraws.unused hswap
    exact hunused.alikeAt hunused'

omit [SteadyStore σ] in
theorem elsewhere_commit {event : Option HandlingEvent} {cargo : Cargo} (store : σ)
    (howner : ∀ e ∈ event, e.trackingId = cargo.trackingId) (other : TrackingId)
    (hne : other ≠ cargo.trackingId) : Elsewhere other store (commit store event cargo) := by
  refine .store (.extended fun e he heq => hne ?_) hne.symm
  rw [← heq, howner e he]

end Relations

end Alike

/-! ## Calls of runs that are alike -/

section Calls

variable {R : Leg → Leg → Prop} {draw draw' : Draw} {directory : Directory} {store : RecordStore}

/-- A cargo that is stored is found with its plan, and with the delivery that follows from the plan
and the history. -/
theorem find_stored {before : RecordStore} {cargo : Cargo} {reports : History}
    (h : history before cargo.trackingId = .ok reports) (time : Instant) :
    find (CargoStore.store before cargo) cargo.trackingId time = .ok { cargo with
      origin := (before.origin? cargo.trackingId).getD cargo.origin
      delivery := .derive cargo.routeSpecification cargo.itinerary reports time } :=
  RecordStore.find_store_self h time

theorem alikeAt_store {before before' : RecordStore} {cargo cargo' : Cargo}
    {reports reports' : History}
    (hkept : before.origin? cargo.trackingId = before'.origin? cargo'.trackingId)
    (hplan : SamePlan R cargo cargo') (hreports : history before cargo.trackingId = .ok reports)
    (hreports' : history before' cargo'.trackingId = .ok reports')
    (hsame : SameHistory draw draw' reports reports') :
    AlikeAt R draw draw' (CargoStore.store before cargo) (CargoStore.store before' cargo')
      cargo.trackingId cargo'.trackingId where
  booked := by rw [LawfulStore.mem_trackingIds_store, LawfulStore.mem_trackingIds_store,
    eq_self, eq_self, true_or, true_or]
  cargo time := by
    rw [find_stored hreports, find_stored hreports']
    refine .some ⟨⟨?_, hplan.routeSpecification, hplan.legs⟩, fun hitinerary => ?_⟩
    · show (before.origin? cargo.trackingId).getD cargo.origin =
        (before'.origin? cargo'.trackingId).getD cargo'.origin
      rw [hkept, hplan.origin]
    · show RoutingStatus.of cargo.routeSpecification cargo.itinerary =
        RoutingStatus.of cargo'.routeSpecification cargo'.itinerary
      rw [hplan.routeSpecification]
      exact congrArg _ hitinerary
  history := by
    rw [LawfulStore.history_store, LawfulStore.history_store, hreports, hreports']
    exact .some hsame
  delivery {time found found'} hfound hfound' hitinerary hhistory := by
    rw [LawfulStore.history_store, LawfulStore.history_store, hreports, hreports'] at hhistory
    have hunstamped : reports.unstamped = reports'.unstamped := Except.ok.inj hhistory
    rw [find_stored hreports] at hfound
    rw [find_stored hreports'] at hfound'
    cases hfound
    cases hfound'
    have hsameItinerary : cargo.itinerary = cargo'.itinerary := hitinerary
    dsimp only
    rw [Delivery.unstamped_derive, Delivery.unstamped_derive, hplan.routeSpecification,
      hsameItinerary, hunstamped]

/-- What is looked up in both runs. -/
theorem cases_of_lookup (store : RecordStore) (id : TrackingId) (now now' : Instant) :
    (∃ e, find store id now = .error e ∧ find store id now' = .error e) ∨
      ∃ cargo reports, find store id now = .ok cargo ∧ find store id now' = .ok (cargo.dated now') ∧
        history store id = .ok reports ∧ cargo.trackingId = id := by
  cases hfind : find store id now with
  | error e => exact .inl ⟨e, rfl, SteadyStore.find_eq_error hfind now'⟩
  | ok cargo =>
    obtain ⟨reports, hreports⟩ := LawfulStore.history_of_find hfind
    exact .inr ⟨cargo, reports, rfl, RecordStore.find_dated hfind now', hreports,
      RecordStore.trackingId_of_find hfind⟩

theorem Unused.origin?_eq_none {id : TrackingId} (h : Unused store id) :
    store.origin? id = none := by
  rw [RecordStore.origin?, Option.map_eq_none_iff, Std.TreeMap.getElem?_eq_none]
  exact fun hid => h.unbooked (Std.TreeMap.mem_keys.mpr hid)

theorem SameHistory.append {reports reports' : History} (h : SameHistory draw draw' reports reports')
    {event event' : HandlingEvent} (hevent : SameEvent draw draw' event event') :
    SameHistory draw draw' (reports.append event) (reports'.append event') :=
  List.rel_append h (.cons hevent .nil)

variable (hrefl : ∀ leg, R leg leg) (hdraws : draw.Comparable store draw')

include hrefl hdraws

/-- Commits about one cargo that was there leave stores that are alike. -/
theorem alike_commit {event event' : Option HandlingEvent} {cargo cargo' : Cargo}
    {reports reports' : History}
    (hbooked : cargo.trackingId ∈ trackingIds store) (hid : cargo.trackingId = cargo'.trackingId)
    (howner : ∀ e ∈ event, e.trackingId = cargo.trackingId)
    (howner' : ∀ e ∈ event', e.trackingId = cargo'.trackingId) (hplan : SamePlan R cargo cargo')
    (hreports : history (extended store event) cargo.trackingId = .ok reports)
    (hreports' : history (extended store event') cargo'.trackingId = .ok reports')
    (hsame : SameHistory draw draw' reports reports') :
    Alike R draw draw' (commit store event cargo) (commit store event' cargo') := by
  have hkept : RecordStore.origin? (extended store event) cargo.trackingId =
      RecordStore.origin? (extended store event') cargo'.trackingId := by
    rw [RecordStore.origin?_extended, RecordStore.origin?_extended, hid]
  have hself := alikeAt_store hkept hplan hreports hreports' hsame
  refine alike_of_elsewhere hrefl hdraws hbooked (elsewhere_commit store howner) ?_ ?_
  · rw [hid]
    exact elsewhere_commit store howner'
  · rw [← hid] at hself
    exact hself

theorem alike_book (spec : RouteSpecification) :
    Alike R draw draw' (commit store none (.book draw.fresh spec draw.now))
      (commit store none (.book draw'.fresh spec draw'.now)) := by
  have helsewhere : ∀ (draw : Draw), ∀ other ≠ draw.fresh,
      Elsewhere other store (commit store none (.book draw.fresh spec draw.now)) :=
    fun draw _ hne => .store .refl (Ne.symm hne)
  rcases hdraws with heq | ⟨hfresh, hfresh'⟩
  · -- A record store does not keep the delivery, so the time does not show.
    have hstores : commit store none (.book draw'.fresh spec draw'.now) =
        commit store none (.book draw.fresh spec draw.now) := by
      rw [heq]
      rfl
    rw [hstores]
    exact alike_self hrefl (.inl heq)
  · intro other
    by_cases hother : other = draw.fresh
    · rw [hother, Equiv.swap_apply_left]
      have hkept := hfresh.origin?_eq_none.trans hfresh'.origin?_eq_none.symm
      exact alikeAt_store hkept ⟨rfl, rfl, .nil⟩ hfresh.unhandled hfresh'.unhandled
        (sameHistory_refl draw draw' .empty)
    · by_cases hother' : other = draw'.fresh
      · -- Neither run books a cargo of the id that the other run has drawn.
        subst hother'
        rw [Equiv.swap_apply_right]
        exact ((helsewhere draw _ hother).unused hfresh').alikeAt
          ((helsewhere draw' _ (Ne.symm hother)).unused hfresh)
      · rw [Equiv.swap_apply_of_ne_of_ne hother hother']
        exact (helsewhere draw other hother).alikeAt hrefl (helsewhere draw' other hother')

theorem book_alike (origin destination : UnLocode) (deadline : Option Instant) :
    Option.Rel (Alike R draw draw')
      (((Call.book draw.fresh origin destination deadline).reply directory draw.now store).after? store)
      (((Call.book draw'.fresh origin destination deadline).reply directory draw'.now
        store).after? store) := by
  simp only [Call.reply]
  cases Booking.specification directory origin destination deadline with
  | error e => exact .none
  | ok spec => exact .some (alike_book hrefl hdraws spec)

theorem assign_alike (id : TrackingId) {legs legs' : List Leg} (hlegs : List.Forall₂ R legs legs') :
    Option.Rel (Alike R draw draw')
      (((Call.assign id ⟨legs⟩).reply directory draw.now store).after? store)
      (((Call.assign id ⟨legs'⟩).reply directory draw'.now store).after? store) := by
  have hempty : Itinerary.isEmpty ⟨legs'⟩ = Itinerary.isEmpty ⟨legs⟩ := by
    cases hlegs <;> rfl
  simp only [Call.reply, hempty]
  by_cases hvalid : id.isEmpty || Itinerary.isEmpty ⟨legs⟩
  · rw [if_pos hvalid, if_pos hvalid]
    exact .none
  · rw [if_neg hvalid, if_neg hvalid]
    rcases cases_of_lookup store id draw.now draw'.now with
      ⟨e, hfind, hfind'⟩ | ⟨cargo, reports, hfind, hfind', hreports, rfl⟩
    · rw [hfind, hfind']
      exact .none
    · rw [hfind, hfind']
      exact .some (alike_commit hrefl hdraws (mem_trackingIds_of_find hfind) rfl (by rintro _ ⟨⟩)
        (by rintro _ ⟨⟩) ⟨rfl, rfl, hlegs⟩ hreports hreports (sameHistory_refl draw draw' reports))

theorem changeDestination_alike (id : TrackingId) (destination : UnLocode) :
    Option.Rel (Alike R draw draw')
      (((Call.changeDestination id destination).reply directory draw.now store).after? store)
      (((Call.changeDestination id destination).reply directory draw'.now store).after? store) := by
  simp only [Call.reply]
  by_cases hvalid : id.isEmpty || destination.isEmpty
  · rw [if_pos hvalid, if_pos hvalid]
    exact .none
  · rw [if_neg hvalid, if_neg hvalid]
    rcases cases_of_lookup store id draw.now draw'.now with
      ⟨e, hfind, hfind'⟩ | ⟨cargo, reports, hfind, hfind', hreports, rfl⟩
    · rw [hfind, hfind']
      exact .none
    · rw [hfind, hfind']
      cases directory.findLocation destination with
      | error e => exact .none
      | ok location =>
        exact .some (alike_commit hrefl hdraws (mem_trackingIds_of_find hfind) rfl (by rintro _ ⟨⟩)
          (by rintro _ ⟨⟩) (samePlan_of_eq hrefl rfl rfl rfl) hreports hreports
          (sameHistory_refl draw draw' reports))

/-- Both runs make an event known that is the same but for its times. -/
theorem inspection_alike {cargo : Cargo} {reports : History} {event event' : HandlingEvent}
    (hfind : find store cargo.trackingId draw.now = .ok cargo)
    (hfind' : find store cargo.trackingId draw'.now = .ok (cargo.dated draw'.now))
    (hreports : history store cargo.trackingId = .ok reports)
    (howner : event.trackingId = cargo.trackingId) (howner' : event'.trackingId = cargo.trackingId)
    (hkind : event.activity.kind ≠ .notHandled) (hevent : SameEvent draw draw' event event') :
    Option.Rel (Alike R draw draw')
      ((Call.inspection draw.now store cargo.trackingId (some event)).after? store)
      ((Call.inspection draw'.now store cargo.trackingId (some event')).after? store) := by
  have hextended : ∀ event : HandlingEvent, event.trackingId = cargo.trackingId →
      event.activity.kind ≠ .notHandled →
      history (extended store (some event)) cargo.trackingId = .ok (reports.append event) := by
    intro event howner hkind
    have happend := LawfulStore.history_append hkind store cargo.trackingId
    rw [if_pos howner, hreports] at happend
    exact happend
  have hkind' : event'.activity.kind ≠ .notHandled := hevent.activity ▸ hkind
  have hread := hextended event howner hkind
  have hread' := hextended event' howner' hkind'
  unfold Call.inspection
  rw [hfind, hfind']
  dsimp only
  rw [hread, hread']
  exact .some (alike_commit hrefl hdraws (mem_trackingIds_of_find hfind) rfl
    (by rintro _ ⟨⟩; exact howner) (by rintro _ ⟨⟩; exact howner')
    (samePlan_of_eq hrefl rfl rfl rfl) hread hread'
    ((sameHistory_refl draw draw' reports).append hevent))

theorem register_alike (id : TrackingId) (kind : EventKind) (location : UnLocode)
    (voyage : VoyageNumber) {done done' : Instant} (hdone : SameTime draw draw' done done') :
    Option.Rel (Alike R draw draw')
      (((Call.register ⟨id, kind, location, voyage, some done⟩).reply directory draw.now
        store).after? store)
      (((Call.register ⟨id, kind, location, voyage, some done'⟩).reply directory draw'.now
        store).after? store) := by
  simp only [Call.reply]
  have hcompletion : ∀ done, Report.completion ⟨id, kind, location, voyage, some done⟩ =
      if id.isEmpty || location.isEmpty then .error .noTrackingIdOrLocation
      else if kind = .notHandled then .error .noEventKind else .ok done := fun _ => rfl
  rw [hcompletion, hcompletion]
  by_cases hempty : id.isEmpty || location.isEmpty
  · rw [if_pos hempty, if_pos hempty]
    exact .none
  · rw [if_neg hempty, if_neg hempty]
    by_cases hkind : kind = .notHandled
    · rw [if_pos hkind, if_pos hkind]
      exact .none
    · rw [if_neg hkind, if_neg hkind]
      have hactivity : Registration.activity directory ⟨id, kind, location, voyage, some done'⟩ =
          Registration.activity directory ⟨id, kind, location, voyage, some done⟩ := rfl
      simp only [Registration.event_eq, hactivity]
      rcases cases_of_lookup store id draw.now draw'.now with
        ⟨e, hfind, hfind'⟩ | ⟨cargo, reports, hfind, hfind', hreports, rfl⟩
      · rw [hfind, hfind']
        exact .none
      · rw [hfind, hfind']
        cases hdoing : Registration.activity directory
            ⟨cargo.trackingId, kind, location, voyage, some done⟩ with
        | error e => exact .none
        | ok doing =>
          obtain ⟨_, _, -, -, rfl⟩ := Registration.exists_of_activity hdoing
          exact inspection_alike hrefl hdraws hfind hfind' hreports rfl rfl hkind
            ⟨rfl, .inr ⟨rfl, rfl⟩, hdone⟩

end Calls

end CargoTracking
