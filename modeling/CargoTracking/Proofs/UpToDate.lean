import CargoTracking.Proofs.Operations
import CargoTracking.Proofs.Stores

/-!
# Deliveries are up to date

Operations derive a delivery from what they have at hand: a change of the plan from the last event
that the old delivery remembers, an inspection from the whole history.  The invariant says that
both come to the same: every delivery that is found is the one derived from the present plan and the
full history.  Every operation changes a store by a `commit` at most, which keeps the invariant.
-/

namespace CargoTracking

open CargoStore Inspection

variable {σ : Type} [CargoStore σ]

structure UpToDate (store : σ) : Prop where
  found : ∀ id ∈ trackingIds store, ∀ now, ∃ cargo, find store id now = .ok cargo
  trackingId : ∀ {id now cargo}, find store id now = .ok cargo → cargo.trackingId = id
  derived : ∀ {id now cargo}, find store id now = .ok cargo →
    ∃ reports time, history store id = .ok reports ∧
      cargo.delivery = .derive cargo.routeSpecification cargo.itinerary reports time
  unhandled : ∀ {id}, id ∉ trackingIds store → history store id = .ok .empty

/-- Adds the event, if there is one, to a store, and stores the cargo after it. -/
def commit (store : σ) (event : Option HandlingEvent) (cargo : Cargo) : σ :=
  CargoStore.store (extended store event) cargo

/-- The event belongs to the cargo, whose delivery takes it into account, and whose origin is the one
that is known. -/
structure Fits (store : σ) (event : Option HandlingEvent) (cargo : Cargo) : Prop where
  handled : ∀ e ∈ event, e.activity.kind ≠ .notHandled
  owned : ∀ e ∈ event, e.trackingId = cargo.trackingId
  derived : ∃ reports time, history (extended store event) cargo.trackingId = .ok reports ∧
    cargo.delivery = .derive cargo.routeSpecification cargo.itinerary reports time
  origin : cargo.trackingId ∈ trackingIds store → ∃ now before,
    find store cargo.trackingId now = .ok before ∧ before.origin = cargo.origin

variable [LawfulStore σ]

/-! ## The store after an event -/

theorem trackingIds_extended (store : σ) (event : Option HandlingEvent) :
    trackingIds (extended store event) = trackingIds store := by
  cases event with
  | none => rfl
  | some event => exact LawfulStore.trackingIds_append store event

theorem find_extended {store : σ} {event : Option HandlingEvent} {id : TrackingId} {now : Instant}
    {cargo : Cargo} (h : ∀ e ∈ event, e.activity.kind ≠ .notHandled)
    (hfind : find store id now = .ok cargo) :
    ∃ delivery, find (extended store event) id now = .ok { cargo with delivery } := by
  cases event with
  | none => exact ⟨cargo.delivery, hfind⟩
  | some event => exact LawfulStore.find_append (h event rfl) hfind

theorem find_extended_of_ne {event : Option HandlingEvent} {id : TrackingId}
    (h : ∀ e ∈ event, e.trackingId ≠ id) (store : σ) (now : Instant) :
    find (extended store event) id now = find store id now := by
  cases event with
  | none => rfl
  | some event => exact LawfulStore.find_append_of_ne (h event rfl) store now

theorem history_extended_of_ne {event : Option HandlingEvent} {id : TrackingId}
    (h : ∀ e ∈ event, e.activity.kind ≠ .notHandled) (hne : ∀ e ∈ event, e.trackingId ≠ id)
    (store : σ) : history (extended store event) id = history store id := by
  cases event with
  | none => rfl
  | some event =>
    show history (append store event) id = _
    rw [LawfulStore.history_append (h event rfl), if_neg (hne event rfl)]

/-! ## The store after a commit -/

theorem mem_trackingIds_commit (store : σ) (event : Option HandlingEvent) (cargo : Cargo)
    (id : TrackingId) :
    id ∈ trackingIds (commit store event cargo) ↔
      cargo.trackingId = id ∨ id ∈ trackingIds store := by
  rw [commit, LawfulStore.mem_trackingIds_store, trackingIds_extended]

section Commit

variable {store : σ} {event : Option HandlingEvent} {cargo : Cargo}

theorem history_commit_of_ne (hfits : Fits store event cargo) {id : TrackingId}
    (h : cargo.trackingId ≠ id) : history (commit store event cargo) id = history store id := by
  rw [commit, LawfulStore.history_store, history_extended_of_ne hfits.handled]
  intro e he
  rwa [hfits.owned e he]

theorem find_commit_of_ne (hfits : Fits store event cargo) {id : TrackingId}
    (h : cargo.trackingId ≠ id) (now : Instant) :
    find (commit store event cargo) id now = find store id now := by
  rw [commit, LawfulStore.find_store_of_ne h, find_extended_of_ne]
  intro e he
  rwa [hfits.owned e he]

/-- The cargo is found as it was stored, but for the time at which its delivery was derived. -/
theorem find_commit_self (hfits : Fits store event cargo) (now : Instant) :
    ∃ reports time time',
      history (commit store event cargo) cargo.trackingId = .ok reports ∧
      cargo.delivery = .derive cargo.routeSpecification cargo.itinerary reports time ∧
      find (commit store event cargo) cargo.trackingId now = .ok { cargo with
        delivery := .derive cargo.routeSpecification cargo.itinerary reports time' } := by
  obtain ⟨reports, time, hhistory, hdelivery⟩ := hfits.derived
  -- The origin is still the known one when the event has been added.
  have horigin : cargo.trackingId ∈ trackingIds (extended store event) → ∃ earlier before,
      find (extended store event) cargo.trackingId earlier = .ok before ∧
        before.origin = cargo.origin := by
    intro hmem
    rw [trackingIds_extended] at hmem
    obtain ⟨earlier, before, hbefore, horigin⟩ := hfits.origin hmem
    obtain ⟨delivery, hextended⟩ := find_extended hfits.handled hbefore
    exact ⟨earlier, _, hextended, horigin⟩
  have hstored := LawfulStore.history_store (extended store event) cargo cargo.trackingId
  obtain ⟨time', hfind⟩ : ∃ time', find (commit store event cargo) cargo.trackingId now =
      .ok { cargo with
        delivery := .derive cargo.routeSpecification cargo.itinerary reports time' } :=
    LawfulStore.find_store_of_derived hhistory hdelivery horigin
  exact ⟨reports, time, time', hstored.trans hhistory, hdelivery, hfind⟩

/-- One commit keeps every delivery up to date. -/
theorem UpToDate.commit (h : UpToDate store) (hfits : Fits store event cargo) :
    UpToDate (commit store event cargo) where
  found id hid now := by
    by_cases hself : cargo.trackingId = id
    · subst hself
      obtain ⟨_, _, _, _, _, hfind⟩ := find_commit_self hfits now
      exact ⟨_, hfind⟩
    · -- The commit is about another cargo.
      rw [find_commit_of_ne hfits hself]
      rw [mem_trackingIds_commit] at hid
      exact h.found id (hid.resolve_left hself) now
  trackingId {id now found} hfound := by
    by_cases hself : cargo.trackingId = id
    · subst hself
      obtain ⟨_, _, _, _, _, hfind⟩ := find_commit_self hfits now
      rw [hfind] at hfound
      cases hfound
      rfl
    · rw [find_commit_of_ne hfits hself] at hfound
      exact h.trackingId hfound
  derived {id now found} hfound := by
    by_cases hself : cargo.trackingId = id
    · subst hself
      obtain ⟨reports, _, time', hhistory, _, hfind⟩ := find_commit_self hfits now
      rw [hfind] at hfound
      cases hfound
      exact ⟨reports, time', hhistory, rfl⟩
    · rw [find_commit_of_ne hfits hself] at hfound
      rw [history_commit_of_ne hfits hself]
      exact h.derived hfound
  unhandled {id} hid := by
    rw [mem_trackingIds_commit, not_or] at hid
    rw [history_commit_of_ne hfits hid.1]
    exact h.unhandled hid.2

end Commit

/-! ## What the operations commit -/

omit [LawfulStore σ] in
theorem fits_book {store : σ} (h : UpToDate store) {fresh : TrackingId}
    (hfresh : fresh ∉ trackingIds store) (spec : RouteSpecification) (now : Instant) :
    Fits store none (.book fresh spec now) where
  handled e he := by cases he
  owned e he := by cases he
  derived := ⟨.empty, now, h.unhandled hfresh, rfl⟩
  origin hmem := absurd hmem hfresh

section Found

variable {store : σ} {id : TrackingId} {now : Instant} {cargo : Cargo}

omit [LawfulStore σ] in
theorem UpToDate.find_self (h : UpToDate store) (hfind : find store id now = .ok cargo) :
    find store cargo.trackingId now = .ok cargo := by
  rw [h.trackingId hfind, hfind]

omit [LawfulStore σ] in
/-- Under another plan the delivery is derived from the remembered event, which is the last one. -/
theorem fits_replan (h : UpToDate store) (hfind : find store id now = .ok cargo)
    (spec : RouteSpecification) (itinerary : Itinerary) (later : Instant) :
    Fits store none { cargo with
      routeSpecification := spec
      itinerary
      delivery := cargo.delivery.updateOnRouting spec itinerary later } where
  handled e he := by cases he
  owned e he := by cases he
  derived := by
    -- The old delivery was derived from the full history, so it remembers the last event of it.
    obtain ⟨reports, time, hhistory, hdelivery⟩ := h.derived (h.find_self hfind)
    refine ⟨reports, later, hhistory, ?_⟩
    rw [hdelivery]
    rfl
  origin _ := ⟨now, cargo, h.find_self hfind, rfl⟩

omit [LawfulStore σ] in
theorem fits_deriveFrom (h : UpToDate store) (hfind : find store id now = .ok cargo)
    {event : Option HandlingEvent} (hkind : ∀ e ∈ event, e.activity.kind ≠ .notHandled)
    (howner : ∀ e ∈ event, e.trackingId = id) {reports : History}
    (hhistory : history (extended store event) id = .ok reports) (later : Instant) :
    Fits store event (cargo.deriveFrom reports later) where
  handled := hkind
  owned e he := (howner e he).trans (h.trackingId hfind).symm
  derived := by
    refine ⟨reports, later, ?_, rfl⟩
    show history (extended store event) cargo.trackingId = .ok reports
    rw [h.trackingId hfind, hhistory]
  origin _ := ⟨now, cargo, h.find_self hfind, rfl⟩

end Found

end CargoTracking
