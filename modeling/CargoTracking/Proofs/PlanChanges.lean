import CargoTracking.Proofs.Decoding
import CargoTracking.Proofs.FreshIds
import CargoTracking.Proofs.Revisions

/-!
# Changes of plans

What a session makes of the plan of a cargo: where it was booked from and its deadline stay for good,
the destination is changed by changes of the destination only, and the itinerary by assignments only.
The routing status tells whether there has been an assignment, and whether the plan is a good one.
-/

namespace CargoTracking

open CargoStore

/-! ## What is said of a cargo -/

/-- The cargo has what it was booked with. -/
structure Cargo.BookedAs (cargo : Cargo) (id : TrackingId) (origin : UnLocode)
    (deadline : Option Instant) : Prop where
  trackingId : cargo.trackingId = id
  origin : cargo.origin = origin
  route_origin : cargo.routeSpecification.origin = cargo.origin
  deadline : cargo.routeSpecification.arrivalDeadline = deadline
  present : cargo.routeSpecification.arrivalDeadline.isSome

/-- The flags say of the cargo what its routing status says. -/
structure BookedCargo.Shows (booked : BookedCargo) (cargo : Cargo) : Prop where
  trackingId : booked.trackingId = cargo.trackingId
  routed : booked.routed = true ↔ cargo.delivery.routingStatus ≠ .notRouted
  misrouted : booked.misrouted = true ↔ cargo.delivery.routingStatus = .misrouted

section UpToDate

variable {σ : Type} [CargoStore σ] {store : σ} {id : TrackingId} {now : Instant} {cargo : Cargo}

theorem UpToDate.routingStatus_eq (h : UpToDate store) (hfind : find store id now = .ok cargo) :
    cargo.delivery.routingStatus = .of cargo.routeSpecification cargo.itinerary := by
  obtain ⟨reports, time, -, hdelivery⟩ := h.derived hfind
  rw [hdelivery]
  rfl

theorem UpToDate.shows (h : UpToDate store) (hfind : find store id now = .ok cargo) :
    (BookedCargo.of cargo).Shows cargo where
  trackingId := rfl
  routed := by
    rw [h.routingStatus_eq hfind, ne_eq, RoutingStatus.of_eq_notRouted_iff, BookedCargo.of,
      Bool.not_eq_true', Bool.not_eq_true]
  misrouted := decide_eq_true_iff

/-- All cargos can be listed. -/
theorem UpToDate.exists_findAll [LawfulStore σ] (h : UpToDate store) (now : Instant) :
    ∃ cargos, findAll store now = .ok cargos ∧
      cargos.map (·.trackingId) = trackingIds store ∧
      ∀ cargo ∈ cargos, find store cargo.trackingId now = .ok cargo := by
  obtain ⟨cargos, hall, hcargos⟩ := Reads.exists_findAll fun id hid => h.found id hid now
  have hself : List.Forall₂ (fun cargo id => find store cargo.trackingId now = .ok cargo ∧
      cargo.trackingId = id) cargos (trackingIds store) := hcargos.flip.imp fun cargo id hfind => by
    have hid := h.trackingId hfind
    exact ⟨hid ▸ hfind, hid⟩
  obtain ⟨hfind, hids⟩ := (List.forall₂_and_left _ _).mp hself
  rw [← List.forall₂_map_left_iff, List.forall₂_eq_eq_eq] at hids
  exact ⟨cargos, hall, hids, hfind⟩

end UpToDate

namespace Session

section Definitions

variable (session : Session) (σ : Type) [CargoStore σ]

/-- No assignment of the cargo has succeeded yet. -/
def Unassigned (k : Nat) (id : TrackingId) : Prop :=
  ∀ i < k, ∀ itinerary, ¬ session.Succeeds σ i (.assign id itinerary)

/-- The itinerary is the one of the last assignment of the cargo that has succeeded. -/
def LastAssigned (k : Nat) (id : TrackingId) (itinerary : Itinerary) : Prop :=
  ∃ i < k, session.Succeeds σ i (.assign id itinerary) ∧
    ∀ j < k, i < j → ∀ later, ¬ session.Succeeds σ j (.assign id later)

end Definitions

variable {session : Session} {σ : Type} [CargoStore σ] {k : Nat} {id : TrackingId}
  {itinerary : Itinerary}

/-! ## Assignments so far -/

theorem Unassigned.succ (h : session.Unassigned σ k id)
    (hk : ∀ itinerary, ¬ session.Succeeds σ k (.assign id itinerary)) :
    session.Unassigned σ (k + 1) id := by
  intro i hi
  rcases Nat.lt_succ_iff_lt_or_eq.mp hi with hlt | rfl
  · exact h i hlt
  · exact hk

theorem LastAssigned.succ (h : session.LastAssigned σ k id itinerary)
    (hk : ∀ itinerary, ¬ session.Succeeds σ k (.assign id itinerary)) :
    session.LastAssigned σ (k + 1) id itinerary := by
  obtain ⟨i, hi, hassigned, hlast⟩ := h
  refine ⟨i, Nat.lt_succ_of_lt hi, hassigned, fun j hj hij => ?_⟩
  rcases Nat.lt_succ_iff_lt_or_eq.mp hj with hlt | rfl
  · exact hlast j hlt hij
  · exact hk

theorem Succeeds.lastAssigned (h : session.Succeeds σ k (.assign id itinerary)) :
    session.LastAssigned σ (k + 1) id itinerary :=
  ⟨k, Nat.lt_succ_self k, h, fun _ hj hkj => absurd (Nat.lt_of_lt_of_le hkj (Nat.le_of_lt_succ hj))
    (Nat.lt_irrefl k)⟩

theorem LastAssigned.not_unassigned (h : session.LastAssigned σ k id itinerary) :
    ¬ session.Unassigned σ k id := by
  obtain ⟨i, hi, hassigned, -⟩ := h
  exact fun hnone => hnone i hi itinerary hassigned

/-! ## Bookings -/

variable {now : Instant} {cargo cargo' : Cargo} {origin destination : UnLocode}
  {deadline : Option Instant}

theorem Revises.bookedAs (h : session.Revises σ k id cargo cargo')
    (hbooked : cargo.BookedAs id origin deadline) : cargo'.BookedAs id origin deadline := by
  cases h with
  | kept => exact { hbooked with }
  | assigned => exact { hbooked with }
  | redirected => exact { hbooked with route_origin := rfl }

/-- Another itinerary comes from an assignment only. -/
theorem Revises.itinerary_cases (h : session.Revises σ k id cargo cargo') :
    (cargo'.itinerary = cargo.itinerary ∧
        ∀ itinerary, ¬ session.Succeeds σ k (.assign id itinerary)) ∨
      (session.Succeeds σ k (.assign id cargo'.itinerary) ∧ cargo'.itinerary.isEmpty = false) := by
  cases h with
  | kept _ hkept => exact .inl ⟨rfl, hkept⟩
  | assigned _ hassigned hnonempty => exact .inr ⟨hassigned, hnonempty⟩
  | redirected _ hdirected =>
    refine .inl ⟨rfl, fun itinerary hassigned => ?_⟩
    cases hassigned.inj hdirected

variable [SteadyStore σ]

theorem Succeeds.exists_booked (h : session.Admissible σ)
    (hok : session.Succeeds σ k (.book id origin destination deadline)) (later : Instant) :
    ∃ cargo, find (session.state σ (k + 1)) id later = .ok cargo ∧
      cargo.BookedAs id origin deadline ∧ cargo.itinerary = .empty := by
  cases turn h k with
  | idle hfails => exact absurd hok (hfails id _ rfl)
  | commits hcall _ hcommits hfits hstate =>
    rw [hstate]
    cases hok.call_eq hcall
    cases hcommits with
    | booked hspec =>
      obtain ⟨rfl, hvalid⟩ := Booking.specification_eq_ok_iff.mp hspec
      obtain ⟨reports, time, time', -, -, hfind⟩ := find_commit_self hfits later
      exact ⟨_, hfind, ⟨rfl, rfl, rfl, rfl, hvalid.deadline⟩, rfl⟩
    | inspected hinspects => exact absurd rfl hinspects.not_plans

/-- What a cargo was booked with stays. -/
theorem exists_bookedAs (h : session.Admissible σ) {i : Nat} (hik : i < k)
    (hok : session.Succeeds σ i (.book id origin destination deadline)) (now : Instant) :
    ∃ cargo, find (session.state σ k) id now = .ok cargo ∧ cargo.BookedAs id origin deadline := by
  induction hik with
  | refl =>
    obtain ⟨cargo, hfind, hbooked, -⟩ := hok.exists_booked h now
    exact ⟨cargo, hfind, hbooked⟩
  | step _ ih =>
    obtain ⟨cargo, hfind, hbooked⟩ := ih
    obtain ⟨cargo', hfind', hrevises⟩ := exists_revises h hfind
    exact ⟨cargo', hfind', hrevises.bookedAs hbooked⟩

theorem exists_succeeds_book (h : session.Admissible σ)
    (hid : id ∈ trackingIds (session.state σ k)) :
    ∃ i < k, ∃ origin destination deadline,
      session.Succeeds σ i (.book id origin destination deadline) := by
  induction k with
  | zero =>
    rw [state, SteadyStore.trackingIds_empty] at hid
    cases hid
  | succ k ih =>
    by_cases hbefore : id ∈ trackingIds (session.state σ k)
    · obtain ⟨i, hik, hbooks⟩ := ih hbefore
      exact ⟨i, Nat.lt_succ_of_lt hik, hbooks⟩
    · exact ⟨k, Nat.lt_succ_self k, succeeds_book_of_new h hbefore hid⟩

theorem mem_trackingIds_of_le (h : session.Admissible σ) {i : Nat} (hik : i ≤ k)
    (hid : id ∈ trackingIds (session.state σ i)) : id ∈ trackingIds (session.state σ k) := by
  obtain ⟨j, hji, origin, destination, deadline, hok⟩ := exists_succeeds_book h hid
  obtain ⟨cargo, hfind, -⟩ := exists_bookedAs h (Nat.lt_of_lt_of_le hji hik) hok .epoch
  exact mem_trackingIds_of_find hfind

theorem bookedAs_of_find (h : session.Admissible σ)
    (hfind : find (session.state σ k) id now = .ok cargo) :
    ∃ origin deadline, cargo.BookedAs id origin deadline := by
  obtain ⟨i, hik, origin, destination, deadline, hok⟩ :=
    exists_succeeds_book h (mem_trackingIds_of_find hfind)
  obtain ⟨cargo', hfind', hbooked⟩ := exists_bookedAs h hik hok now
  cases hfind.symm.trans hfind'
  exact ⟨origin, deadline, hbooked⟩

/-! ## Itineraries and routing status -/

theorem Succeeds.mem_trackingIds {call : Call} (h : session.Admissible σ)
    (hok : session.Succeeds σ k call) (hplans : call.Plans id) (hbooked : call.booked? = none) :
    id ∈ trackingIds (session.state σ k) := by
  cases turn h k with
  | idle hfails => exact absurd hok (hfails id call hplans)
  | commits hcall _ hcommits =>
    cases hok.call_eq hcall
    obtain ⟨-, found, hfind⟩ := hcommits.exists_find_of_plans hplans hbooked
    exact mem_trackingIds_of_find hfind

theorem unassigned_of_not_mem (h : session.Admissible σ)
    (hid : id ∉ trackingIds (session.state σ k)) : session.Unassigned σ k id := by
  intro i hik itinerary hok
  exact hid (mem_trackingIds_of_le h (Nat.le_of_lt hik) (hok.mem_trackingIds h rfl rfl))

/-- Until it is assigned for the first time a cargo has no itinerary, and the one of its last
assignment from then on. -/
theorem itinerary_cases (h : session.Admissible σ)
    (hfind : find (session.state σ k) id now = .ok cargo) :
    (session.Unassigned σ k id ∧ cargo.itinerary = .empty) ∨
      (session.LastAssigned σ k id cargo.itinerary ∧ cargo.itinerary.isEmpty = false) := by
  induction k generalizing cargo with
  | zero =>
    rw [state, SteadyStore.find_empty] at hfind
    cases hfind
  | succ k ih =>
    by_cases hid : id ∈ trackingIds (session.state σ k)
    · obtain ⟨before, hbefore⟩ := (upToDate_state h k).found id hid now
      obtain ⟨after, hafter, hrevises⟩ := exists_revises h hbefore
      cases hfind.symm.trans hafter
      rcases hrevises.itinerary_cases with ⟨hsame, hkept⟩ | ⟨hassigned, hnonempty⟩
      · rw [hsame]
        exact (ih hbefore).imp (And.imp_left (·.succ hkept)) (And.imp_left (·.succ hkept))
      · exact .inr ⟨hassigned.lastAssigned, hnonempty⟩
    · -- The cargo is the one that the call has booked.
      obtain ⟨origin, destination, deadline, hok⟩ :=
        succeeds_book_of_new h hid (mem_trackingIds_of_find hfind)
      obtain ⟨booked, hbooked, -, hempty⟩ := hok.exists_booked h now
      cases hfind.symm.trans hbooked
      refine .inl ⟨(unassigned_of_not_mem h hid).succ fun itinerary hassigned => ?_, hempty⟩
      cases hassigned.inj hok

theorem notRouted_iff (h : session.Admissible σ)
    (hfind : find (session.state σ k) id now = .ok cargo) :
    cargo.delivery.routingStatus = .notRouted ↔ session.Unassigned σ k id := by
  rw [(upToDate_state h k).routingStatus_eq hfind, RoutingStatus.of_eq_notRouted_iff]
  rcases itinerary_cases h hfind with ⟨hnone, hempty⟩ | ⟨hlast, hnonempty⟩
  · rw [hempty]
    exact iff_of_true rfl hnone
  · rw [hnonempty]
    exact iff_of_false Bool.false_ne_true hlast.not_unassigned

theorem routed_iff (h : session.Admissible σ)
    (hfind : find (session.state σ k) id now = .ok cargo) :
    cargo.delivery.routingStatus = .routed ↔
      cargo.itinerary.satisfies cargo.routeSpecification = true := by
  rw [(upToDate_state h k).routingStatus_eq hfind, RoutingStatus.of_eq_routed_iff]

/-! ## What a call leaves -/

/-- One cargo is revised, with the delivery that is derived from its new plan, and nothing else. -/
structure OnlyRevises (before after : σ) (id : TrackingId) (revise : Cargo → Delivery → Cargo) :
    Prop where
  revised : ∀ later, ∃ cargo delivery reports time,
    find before id later = .ok cargo ∧ history before id = .ok reports ∧
    find after id later = .ok (revise cargo delivery) ∧
    delivery = .derive (revise cargo delivery).routeSpecification
      (revise cargo delivery).itinerary reports time
  ids : trackingIds after = trackingIds before
  histories : ∀ other, history after other = history before other
  others : ∀ other, id ≠ other → ∀ later, find after other later = find before other later

theorem onlyRevises_of_succeeds {call : Call} (h : session.Admissible σ)
    (hok : session.Succeeds σ k call) (hplans : call.Plans id) (hbooked : call.booked? = none)
    {revise : Cargo → Delivery → Cargo}
    (hrevise : ∀ {cargo cargo' origin deadline}, cargo.BookedAs id origin deadline →
      session.Revises σ k id cargo cargo' → cargo' = revise cargo cargo'.delivery) :
    OnlyRevises (session.state σ k) (session.state σ (k + 1)) id revise := by
  cases turn h k with
  | idle hfails => exact absurd hok (hfails id call hplans)
  | @commits now made event committed hcall _ hcommits hfits hstate =>
    cases hok.call_eq hcall
    have hself := hcommits.trackingId_of_plans (coherent_state session k).keyed hplans
    obtain ⟨rfl, found, hfound⟩ := hcommits.exists_find_of_plans hplans hbooked
    have hhistories (other : TrackingId) :
        history (session.state σ (k + 1)) other = history (session.state σ k) other := by
      rw [hstate]
      exact LawfulStore.history_store _ committed other
    refine ⟨fun later => ?_, ?_, hhistories, fun other hne later => ?_⟩
    · obtain ⟨delivery, hfind⟩ := SteadyStore.exists_find_of_find hfound later
      obtain ⟨origin, deadline, hbookedAs⟩ := bookedAs_of_find h hfind
      obtain ⟨after, hafter, hrevises⟩ := exists_revises h hfind
      obtain ⟨reports, time, hreports, hderived⟩ := (upToDate_state h (k + 1)).derived hafter
      have heq := hrevise hbookedAs hrevises
      rw [hhistories] at hreports
      refine ⟨_, after.delivery, reports, time, hfind, hreports, ?_, ?_⟩
      · rw [← heq]
        exact hafter
      · rw [← heq]
        exact hderived
    · rw [hstate]
      exact trackingIds_store_of_mem (hself ▸ mem_trackingIds_of_find hfound)
    · rw [hstate]
      exact find_commit_of_ne hfits (hself ▸ hne) later

theorem assigned_of_succeeds (h : session.Admissible σ)
    (hok : session.Succeeds σ k (.assign id itinerary)) :
    OnlyRevises (session.state σ k) (session.state σ (k + 1)) id
      fun cargo delivery => { cargo with itinerary, delivery } := by
  refine onlyRevises_of_succeeds h hok rfl rfl fun _ hrevises => ?_
  cases hrevises with
  | kept _ hkept => exact absurd hok (hkept itinerary)
  | assigned _ hassigned =>
    cases hassigned.inj hok
    rfl
  | redirected _ hdirected => cases hdirected.inj hok

theorem redirected_of_succeeds (h : session.Admissible σ)
    (hok : session.Succeeds σ k (.changeDestination id destination)) :
    ∃ location, session.directory.findLocation destination = .ok location ∧
      OnlyRevises (session.state σ k) (session.state σ (k + 1)) id fun cargo delivery =>
        { cargo with
          routeSpecification := { cargo.routeSpecification with destination := location.unLocode }
          delivery } := by
  obtain ⟨location, hlocation⟩ :
      ∃ location, session.directory.findLocation destination = .ok location := by
    cases turn h k with
    | idle hfails => exact absurd hok (hfails id _ rfl)
    | commits hcall _ hcommits =>
      cases hok.call_eq hcall
      cases hcommits with
      | redirected _ hknown => exact ⟨_, hknown⟩
      | inspected hinspects => exact absurd rfl hinspects.not_plans
  refine ⟨location, hlocation, onlyRevises_of_succeeds h hok rfl rfl fun hbooked hrevises => ?_⟩
  cases hrevises with
  | kept _ _ hkept => exact absurd hok (hkept destination)
  | assigned _ hassigned => cases hassigned.inj hok
  | redirected _ hdirected hknown =>
    cases hdirected.inj hok
    cases hknown.symm.trans hlocation
    -- The origin of the booking is the one of the route already.
    rw [← hbooked.route_origin]

/-- A call that does not plan the cargo leaves it, but for its delivery. -/
theorem kept_of_not_plans (h : session.Admissible σ) {call : Call} {later : Instant}
    (hcall : session.calls[k]? = some (now, call)) (hplans : ¬ call.Plans id)
    (hfind : find (session.state σ k) id later = .ok cargo) :
    ∃ delivery, find (session.state σ (k + 1)) id later = .ok { cargo with delivery } ∧
      delivery.routingStatus = cargo.delivery.routingStatus := by
  obtain ⟨after, hafter, hrevises⟩ := exists_revises h hfind
  have hbefore := (upToDate_state h k).routingStatus_eq hfind
  have hstatus := (upToDate_state h (k + 1)).routingStatus_eq hafter
  cases hrevises with
  | kept delivery => exact ⟨delivery, hafter, hstatus.trans hbefore.symm⟩
  | assigned _ hassigned =>
    cases hassigned.call_eq hcall
    exact absurd rfl hplans
  | redirected _ hdirected =>
    cases hdirected.call_eq hcall
    exact absurd rfl hplans

/-! ## Sessions -/

/-- What can be relied on in the plans of a session. -/
structure KeepsPlans (session : Session) (σ : Type) [CargoStore σ] : Prop where
  /-- There are the cargos that have been booked, under the ids that were drawn. -/
  booked : ∀ {k : Nat} {id : TrackingId}, id ∈ trackingIds (session.state σ k) ↔
    ∃ i < k, ∃ origin destination deadline,
      session.Succeeds σ i (.book id origin destination deadline)
  /-- What a cargo was booked with stays for good. -/
  fixed : ∀ {i k : Nat} {id : TrackingId} {origin destination : UnLocode}
    {deadline : Option Instant}, i < k →
    session.Succeeds σ i (.book id origin destination deadline) → ∀ now, ∃ cargo,
      find (session.state σ k) id now = .ok cargo ∧ cargo.BookedAs id origin deadline
  /-- Registering, recording and inspecting, as any call but the three that plan a cargo, leave its
  route specification, its itinerary and its routing status. -/
  kept : ∀ {k : Nat} {now later : Instant} {call : Call} {id : TrackingId} {cargo : Cargo},
    session.calls[k]? = some (now, call) → ¬ call.Plans id →
    find (session.state σ k) id later = .ok cargo → ∃ delivery,
      find (session.state σ (k + 1)) id later = .ok { cargo with delivery } ∧
      delivery.routingStatus = cargo.delivery.routingStatus
  /-- An assignment changes the itinerary. -/
  assigned : ∀ {k : Nat} {id : TrackingId} {itinerary : Itinerary},
    session.Succeeds σ k (.assign id itinerary) →
    OnlyRevises (session.state σ k) (session.state σ (k + 1)) id
      fun cargo delivery => { cargo with itinerary, delivery }
  /-- A change of the destination changes the destination. -/
  redirected : ∀ {k : Nat} {id : TrackingId} {destination : UnLocode},
    session.Succeeds σ k (.changeDestination id destination) →
    ∃ location, session.directory.findLocation destination = .ok location ∧
      OnlyRevises (session.state σ k) (session.state σ (k + 1)) id fun cargo delivery =>
        { cargo with
          routeSpecification := { cargo.routeSpecification with destination := location.unLocode }
          delivery }
  /-- The itinerary is the one that was assigned last. -/
  itinerary : ∀ {k : Nat} {id : TrackingId} {now : Instant} {cargo : Cargo},
    find (session.state σ k) id now = .ok cargo →
    (session.Unassigned σ k id ∧ cargo.itinerary = .empty) ∨
      (session.LastAssigned σ k id cargo.itinerary ∧ cargo.itinerary.isEmpty = false)
  /-- A cargo is not routed until it is assigned for the first time, and never again. -/
  notRouted : ∀ {k : Nat} {id : TrackingId} {now : Instant} {cargo : Cargo},
    find (session.state σ k) id now = .ok cargo →
    (cargo.delivery.routingStatus = .notRouted ↔ session.Unassigned σ k id)
  /-- It is routed exactly when its itinerary satisfies its specification. -/
  routed : ∀ {k : Nat} {id : TrackingId} {now : Instant} {cargo : Cargo},
    find (session.state σ k) id now = .ok cargo →
    (cargo.delivery.routingStatus = .routed ↔
      cargo.itinerary.satisfies cargo.routeSpecification = true)
  /-- The administrator is told the same, of one cargo. -/
  loaded : ∀ {k : Nat} {id : TrackingId} {now : Instant} {cargo : Cargo},
    find (session.state σ k) id now = .ok cargo → id.isEmpty = false → ∃ booked,
      ((Booking.load now id).perform (session.state σ k)).result = .ok booked ∧ booked.Shows cargo
  /-- The administrator is told the same, of all cargos. -/
  listed : ∀ (k : Nat) (now : Instant), ∃ cargos,
    ((Booking.cargos now).perform (session.state σ k)).result = .ok cargos ∧
      cargos.map (·.trackingId) = trackingIds (session.state σ k) ∧
      ∀ booked ∈ cargos, ∃ cargo,
        find (session.state σ k) booked.trackingId now = .ok cargo ∧ booked.Shows cargo

theorem keepsPlans_of_admissible (h : session.Admissible σ) : session.KeepsPlans σ where
  booked {k id} := by
    refine ⟨exists_succeeds_book h, ?_⟩
    rintro ⟨i, hik, origin, destination, deadline, hok⟩
    obtain ⟨cargo, hfind, -⟩ := exists_bookedAs h hik hok .epoch
    exact mem_trackingIds_of_find hfind
  fixed := exists_bookedAs h
  kept := kept_of_not_plans h
  assigned := assigned_of_succeeds h
  redirected := redirected_of_succeeds h
  itinerary := itinerary_cases h
  notRouted := notRouted_iff h
  routed := routed_iff h
  loaded {k id now cargo} hfind hid := by
    refine ⟨.of cargo, ?_, (upToDate_state h k).shows hfind⟩
    have hnonempty : ¬ id.isEmpty = true := by
      rw [hid]
      exact Bool.false_ne_true
    rw [Service.perform_eq_on, Booking.load_on, if_neg hnonempty]
    dsimp only
    rw [hfind]
    rfl
  listed k now := by
    obtain ⟨cargos, hcargos, hids, hfind⟩ := (upToDate_state h k).exists_findAll now
    refine ⟨cargos.map .of, ?_, ?_, ?_⟩
    · rw [Service.perform_eq_on, Booking.cargos_on]
      dsimp only
      rw [hcargos]
      rfl
    · rw [List.map_map, ← hids]
      rfl
    · rw [List.forall_mem_map]
      intro cargo hcargo
      have hself := hfind cargo hcargo
      exact ⟨cargo, hself, (upToDate_state h k).shows hself⟩

end Session

/-- Over either store, each call of a session changes its part of the plan of a cargo only. -/
theorem sessions_keep_plans (session : Session) :
    (session.Admissible MemoryStore → session.KeepsPlans MemoryStore) ∧
      (session.Admissible RecordStore → session.KeepsPlans RecordStore) :=
  ⟨Session.keepsPlans_of_admissible, Session.keepsPlans_of_admissible⟩

/-- A cargo that is booked, assigned, received, and then redirected. -/
def Session.rerouted : Session where
  directory := .sample
  calls :=
    [(sampleDay 1, .book ⟨"3F2A9C1B"⟩ ⟨"CNHKG"⟩ ⟨"SESTO"⟩ (some (sampleDay 18))),
      (sampleDay 2, .assign ⟨"3F2A9C1B"⟩ sampleItinerary),
      (sampleDay 3, .register ⟨⟨"3F2A9C1B"⟩, .receive, ⟨"CNHKG"⟩, ⟨""⟩, some (sampleDay 2)⟩),
      (sampleDay 4, .changeDestination ⟨"3F2A9C1B"⟩ ⟨"JNTKO"⟩)]

theorem Session.distinct_rerouted : rerouted.Distinct where
  booked := by decide +kernel
  handled now event hmem := by
    simp only [rerouted, List.mem_cons, Prod.mk.injEq, reduceCtorEq, and_false, List.not_mem_nil,
      or_false] at hmem

/-- It is routed at first, and misrouted in the end. -/
theorem plans_kept_rerouted :
    Session.rerouted.KeepsPlans MemoryStore ∧ Session.rerouted.KeepsPlans RecordStore ∧
      [1, 2, 3, 4].map (fun k => (find (Session.rerouted.state RecordStore k) ⟨"3F2A9C1B"⟩
        (sampleDay 9)).toOption.map (·.delivery.routingStatus)) =
          [some .notRouted, some .routed, some .routed, some .misrouted] := by
  refine ⟨(sessions_keep_plans Session.rerouted).1 Session.distinct_rerouted.admissible,
    (sessions_keep_plans Session.rerouted).2 Session.distinct_rerouted.admissible, ?_⟩
  decide +kernel

end CargoTracking
