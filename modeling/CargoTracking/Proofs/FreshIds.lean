import CargoTracking.Proofs.RoundTrip
import CargoTracking.Proofs.Sessions

/-!
# Bookings and the ids they draw

A booking draws an id without a look at the store, and a store replaces what it has under an id.  So
a booking only adds to a store exactly when the id that it draws is not in use.  Otherwise the cargo
of that id is gone, and the new one has its history.
-/

namespace CargoTracking

open CargoStore

namespace Booking

/-- The booking of a cargo for the specification, under the id that is drawn. -/
def outcome {σ : Type} [CargoStore σ] (directory : Directory) (now : Instant) (fresh : TrackingId)
    (spec : RouteSpecification) (store : σ) : Outcome σ TrackingId :=
  (book directory now fresh spec.origin spec.destination spec.arrivalDeadline).perform store

/-- A valid booking succeeds, whatever is in the store, and stores the new cargo. -/
theorem outcome_of_valid {σ : Type} [CargoStore σ] {directory : Directory}
    {spec : RouteSpecification} (h : Valid directory spec) (now : Instant) (fresh : TrackingId)
    (store : σ) :
    (outcome directory now fresh spec store).result = .ok fresh ∧
      (outcome directory now fresh spec store).world.store =
        CargoStore.store store (.book fresh spec now) := by
  rw [outcome, Service.perform_eq_on, book_on, specification_eq_ok_iff.mpr ⟨rfl, h⟩]
  exact ⟨rfl, rfl⟩

end Booking

/-! ## Adding and replacing -/

section Comes

variable {σ : Type} [CargoStore σ]

/-- One cargo is new, booked for the specification, and all the others are as they were. -/
structure OnlyAdds (before after : σ) (fresh : TrackingId) (spec : RouteSpecification) : Prop where
  ids : (trackingIds after).Perm (fresh :: trackingIds before)
  added : ∀ later, ∃ time, find after fresh later = .ok (.book fresh spec time)
  unhandled : history after fresh = .ok .empty
  histories : ∀ id ∈ trackingIds before, history after id = history before id
  others : ∀ id ∈ trackingIds before, ∀ later, find after id later = find before id later

/-- A cargo takes the place of another one, and has its history. -/
structure Replaces (before after : σ) (used : TrackingId)
    (replacement : History → Instant → Cargo) : Prop where
  ids : trackingIds after = trackingIds before
  replaced : ∀ reports, history before used = .ok reports → ∀ later,
    find after used later = .ok (replacement reports later)
  histories : ∀ id, history after id = history before id
  others : ∀ id, used ≠ id → ∀ later, find after id later = find before id later

/-- What a booking comes to. -/
structure Booking.Comes (directory : Directory) (now : Instant) (fresh : TrackingId)
    (spec : RouteSpecification) (before : σ) (replacement : History → Instant → Cargo) : Prop where
  succeeds : (outcome directory now fresh spec before).result = .ok fresh
  adds_iff : OnlyAdds before (outcome directory now fresh spec before).world.store fresh spec ↔
    fresh ∉ trackingIds before
  replaces : fresh ∈ trackingIds before →
    Replaces before (outcome directory now fresh spec before).world.store fresh replacement

variable {before after : σ} {fresh : TrackingId} {spec : RouteSpecification}

theorem OnlyAdds.not_mem [LawfulStore σ] (h : OnlyAdds before after fresh spec) :
    fresh ∉ trackingIds before := by
  have hsorted := LawfulStore.sorted_trackingIds after
  exact (List.nodup_cons.mp (h.ids.nodup (OrderedMap.nodup_of_sorted id hsorted))).1

variable [SteadyStore σ]

theorem onlyAdds_store (h : Coherent before) (hfresh : fresh ∉ trackingIds before) (now : Instant) :
    OnlyAdds before (store before (.book fresh spec now)) fresh spec where
  ids := trackingIds_store_perm hfresh
  added later := by
    have hderived : (Cargo.book fresh spec now).delivery = .derive spec .empty .empty now := rfl
    exact LawfulStore.find_store_of_derived (h.unhandled hfresh) hderived
      fun hused => absurd hused hfresh
  unhandled := by rw [LawfulStore.history_store, h.unhandled hfresh]
  histories id _ := LawfulStore.history_store before _ id
  others id hid later := by
    have hne : fresh ≠ id := by
      rintro rfl
      exact hfresh hid
    exact LawfulStore.find_store_of_ne hne before later

theorem replaces_store {now : Instant} {replacement : History → Instant → Cargo}
    (hused : fresh ∈ trackingIds before)
    (h : ∀ reports, history before fresh = .ok reports → ∀ later,
      find (store before (.book fresh spec now)) fresh later = .ok (replacement reports later)) :
    Replaces before (store before (.book fresh spec now)) fresh replacement where
  ids := trackingIds_store_of_mem hused
  replaced := h
  histories id := LawfulStore.history_store before _ id
  others _ hne later := LawfulStore.find_store_of_ne hne before later

theorem Booking.comes_of_coherent {directory : Directory} {now : Instant}
    {replacement : History → Instant → Cargo} (hbefore : Coherent before)
    (hvalid : Valid directory spec)
    (hreplacement : ∀ reports, history before fresh = .ok reports → ∀ later,
      find (store before (.book fresh spec now)) fresh later = .ok (replacement reports later)) :
    Comes directory now fresh spec before replacement := by
  obtain ⟨hresult, hstore⟩ := outcome_of_valid hvalid now fresh before
  refine ⟨hresult, ⟨OnlyAdds.not_mem, fun hfresh => ?_⟩, fun hused => ?_⟩
  · rw [hstore]
    exact onlyAdds_store hbefore hfresh now
  · rw [hstore]
    exact replaces_store hused hreplacement

end Comes

/-- In every state of a session, over either store, a valid booking succeeds, and only adds a cargo
if and only if the id that it draws is not in use.  A cargo of that id is replaced: in memory by the
new cargo as it is, in the records by one that keeps the origin of the old one and looks handled by
its events. -/
theorem booking_adds_iff_fresh (session : Session) (k : Nat) {spec : RouteSpecification}
    (h : Booking.Valid session.directory spec) (now : Instant) (fresh : TrackingId) :
    Booking.Comes session.directory now fresh spec (session.state MemoryStore k)
        (fun _ _ => .book fresh spec now) ∧
      Booking.Comes session.directory now fresh spec (session.state RecordStore k)
        fun reports later => { Cargo.book fresh spec later with
          origin := ((session.state RecordStore k).origin? fresh).getD spec.origin
          delivery := .derive spec .empty reports later } := by
  refine ⟨Booking.comes_of_coherent (session.coherent_state k) h ?_,
    Booking.comes_of_coherent (session.coherent_state k) h ?_⟩
  · exact fun _ _ later => MemoryStore.find_store_self _ (.book fresh spec now) later
  · intro reports hreports later
    have hhistory : RecordStore.history (session.state RecordStore k)
        (Cargo.book fresh spec now).trackingId = .ok reports := hreports
    exact RecordStore.find_store_self hhistory later

/-- A cargo that is booked and received. -/
def Session.received : Session where
  directory := .sample
  calls :=
    [(sampleDay 1, .book ⟨"3F2A9C1B"⟩ ⟨"CNHKG"⟩ ⟨"SESTO"⟩ (some (sampleDay 18))),
      (sampleDay 2, .register ⟨⟨"3F2A9C1B"⟩, .receive, ⟨"CNHKG"⟩, ⟨""⟩, some (sampleDay 1)⟩)]

/-- A specification that another cargo is booked for. -/
def chicagoSpecification : RouteSpecification := ⟨⟨"USCHI"⟩, ⟨"DEHAM"⟩, some (sampleDay 20)⟩

theorem Booking.valid_chicagoSpecification : Valid .sample chicagoSpecification where
  origin := by decide
  destination := by decide
  deadline := rfl
  known_origin := ⟨⟨⟨"USCHI"⟩, "Chicago"⟩, ok_of_toOption (by decide +kernel)⟩
  known_destination := ⟨⟨⟨"DEHAM"⟩, "Hamburg"⟩, ok_of_toOption (by decide +kernel)⟩

/-- Under another id it is added, in both stores. -/
theorem booking_adds_beside_received :
    OnlyAdds (Session.received.state MemoryStore 2)
        (Booking.outcome .sample (sampleDay 3) ⟨"5D07E4A2"⟩ chicagoSpecification
          (Session.received.state MemoryStore 2)).world.store ⟨"5D07E4A2"⟩ chicagoSpecification ∧
      OnlyAdds (Session.received.state RecordStore 2)
        (Booking.outcome .sample (sampleDay 3) ⟨"5D07E4A2"⟩ chicagoSpecification
          (Session.received.state RecordStore 2)).world.store ⟨"5D07E4A2"⟩ chicagoSpecification := by
  have hcomes := booking_adds_iff_fresh Session.received 2 Booking.valid_chicagoSpecification
    (sampleDay 3) ⟨"5D07E4A2"⟩
  exact ⟨hcomes.1.adds_iff.mpr (by decide +kernel), hcomes.2.adds_iff.mpr (by decide +kernel)⟩

/-- Under the id of the received cargo the booking succeeds as well, and does not only add. -/
theorem booking_replaces_received :
    (Booking.outcome .sample (sampleDay 3) ⟨"3F2A9C1B"⟩ chicagoSpecification
        (Session.received.state MemoryStore 2)).result.toOption = some ⟨"3F2A9C1B"⟩ ∧
      ¬ OnlyAdds (Session.received.state MemoryStore 2)
        (Booking.outcome .sample (sampleDay 3) ⟨"3F2A9C1B"⟩ chicagoSpecification
          (Session.received.state MemoryStore 2)).world.store ⟨"3F2A9C1B"⟩ chicagoSpecification ∧
      (Booking.outcome .sample (sampleDay 3) ⟨"3F2A9C1B"⟩ chicagoSpecification
        (Session.received.state RecordStore 2)).result.toOption = some ⟨"3F2A9C1B"⟩ ∧
      ¬ OnlyAdds (Session.received.state RecordStore 2)
        (Booking.outcome .sample (sampleDay 3) ⟨"3F2A9C1B"⟩ chicagoSpecification
          (Session.received.state RecordStore 2)).world.store ⟨"3F2A9C1B"⟩ chicagoSpecification := by
  refine ⟨by decide +kernel, fun h => h.not_mem ?_, by decide +kernel, fun h => h.not_mem ?_⟩
  · decide +kernel
  · decide +kernel

end CargoTracking
