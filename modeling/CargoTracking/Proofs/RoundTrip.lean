import CargoTracking.Proofs.EventLog

/-!
# A cargo that is stored and found

A record store spreads a cargo over records of text, keeps the origin that a cargo was first stored
with, and does not keep its delivery.  A cargo that is stored is found again as it was, but for these
two: whatever was stored under its id before shows in the origin only, and the delivery is the one
that its history gives.
-/

namespace CargoTracking

open CargoStore Inspection

namespace RecordStore

/-- The origin that is kept for an id. -/
def origin? (store : RecordStore) (id : TrackingId) : Option UnLocode :=
  store.cargos[id]?.map fun record => ⟨record.origin⟩

/-! ## The origin stays -/

theorem origin?_put (store : RecordStore) (id other : TrackingId) (record : CargoRecord) :
    (store.put id record).origin? other =
      if other = id then some ⟨record.origin⟩ else store.origin? other := by
  by_cases h : other = id
  · rw [if_pos h, h, origin?, getElem?_put_self, Option.map_some]
  · rw [if_neg h, origin?, getElem?_put_of_ne store record h, origin?]

section Origin

variable {before after : RecordStore} {id : TrackingId} {origin : UnLocode}

theorem origin?_store_self (before : RecordStore) (cargo : Cargo) :
    origin? (store before cargo) cargo.trackingId =
      some ((before.origin? cargo.trackingId).getD cargo.origin) := by
  rw [store_eq_put, origin?_put, if_pos rfl, origin?, contents]
  cases before.cargos[cargo.trackingId]? <;> rfl

theorem origin?_store (h : before.origin? id = some origin) (cargo : Cargo) :
    origin? (store before cargo) id = some origin := by
  by_cases hid : id = cargo.trackingId
  · subst hid
    rw [origin?_store_self, h, Option.getD_some]
  · rw [store_eq_put, origin?_put, if_neg hid, h]

theorem origin?_extended (before : RecordStore) (event : Option HandlingEvent) (id : TrackingId) :
    origin? (extended before event) id = before.origin? id := by
  cases event <;> rfl

/-- A record from elsewhere does not take the place of a cargo, and a leg leaves the origin. -/
theorem origin?_addRow? (h : before.origin? id = some origin) {row : Row}
    (hadd : before.addRow? row = some after) : after.origin? id = some origin := by
  obtain ⟨record, hrecord, horigin⟩ := Option.map_eq_some_iff.mp h
  cases row with
  | cargo other =>
    rw [addRow?, addCargo?_eq] at hadd
    split at hadd
    · cases hadd
    · rename_i hfree
      cases hadd
      rw [origin?_put, if_neg, h]
      rintro rfl
      exact hfree (Option.isSome_of_eq_some hrecord)
  | leg other position leg =>
    rw [addRow?, addLeg?_eq] at hadd
    obtain ⟨known, hknown, hadd⟩ := Option.bind_eq_some_iff.mp hadd
    split at hadd
    · cases hadd
    · cases hadd
      rw [origin?_put]
      split
      · rename_i hid
        rw [← hid, contents, hrecord] at hknown
        cases hknown
        exact congrArg some horigin
      · exact h
  | event record =>
    cases hadd
    exact h

theorem origin?_effect (h : before.origin? id = some origin) {now : Instant} {call : Call}
    {told : List Notice} (heffect : Effect now before call after told) :
    after.origin? id = some origin := by
  cases heffect with
  | silent => exact h
  | booked => exact origin?_store h _
  | planned => exact origin?_store h _
  | inspected =>
    rw [← origin?_extended] at h
    exact origin?_store h _
  | unreadable => rw [origin?_extended, h]

/-- No access changes an origin that is kept. -/
theorem origin?_react (h : before.origin? id = some origin) (directory : Directory) (now : Instant)
    (access : Access) : origin? (access.react directory now before).2 id = some origin := by
  cases access with
  | call request =>
    exact origin?_effect h (Call.effect_serve directory now before before.keyed request)
  | store cargo => exact origin?_store h cargo
  | insert row =>
    rw [Access.react]
    cases hinsert : RowStore.insert? before row with
    | none => exact h
    | some after => exact origin?_addRow? h hinsert
  | append event | find cargo | history cargo => exact h

theorem origin?_run (h : before.origin? id = some origin) (directory : Directory)
    (accesses : List (Instant × Access)) :
    origin? (Access.run directory before accesses) id = some origin := by
  induction accesses generalizing before with
  | nil => exact h
  | cons first rest ih => exact ih (origin?_react h directory first.1 first.2)

end Origin

/-! ## The round trip -/

/-- What a store comes to: what is found under the id of the cargo, and what stays. -/
structure RoundTrip (before : RecordStore) (cargo : Cargo) (reports : History) : Prop where
  /-- The cargo is as it was, but for an origin that was kept before and for the delivery. -/
  found : ∀ now, CargoStore.find (store before cargo) cargo.trackingId now = .ok
    { trackingId := cargo.trackingId
      origin := (before.origin? cargo.trackingId).getD cargo.origin
      routeSpecification := cargo.routeSpecification
      itinerary := cargo.itinerary
      delivery := .derive cargo.routeSpecification cargo.itinerary reports now }
  /-- The origin is kept from the first time that a cargo was stored under the id, whatever was done
  since. -/
  first : ∀ (directory : Directory) (start : RecordStore) (stored : Cargo)
    (accesses : List (Instant × Access)), start.origin? cargo.trackingId = none →
    stored.trackingId = cargo.trackingId →
    Access.run directory (store start stored) accesses = before →
    before.origin? cargo.trackingId = some stored.origin
  histories : ∀ id, CargoStore.history (store before cargo) id = CargoStore.history before id
  others : ∀ id, cargo.trackingId ≠ id → ∀ now,
    CargoStore.find (store before cargo) id now = CargoStore.find before id now

/-- Whatever a record store holds, a cargo that is stored in it makes the round trip, as long as the
events of its id can be read. -/
theorem store_roundTrip {before : RecordStore} {cargo : Cargo} {reports : History}
    (h : CargoStore.history before cargo.trackingId = .ok reports) :
    before.RoundTrip cargo reports where
  found now := find_store_self h now
  first directory start stored accesses hfree hid hrun := by
    have hstored := origin?_store_self start stored
    rw [hid, hfree, Option.getD_none] at hstored
    rw [← hrun]
    exact origin?_run hstored directory accesses
  histories id := history_store before cargo id
  others id hid now := find_store_of_ne hid before now

/-- Records of a cargo that cannot be found, with one event of it and one of another cargo that says
nothing. -/
def damaged : RecordStore where
  cargos := (∅ : Std.TreeMap TrackingId CargoRecord).insert ⟨"3F2A9C1B"⟩
    { origin := "JNTKO", specOrigin := "", destination := "", arrivalDeadline := some "soon"
      legs := (∅ : Std.TreeMap Int LegRecord).insert (-3) ⟨"V100", "CNHKG", "USNYC", "", "never"⟩ }
  events := [.ofEvent (sampleEvent (.at .receive ⟨"CNHKG"⟩) 2),
    ⟨"5D07E4A2", "Lost", "CNHKG", none, "", ""⟩]

/-- A cargo that is stored over them is found, and its origin is the one that was there. -/
theorem roundTrip_over_damaged :
    (find damaged ⟨"3F2A9C1B"⟩ (sampleDay 4)).isOk = false ∧
      CargoStore.history damaged ⟨"3F2A9C1B"⟩ =
        .ok ⟨[sampleEvent (.at .receive ⟨"CNHKG"⟩) 2]⟩ ∧
      ∃ cargo, find (store damaged ((Cargo.book ⟨"3F2A9C1B"⟩ sampleSpecification
        (sampleDay 1)).assign sampleItinerary (sampleDay 1))) ⟨"3F2A9C1B"⟩ (sampleDay 4) = .ok cargo ∧
      cargo.origin = ⟨"JNTKO"⟩ ∧ cargo.itinerary = sampleItinerary ∧
      cargo.delivery.transportStatus = .inPort := by
  have hhistory : CargoStore.history damaged ⟨"3F2A9C1B"⟩ =
      .ok ⟨[sampleEvent (.at .receive ⟨"CNHKG"⟩) 2]⟩ := ok_of_toOption (by decide +kernel)
  have htrip : damaged.RoundTrip ((Cargo.book ⟨"3F2A9C1B"⟩ sampleSpecification
      (sampleDay 1)).assign sampleItinerary (sampleDay 1))
      ⟨[sampleEvent (.at .receive ⟨"CNHKG"⟩) 2]⟩ := store_roundTrip hhistory
  have horigin : damaged.origin? ⟨"3F2A9C1B"⟩ = some ⟨"JNTKO"⟩ := by decide +kernel
  refine ⟨by decide +kernel, hhistory, _, htrip.found (sampleDay 4), ?_, rfl, rfl⟩
  exact congrArg (fun kept => Option.getD kept sampleSpecification.origin) horigin

end RecordStore

end CargoTracking
