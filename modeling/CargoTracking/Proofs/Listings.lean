import CargoTracking.Proofs.ByteOrder
import CargoTracking.Proofs.Commits
import CargoTracking.Proofs.Decoding
import CargoTracking.Proofs.References

/-!
# Listings

The lists of ids, of cargos and of locations.  They leave nothing out, have nothing twice, and are in
the order of the bytes of ids and codes; and what a list says of a cargo is what a lookup says of it.
-/

namespace CargoTracking

open CargoStore Inspection

/-! ## The ids that are there -/

namespace Call

/-- The call brings the id about: it books it, and the booking is valid. -/
def stored? (directory : Directory) : Call → Option TrackingId
  | book fresh origin destination deadline =>
    (Booking.specification directory origin destination deadline).toOption.map fun _ => fresh
  | _ => none

section Stored

variable {σ : Type} [CargoStore σ] {directory : Directory} {now : Instant} {store : σ} {call : Call}

/-- A cargo that is found is there already. -/
theorem mem_iff_of_known {ids : List TrackingId} {known id : TrackingId} (hmem : known ∈ ids)
    (hnone : call.stored? directory = none) :
    known = id ∨ id ∈ ids ↔ id ∈ ids ∨ call.stored? directory = some id := by
  have hknown : known = id → id ∈ ids := fun heq => heq ▸ hmem
  rw [or_iff_right_of_imp hknown, hnone, or_iff_left nofun]

theorem stored?_eq_none_of_change (h : (call.reply directory now store).change = none) :
    call.stored? directory = none := by
  cases call with
  | book fresh origin destination deadline =>
    rw [reply] at h
    rw [stored?]
    cases hspec : Booking.specification directory origin destination deadline with
    | error e => rfl
    | ok spec =>
      rw [hspec] at h
      cases h
  | _ => rfl

variable [LawfulStore σ]

theorem Commits.mem_trackingIds_iff (hkeyed : Keyed store) {event : Option HandlingEvent}
    {cargo : Cargo} (h : call.Commits directory now store event cargo) (id : TrackingId) :
    id ∈ trackingIds (commit store event cargo) ↔
      id ∈ trackingIds store ∨ call.stored? directory = some id := by
  rw [mem_trackingIds_commit]
  cases h with
  | booked hspec =>
    rw [stored?, hspec, or_comm]
    exact or_congr_right Option.some_inj.symm
  | assigned _ hfind =>
    have hmem := hkeyed.mem_trackingIds hfind
    exact mem_iff_of_known hmem rfl
  | redirected hfind =>
    have hmem := hkeyed.mem_trackingIds hfind
    exact mem_iff_of_known hmem rfl
  | inspected hinspects hfind =>
    have hmem := hkeyed.mem_trackingIds hfind
    refine mem_iff_of_known hmem ?_
    cases hinspects <;> rfl

theorem mem_trackingIds_after (hkeyed : Keyed store) (h : call.Handled) (id : TrackingId) :
    id ∈ trackingIds (call.after directory now store) ↔
      id ∈ trackingIds store ∨ call.stored? directory = some id := by
  rw [after, Service.perform_eq_on, (describes_serve directory now { store } h.record).store,
    Reply.applied]
  cases hchange : (call.reply directory now store).change with
  | none => simp [stored?_eq_none_of_change hchange]
  | some change => exact (commits_of_change hkeyed hchange).mem_trackingIds_iff hkeyed id

end Stored

end Call

namespace Access

/-- The id under which the access stores a cargo. -/
def stored? (directory : Directory) : Access → Option TrackingId
  | .call request => request.stored? directory
  | .store cargo => some cargo.trackingId
  | find _ | history _ | append _ | insert _ => none

section Run

variable {σ : Type} [CargoStore σ] [RowStore σ] [SeparateStore σ] {store : σ}

theorem mem_trackingIds_react (hkeyed : Keyed store) (directory : Directory) (now : Instant)
    {access : Access} (h : access.Handled) (id : TrackingId) :
    id ∈ trackingIds (access.react directory now store).2 ↔
      id ∈ trackingIds store ∨ access.stored? directory = some id := by
  cases access with
  | call request => exact Call.mem_trackingIds_after hkeyed h id
  | store cargo =>
    show id ∈ trackingIds (CargoStore.store store cargo) ↔ _
    rw [LawfulStore.mem_trackingIds_store, or_comm]
    exact or_congr_right Option.some_inj.symm
  | append event =>
    show id ∈ trackingIds (CargoStore.append store event) ↔ _
    rw [LawfulStore.trackingIds_append]
    simp [stored?]
  | find other | history other =>
    show id ∈ trackingIds store ↔ _
    simp [stored?]
  | insert row => cases h

theorem retrievable_react (hstore : Retrievable store) (directory : Directory) (now : Instant)
    {access : Access} (h : access.Handled) : Retrievable (access.react directory now store).2 := by
  cases access with
  | call request =>
    exact hstore.effect (Call.effect_serve directory now store hstore.keyed request)
  | store cargo => exact hstore.store cargo
  | append event => exact hstore.append event
  | find other | history other => exact hstore
  | insert row => cases h

/-- After accesses in a row the ids are those that were there, and those that were stored. -/
theorem mem_trackingIds_run (hstore : Retrievable store) (directory : Directory)
    {accesses : List (Instant × Access)} (h : ∀ entry ∈ accesses, entry.2.Handled)
    (id : TrackingId) :
    id ∈ trackingIds (run directory store accesses) ↔
      id ∈ trackingIds store ∨ id ∈ accesses.filterMap fun entry => entry.2.stored? directory := by
  induction accesses generalizing store with
  | nil => simp [run]
  | cons first rest ih =>
    obtain ⟨now, access⟩ := first
    rw [List.forall_mem_cons] at h
    rw [run, ih (retrievable_react hstore directory now h.1) h.2,
      mem_trackingIds_react hstore.keyed directory now h.1, or_assoc]
    refine or_congr_right ?_
    simp [List.mem_filterMap]

theorem retrievable_run (hstore : Retrievable store) (directory : Directory)
    {accesses : List (Instant × Access)} (h : ∀ entry ∈ accesses, entry.2.Handled) :
    Retrievable (run directory store accesses) := by
  induction accesses generalizing store with
  | nil => exact hstore
  | cons first rest ih =>
    obtain ⟨now, access⟩ := first
    rw [List.forall_mem_cons] at h
    exact ih (retrievable_react hstore directory now h.1) h.2

end Run

end Access

/-! ## What a list says of the cargos -/

/-- When a cargo is looked up shows in the time of its derivation at most. -/
def Timeless {σ : Type} [CargoStore σ] (store : σ) : Prop :=
  ∀ {id now cargo}, find store id now = .ok cargo → ∀ later, ∃ time,
    find store id later = .ok (cargo.dated time)

theorem MemoryStore.timeless (store : MemoryStore) : Timeless store :=
  fun {_ _ cargo} hfind _ => ⟨cargo.delivery.calculatedAt, hfind⟩

theorem RecordStore.timeless (store : RecordStore) : Timeless store :=
  fun hfind later => ⟨later, find_dated hfind later⟩

/-- The lists of a store, under whose ids those of the list have been stored. -/
structure Listed {σ : Type} [CargoStore σ] (store : σ) (stored : List TrackingId) : Prop where
  sorted : (trackingIds store).Pairwise fun a b => Text.bytes a.text < Text.bytes b.text
  mem_iff : ∀ id, id ∈ trackingIds store ↔ id ∈ stored
  cargos : ∀ now, ∃ cargos, findAll store now = .ok cargos ∧
    List.Forall₂ (fun id cargo => cargo.trackingId = id ∧ find store id now = .ok cargo ∧
      ∀ later, ∃ time, find store id later = .ok (cargo.dated time)) (trackingIds store) cargos
  /-- A cargo under the empty id is listed as well, although it cannot be loaded. -/
  booked : ∀ now, ∃ booked, ((Booking.cargos now).perform store).result = .ok booked ∧
    List.Forall₂ (fun id entry => entry.trackingId = id ∧ (id.isEmpty = false →
      ∀ later, ((Booking.load later id).perform store).result = .ok entry))
      (trackingIds store) booked

section Listed

variable {σ : Type} [CargoStore σ] [LawfulStore σ] {store : σ} {stored : List TrackingId}

theorem bytes_sorted (store : σ) :
    (trackingIds store).Pairwise fun a b => Text.bytes a.text < Text.bytes b.text :=
  (LawfulStore.sorted_trackingIds store).imp Text.bytes_lt_of_compare

theorem listed_of_found (hkeyed : Keyed store) (htimeless : Timeless store)
    (hmem : ∀ id, id ∈ trackingIds store ↔ id ∈ stored)
    (hfound : ∀ id ∈ trackingIds store, ∀ now, ∃ cargo, find store id now = .ok cargo) :
    Listed store stored where
  sorted := bytes_sorted store
  mem_iff := hmem
  cargos now := by
    obtain ⟨cargos, hall, hcargos⟩ := Reads.exists_findAll fun id hid => hfound id hid now
    exact ⟨cargos, hall, hcargos.imp fun id cargo hfind =>
      ⟨hkeyed.trackingId hfind, hfind, htimeless hfind⟩⟩
  booked now := by
    obtain ⟨cargos, hall, hcargos⟩ := Reads.exists_findAll fun id hid => hfound id hid now
    refine ⟨cargos.map .of, ?_, ?_⟩
    · rw [Service.perform_eq_on, Booking.cargos_on, hall]
      rfl
    · rw [List.forall₂_map_right_iff]
      refine hcargos.imp fun id cargo hfind => ⟨hkeyed.trackingId hfind, fun hid later => ?_⟩
      obtain ⟨time, hlater⟩ := htimeless hfind later
      rw [Service.perform_eq_on, Booking.load_on, hlater, hid]
      rfl

end Listed

theorem listed_run {σ : Type} [CargoStore σ] [RowStore σ] [SeparateStore σ] (directory : Directory)
    {accesses : List (Instant × Access)} (h : ∀ entry ∈ accesses, entry.2.Handled)
    (htimeless : ∀ store : σ, Timeless store) :
    Listed (Access.run directory (empty : σ) accesses)
      (accesses.filterMap fun entry => entry.2.stored? directory) := by
  have hretrievable := Access.retrievable_run (retrievable_empty (σ := σ)) directory h
  refine listed_of_found hretrievable.keyed (htimeless _) (fun id => ?_) fun id hid now => ?_
  · rw [Access.mem_trackingIds_run retrievable_empty directory h, SteadyStore.trackingIds_empty,
      or_iff_right List.not_mem_nil]
  · -- Every history is readable, since it is the log of what was appended.
    have hhistory := Access.history_run directory h (empty : σ) id
    rw [SteadyStore.history_empty] at hhistory
    exact hretrievable.found hid hhistory now

/-! ## Locations -/

/-- What a directory that was made of a list of locations says of them. -/
structure Directory.ListsLocations (directory : Directory) (locations : List Location) : Prop where
  sorted : directory.allLocations.Pairwise fun a b =>
    Text.bytes a.unLocode.text < Text.bytes b.unLocode.text
  codes : ∀ code, code ∈ directory.allLocations.map (·.unLocode) ↔
    code ∈ locations.map (·.unLocode)
  /-- An entry is the last one that was given for its code. -/
  mem_iff : ∀ location, location ∈ directory.allLocations ↔
    (locations.filter (·.unLocode = location.unLocode)).getLast? = some location
  known : ∀ location ∈ directory.allLocations,
    directory.findLocation location.unLocode = .ok location
  unknown : ∀ code, code ∉ locations.map (·.unLocode) →
    directory.findLocation code = .error (.unknownLocation code)

namespace Directory

variable {locations : List Location} {voyages : List Voyage} {location : Location} {code : UnLocode}

theorem mem_entries_iff : (code, location) ∈ (ofLists locations voyages).locations.toList ↔
    (locations.filter (·.unLocode = code)).getLast? = some location := by
  rw [Std.TreeMap.mem_toList_iff_getElem?_eq_some, ofLists, OrderedMap.getElem?_foldl_insert_empty]

theorem mem_allLocations_iff : location ∈ (ofLists locations voyages).allLocations ↔
    (locations.filter (·.unLocode = location.unLocode)).getLast? = some location := by
  rw [allLocations, OrderedMap.values_eq_map, List.mem_map]
  constructor
  · rintro ⟨⟨code, _⟩, hentry, rfl⟩
    have hlast := mem_entries_iff.mp hentry
    obtain ⟨-, rfl⟩ := OrderedMap.of_getLast?_filter hlast
    exact hlast
  · exact fun hlast => ⟨(location.unLocode, location), mem_entries_iff.mpr hlast, rfl⟩

theorem listsLocations (locations : List Location) (voyages : List Voyage) :
    (ofLists locations voyages).ListsLocations locations where
  sorted := by
    rw [allLocations, OrderedMap.values_eq_map, List.pairwise_map]
    refine Std.TreeMap.ordered_keys_toList.imp_of_mem fun {entry entry'} hentry hentry' hlt => ?_
    obtain ⟨-, hcode⟩ := OrderedMap.of_getLast?_filter (mem_entries_iff.mp hentry)
    obtain ⟨-, hcode'⟩ := OrderedMap.of_getLast?_filter (mem_entries_iff.mp hentry')
    rw [hcode, hcode']
    exact Text.bytes_lt_of_compare hlt
  codes code := by
    rw [List.mem_map, List.mem_map]
    constructor
    · rintro ⟨location, hlocation, rfl⟩
      exact ⟨location, (OrderedMap.of_getLast?_filter (mem_allLocations_iff.mp hlocation)).1, rfl⟩
    · intro hgiven
      obtain ⟨last, hlast⟩ := OrderedMap.exists_getLast?_filter (List.mem_map.mpr hgiven)
      obtain ⟨-, rfl⟩ := OrderedMap.of_getLast?_filter hlast
      exact ⟨last, mem_allLocations_iff.mpr hlast, rfl⟩
  mem_iff location := mem_allLocations_iff
  known location hlocation := by
    rw [findLocation_ofLists, mem_allLocations_iff.mp hlocation]
  unknown _ hcode := findLocation_of_not_mem hcode

end Directory

/-- Over either store and after any accesses, the lists have every id and every cargo that was stored
once, in the order of the bytes of the ids; and for any list that a directory is made of, it has every
location that was given last for its code, in the order of the codes. -/
theorem listings_complete (directory : Directory) {accesses : List (Instant × Access)}
    (h : ∀ entry ∈ accesses, entry.2.Handled) :
    Listed (Access.run directory (empty : MemoryStore) accesses)
        (accesses.filterMap fun entry => entry.2.stored? directory) ∧
      Listed (Access.run directory (empty : RecordStore) accesses)
        (accesses.filterMap fun entry => entry.2.stored? directory) ∧
      ∀ (locations : List Location) (voyages : List Voyage),
        (Directory.ofLists locations voyages).ListsLocations locations :=
  ⟨listed_run directory h MemoryStore.timeless, listed_run directory h RecordStore.timeless,
    Directory.listsLocations⟩

/-- Two cargos are booked, and one is stored under the empty id, one under a letter that is not
ASCII, and one for the second time; a booking without a destination stores nothing. -/
def catalogued : List (Instant × Access) :=
  [(sampleDay 1, .call (.book ⟨"Z"⟩ ⟨"CNHKG"⟩ ⟨"SESTO"⟩ (some (sampleDay 18)))),
    (sampleDay 1, .store (.book ⟨"É"⟩ sampleSpecification (sampleDay 1))),
    (sampleDay 2, .store (.book ⟨""⟩ sampleSpecification (sampleDay 2))),
    (sampleDay 3, .call (.book ⟨"A"⟩ ⟨"CNHKG"⟩ ⟨"SESTO"⟩ (some (sampleDay 18)))),
    (sampleDay 4, .store (.book ⟨"Z"⟩ sampleSpecification (sampleDay 4))),
    (sampleDay 5, .call (.book ⟨"B"⟩ ⟨"CNHKG"⟩ ⟨""⟩ (some (sampleDay 18))))]

theorem listed_catalogued : (∀ entry ∈ catalogued, entry.2.Handled) ∧
    (catalogued.filterMap fun entry => entry.2.stored? .sample) =
      [⟨"Z"⟩, ⟨"É"⟩, ⟨""⟩, ⟨"A"⟩, ⟨"Z"⟩] ∧
    trackingIds (Access.run .sample (empty : RecordStore) catalogued) =
      [⟨""⟩, ⟨"A"⟩, ⟨"Z"⟩, ⟨"É"⟩] ∧
    Listed (Access.run .sample (empty : RecordStore) catalogued)
      [⟨"Z"⟩, ⟨"É"⟩, ⟨""⟩, ⟨"A"⟩, ⟨"Z"⟩] := by
  have hhandled : ∀ entry ∈ catalogued, entry.2.Handled := by
    simp [catalogued, Access.Handled, Call.Handled]
  have hstored : (catalogued.filterMap fun entry => entry.2.stored? .sample) =
      [⟨"Z"⟩, ⟨"É"⟩, ⟨""⟩, ⟨"A"⟩, ⟨"Z"⟩] := by decide +kernel
  have hlisted := (listings_complete .sample hhandled).2.1
  rw [hstored] at hlisted
  exact ⟨hhandled, hstored, by decide +kernel, hlisted⟩

end CargoTracking
