import CargoTracking.Proofs.EventLog
import CargoTracking.Proofs.Sessions

/-!
# References to places and voyages

What a request refers to is looked up before anything of it is recorded: the places of a booking, a
new destination, and the cargo, the place and the voyage of a report.  So whatever the services have
recorded refers to what there is, and a history has one event for each report that was accepted.
Only an event that is recorded as such, past the reports, is not looked at.
-/

namespace CargoTracking

open CargoStore Inspection

/-! ## What is looked up -/

namespace Directory

variable {locations : List Location} {voyages : List Voyage}

/-- Of several locations with one code the last one is found. -/
theorem findLocation_ofLists (locations : List Location) (voyages : List Voyage) (code : UnLocode) :
    (ofLists locations voyages).findLocation code =
      match (locations.filter (·.unLocode = code)).getLast? with
      | some location => .ok location
      | none => .error (.unknownLocation code) := by
  rw [← OrderedMap.getElem?_foldl_insert_empty]
  rfl

theorem findVoyage_ofLists (locations : List Location) (voyages : List Voyage)
    (number : VoyageNumber) :
    (ofLists locations voyages).findVoyage number =
      match (voyages.filter (·.number = number)).getLast? with
      | some voyage => .ok voyage
      | none => .error (.unknownVoyage number) := by
  rw [← OrderedMap.getElem?_foldl_insert_empty]
  rfl

theorem of_findLocation_ofLists {code : UnLocode} {location : Location}
    (h : (ofLists locations voyages).findLocation code = .ok location) :
    location ∈ locations ∧ location.unLocode = code := by
  rw [findLocation_ofLists] at h
  split at h
  · rename_i hlast
    cases h
    exact OrderedMap.of_getLast?_filter hlast
  · cases h

theorem of_findVoyage_ofLists {number : VoyageNumber} {voyage : Voyage}
    (h : (ofLists locations voyages).findVoyage number = .ok voyage) :
    voyage ∈ voyages ∧ voyage.number = number := by
  rw [findVoyage_ofLists] at h
  split at h
  · rename_i hlast
    cases h
    exact OrderedMap.of_getLast?_filter hlast
  · cases h

theorem findLocation_of_not_mem {code : UnLocode} (h : code ∉ locations.map (·.unLocode)) :
    (ofLists locations voyages).findLocation code = .error (.unknownLocation code) := by
  rw [findLocation_ofLists, OrderedMap.getLast?_filter_eq_none h]

theorem findVoyage_of_not_mem {number : VoyageNumber} (h : number ∉ voyages.map (·.number)) :
    (ofLists locations voyages).findVoyage number = .error (.unknownVoyage number) := by
  rw [findVoyage_ofLists, OrderedMap.getLast?_filter_eq_none h]

theorem exists_findLocation {code : UnLocode} (h : code ∈ locations.map (·.unLocode)) :
    ∃ location, (ofLists locations voyages).findLocation code = .ok location := by
  obtain ⟨location, hlast⟩ := OrderedMap.exists_getLast?_filter h
  exact ⟨location, by rw [findLocation_ofLists, hlast]⟩

theorem exists_findVoyage {number : VoyageNumber} (h : number ∈ voyages.map (·.number)) :
    ∃ voyage, (ofLists locations voyages).findVoyage number = .ok voyage := by
  obtain ⟨voyage, hlast⟩ := OrderedMap.exists_getLast?_filter h
  exact ⟨voyage, by rw [findVoyage_ofLists, hlast]⟩

end Directory

/-- The event is one, and what it refers to is listed. -/
structure HandlingEvent.RefersTo (event : HandlingEvent) (locations : List Location)
    (voyages : List Voyage) : Prop where
  handled : event.activity.kind ≠ .notHandled
  location : event.activity.location ∈ locations.map (·.unLocode)
  /-- An empty number is not taken for a voyage, not even for one that is listed under it. -/
  voyage : ∀ number ∈ event.activity.voyageNumber,
    number.isEmpty = false ∧ number ∈ voyages.map (·.number)

/-- The places that the cargo refers to are listed. -/
structure Cargo.RefersTo (cargo : Cargo) (locations : List Location) : Prop where
  origin : cargo.origin ∈ locations.map (·.unLocode)
  start : cargo.routeSpecification.origin ∈ locations.map (·.unLocode)
  destination : cargo.routeSpecification.destination ∈ locations.map (·.unLocode)

theorem Cargo.RefersTo.of_eq {cargo cargo' : Cargo} {locations : List Location}
    (h : cargo.RefersTo locations) (horigin : cargo'.origin = cargo.origin)
    (hspec : cargo'.routeSpecification = cargo.routeSpecification) : cargo'.RefersTo locations where
  origin := horigin ▸ h.origin
  start := hspec ▸ h.start
  destination := hspec ▸ h.destination

/-! ## Events -/

namespace Call

/-- The call checks what it records; an event that is recorded as such is not checked. -/
def Checks : Call → Prop
  | record _ => False
  | _ => True

/-- The call registers a report of the cargo, and succeeds. -/
def registers {σ : Type} [CargoStore σ] (directory : Directory) (now : Instant) (store : σ)
    (id : TrackingId) : Call → Bool
  | register report => report.trackingId = id &&
      (((register report).serve directory now).perform store).result.isOk
  | _ => false

variable {σ : Type} [CargoStore σ] {directory : Directory} {now : Instant} {store : σ} {call : Call}
  {locations : List Location} {voyages : List Voyage} {event : HandlingEvent}

theorem Checks.handled (h : call.Checks) : call.Handled := by
  cases call with
  | record event => cases h
  | _ => trivial

/-- An event that such a call records was reported. -/
theorem Checks.exists_report (h : call.Checks)
    (hevent : call.recorded directory now store = some event) :
    ∃ report completedAt, call = .register report ∧ report.completion = .ok completedAt ∧
      Registration.event directory now now completedAt report store = .ok event := by
  obtain ⟨_, -, hmade⟩ := Option.bind_eq_some_iff.mp hevent
  cases call with
  | record event => cases h
  | register report =>
    obtain ⟨completedAt, hcompletion, hmade⟩ := event?_register_eq_some_iff.mp hmade
    exact ⟨report, completedAt, rfl, hcompletion, hmade⟩
  | _ => cases hmade

theorem Checks.refersTo (h : call.Checks)
    (hevent : call.recorded (.ofLists locations voyages) now store = some event) :
    event.RefersTo locations voyages := by
  obtain ⟨report, _, rfl, hcompletion, hmade⟩ := h.exists_report hevent
  have hhandled := Registration.handled_of_event hcompletion hmade
  obtain ⟨_, _, -, hdone, rfl⟩ := Registration.exists_of_event hmade
  obtain ⟨location, voyage, hlocation, hvoyage, rfl⟩ := Registration.exists_of_activity hdone
  refine ⟨hhandled, List.mem_map_of_mem (Directory.of_findLocation_ofLists hlocation).1, ?_⟩
  intro number hnumber
  obtain ⟨found, hfound, rfl⟩ := Option.map_eq_some_iff.mp hnumber
  obtain ⟨hnonempty, hlookup⟩ := hvoyage found hfound
  obtain ⟨hmem, hself⟩ := Directory.of_findVoyage_ofLists hlookup
  refine ⟨?_, List.mem_map_of_mem hmem⟩
  rw [hself, hnonempty]

variable [LawfulStore σ]

theorem exists_event_of_register {report : Report} {answer : Answer}
    (h : (((register report).serve directory now).perform store).result = .ok answer) :
    ∃ event, (register report).event? directory now store = some event := by
  rw [Service.perform_eq_on, (describes_register directory now { store } report).result, reply] at h
  cases hcompletion : report.completion with
  | error fault => rw [hcompletion] at h; cases h
  | ok completedAt =>
    rw [hcompletion] at h
    dsimp only at h
    cases hmade : Registration.event directory now now completedAt report store with
    | error e => rw [hmade] at h; cases h
    | ok event => exact ⟨event, event?_register_eq_some_iff.mpr ⟨completedAt, hcompletion, hmade⟩⟩

/-- A registration that succeeds records one event of its cargo, and no other call records one. -/
theorem Checks.registers_eq (h : call.Checks) (hkeyed : Keyed store) (id : TrackingId) :
    call.registers directory now store id =
      (call.recorded directory now store).any (·.trackingId = id) := by
  cases call with
  | record event => cases h
  | register report =>
    rw [registers, recorded]
    cases hresult : (((register report).serve directory now).perform store).result with
    | error e => exact Bool.and_false _
    | ok answer =>
      obtain ⟨event, hevent⟩ := exists_event_of_register hresult
      obtain ⟨_, hcompletion, hmade⟩ := event?_register_eq_some_iff.mp hevent
      have howner := (inspects_of_event hkeyed hcompletion hmade).owner
      show (decide (report.trackingId = id) && true) =
        ((register report).event? directory now store).any _
      rw [hevent, Bool.and_true, Option.any_some, howner]
  | _ => rw [recorded, event?, Option.bind_fun_none]; rfl

end Call

theorem History.length_appendOf (history : History) (id : TrackingId)
    (event : Option HandlingEvent) :
    (history.appendOf id event.toList).events.length =
      history.events.length + if event.any (·.trackingId = id) then 1 else 0 := by
  cases event with
  | none => rw [Option.toList, appendOf_nil]; rfl
  | some event =>
    rw [Option.toList, appendOf_singleton, Option.any_some]
    simp only [decide_eq_true_eq]
    split
    · exact List.length_append
    · rfl

/-! ## Cargos -/

/-- The cargos that are found refer to listed places. -/
structure Placed {σ : Type} [CargoStore σ] (locations : List Location) (store : σ) : Prop where
  refersTo : ∀ {id now cargo}, find store id now = .ok cargo → cargo.RefersTo locations

section Placed

variable {σ : Type} [CargoStore σ] [SteadyStore σ] {locations : List Location}
  {voyages : List Voyage} {now : Instant} {before : σ} {call : Call} {event : Option HandlingEvent}
  {cargo : Cargo}

theorem placed_empty : Placed locations (empty : σ) where
  refersTo hfind := by
    rw [SteadyStore.find_empty] at hfind
    cases hfind

theorem Placed.extended (h : Placed locations before) (event : Option HandlingEvent) :
    Placed locations (extended before event) where
  refersTo hfind := by
    cases event with
    | none => exact h.refersTo hfind
    | some event =>
      obtain ⟨delivery, hfound⟩ := SteadyStore.find_of_append hfind
      exact (h.refersTo hfound).of_eq rfl rfl

theorem Placed.store (h : Placed locations before) (hcoherent : Coherent before)
    (hcargo : cargo.RefersTo locations) : Placed locations (CargoStore.store before cargo) where
  refersTo {id now found} hfind := by
    by_cases hself : cargo.trackingId = id
    · subst hself
      obtain ⟨hspec, horigin⟩ := SteadyStore.route_of_find_store hfind
      refine ⟨?_, hspec ▸ hcargo.start, hspec ▸ hcargo.destination⟩
      rcases horigin with hown | ⟨hmem, hknown⟩
      · rw [hown]
        exact hcargo.origin
      · -- The cargo was there before, and could be found.
        obtain ⟨reports, hhistory⟩ := LawfulStore.history_of_find hfind
        rw [LawfulStore.history_store] at hhistory
        obtain ⟨known, hfound⟩ := hcoherent.found hmem hhistory now
        rw [hknown now known hfound]
        exact (h.refersTo hfound).origin
    · rw [LawfulStore.find_store_of_ne hself] at hfind
      exact h.refersTo hfind

omit [SteadyStore σ] in
/-- Every place of a cargo that is committed was looked up, now or before. -/
theorem Call.Commits.refersTo
    (h : call.Commits (.ofLists locations voyages) now before event cargo)
    (hstore : Placed locations before) : cargo.RefersTo locations := by
  have hlisted : ∀ {code location},
      (Directory.ofLists locations voyages).findLocation code = .ok location →
      code ∈ locations.map (·.unLocode) := by
    intro code location hfound
    obtain ⟨hmem, rfl⟩ := Directory.of_findLocation_ofLists hfound
    exact List.mem_map_of_mem hmem
  cases h with
  | booked hspec =>
    obtain ⟨rfl, hvalid⟩ := Booking.specification_eq_ok_iff.mp hspec
    obtain ⟨_, horigin⟩ := hvalid.known_origin
    obtain ⟨_, hdestination⟩ := hvalid.known_destination
    exact ⟨hlisted horigin, hlisted horigin, hlisted hdestination⟩
  | assigned _ hfind => exact (hstore.refersTo hfind).of_eq rfl rfl
  | redirected hfind hknown =>
    have horigin := (hstore.refersTo hfind).origin
    exact ⟨horigin, horigin, List.mem_map_of_mem (Directory.of_findLocation_ofLists hknown).1⟩
  | inspected _ hfind => exact (hstore.refersTo hfind).of_eq rfl rfl

theorem Call.Commits.coherent_extended {directory : Directory}
    (h : call.Commits directory now before event cargo) (hcoherent : Coherent before) :
    Coherent (extended before event) := by
  cases h with
  | booked => exact hcoherent
  | assigned => exact hcoherent
  | redirected => exact hcoherent
  | inspected hinspects hfind => exact hcoherent.extended hinspects (mem_trackingIds_of_find hfind)

theorem Placed.applied (h : Placed locations before) (hcoherent : Coherent before) :
    Placed locations ((call.reply (.ofLists locations voyages) now before).applied before) := by
  rw [Reply.applied]
  cases hchange : (call.reply (.ofLists locations voyages) now before).change with
  | none => exact h
  | some change =>
    have hcommits := Call.commits_of_change hcoherent.keyed hchange
    exact (h.extended change.1).store (hcommits.coherent_extended hcoherent) (hcommits.refersTo h)

end Placed

/-! ## Sessions -/

namespace Session

section Definitions

variable (session : Session) (σ : Type) [CargoStore σ]

/-- Every call of the session checks what it records. -/
def Checks : Prop := ∀ entry ∈ session.calls, entry.2.Checks

/-- The call at the position registers a report of the cargo, and succeeds. -/
def registers (i : Nat) (id : TrackingId) : Bool :=
  match session.calls[i]? with
  | none => false
  | some (now, call) => call.registers session.directory now (session.state σ i) id

/-- The event that the call at the position records. -/
def recorded (i : Nat) : Option HandlingEvent :=
  match session.calls[i]? with
  | none => none
  | some (now, call) => call.recorded session.directory now (session.state σ i)

/-- How many reports of the cargo the first calls have registered. -/
def registrations (k : Nat) (id : TrackingId) : Nat :=
  (List.range k).countP fun i => session.registers σ i id

/-- What the store holds after the first calls refers to what is listed and to what is booked. -/
structure RefersTo (locations : List Location) (voyages : List Voyage) (k : Nat) : Prop where
  events : ∀ id, ∃ reports, history (session.state σ k) id = .ok reports ∧
    reports.events.length = session.registrations σ k id ∧
    ∀ event ∈ reports.events, event.trackingId = id ∧ id ∈ trackingIds (session.state σ k) ∧
      event.RefersTo locations voyages
  cargos : ∀ id ∈ trackingIds (session.state σ k), ∀ now, ∃ cargo,
    find (session.state σ k) id now = .ok cargo ∧ cargo.trackingId = id ∧ cargo.RefersTo locations

end Definitions

variable {session : Session} {σ : Type} [CargoStore σ] [SteadyStore σ] {locations : List Location}
  {voyages : List Voyage}

omit [SteadyStore σ] in
theorem registrations_succ (k : Nat) (id : TrackingId) : session.registrations σ (k + 1) id =
    session.registrations σ k id + if session.registers σ k id then 1 else 0 := by
  rw [registrations, List.range_succ, List.countP_append, List.countP_singleton]
  rfl

theorem placed_state (hdirectory : session.directory = .ofLists locations voyages)
    (h : session.Checks) (k : Nat) : Placed locations (session.state σ k) := by
  refine state_induction (motive := Placed locations) placed_empty (fun k now call hcall ih => ?_) k
  have hchecks : call.Checks := h _ (List.mem_of_getElem? hcall)
  rw [state_succ_eq_applied hcall hchecks.handled.record, hdirectory]
  exact ih.applied (coherent_state session k)

/-- A call of the session adds what it records to the history of its cargo. -/
theorem history_succ (h : session.Checks) (k : Nat) (id : TrackingId) :
    history (session.state σ (k + 1)) id =
      (history (session.state σ k) id).map (·.appendOf id (session.recorded σ k).toList) := by
  rw [recorded]
  cases hcall : session.calls[k]? with
  | none =>
    rw [state_succ_of_none hcall]
    exact (History.map_appendOf_nil _ id).symm
  | some entry =>
    have hchecks : entry.2.Checks := h _ (List.mem_of_getElem? hcall)
    rw [state_succ hcall, Call.history_after hchecks.handled]

theorem registers_eq (h : session.Checks) (k : Nat) (id : TrackingId) :
    session.registers σ k id = (session.recorded σ k).any (·.trackingId = id) := by
  rw [registers, recorded]
  cases hcall : session.calls[k]? with
  | none => rfl
  | some entry =>
    have hchecks : entry.2.Checks := h _ (List.mem_of_getElem? hcall)
    exact hchecks.registers_eq (coherent_state session k).keyed id

omit [SteadyStore σ] in
theorem refersTo_of_recorded (hdirectory : session.directory = .ofLists locations voyages)
    (h : session.Checks) {k : Nat} {event : HandlingEvent}
    (hevent : session.recorded σ k = some event) : event.RefersTo locations voyages := by
  rw [recorded] at hevent
  cases hcall : session.calls[k]? with
  | none => rw [hcall] at hevent; cases hevent
  | some entry =>
    have hchecks : entry.2.Checks := h _ (List.mem_of_getElem? hcall)
    rw [hcall, hdirectory] at hevent
    exact hchecks.refersTo hevent

theorem exists_history_state (hdirectory : session.directory = .ofLists locations voyages)
    (h : session.Checks) (k : Nat) (id : TrackingId) :
    ∃ reports, history (session.state σ k) id = .ok reports ∧
      reports.events.length = session.registrations σ k id ∧
      ∀ event ∈ reports.events, event.trackingId = id ∧ event.RefersTo locations voyages := by
  induction k with
  | zero => exact ⟨.empty, SteadyStore.history_empty id, rfl, fun event hevent => by cases hevent⟩
  | succ k ih =>
    obtain ⟨reports, hhistory, hlength, hreports⟩ := ih
    -- The call appends the event of the report that it registers, if it does.
    rw [history_succ h, hhistory, registrations_succ, registers_eq h]
    refine ⟨_, rfl, ?_, fun event hevent => ?_⟩
    · rw [History.length_appendOf, hlength]
    · rcases List.mem_append.mp hevent with hold | hnew
      · exact hreports event hold
      · obtain ⟨hmem, howner⟩ := List.mem_filter.mp hnew
        rw [Option.mem_toList] at hmem
        exact ⟨of_decide_eq_true howner, refersTo_of_recorded hdirectory h hmem⟩

theorem refersTo_state (hdirectory : session.directory = .ofLists locations voyages)
    (h : session.Checks) (k : Nat) : session.RefersTo σ locations voyages k := by
  have hcoherent := coherent_state (σ := σ) session k
  refine ⟨fun id => ?_, fun id hid now => ?_⟩
  · obtain ⟨reports, hhistory, hlength, hreports⟩ :=
      exists_history_state (σ := σ) hdirectory h k id
    refine ⟨reports, hhistory, hlength, fun event hevent => ?_⟩
    obtain ⟨howner, hrefers⟩ := hreports event hevent
    exact ⟨howner, hcoherent.mem_trackingIds_of_mem hhistory hevent, hrefers⟩
  · obtain ⟨reports, hhistory, -⟩ := exists_history_state (σ := σ) hdirectory h k id
    obtain ⟨cargo, hfind⟩ := hcoherent.found hid hhistory now
    exact ⟨cargo, hfind, hcoherent.keyed.trackingId hfind, (placed_state hdirectory h k).refersTo hfind⟩

end Session

/-- Over either store, what was recorded by calls that check it refers to what is listed and to what
is booked, and there is one event for each report that was registered. -/
theorem references_listed {session : Session} {locations : List Location} {voyages : List Voyage}
    (hdirectory : session.directory = .ofLists locations voyages) (h : session.Checks) (k : Nat) :
    session.RefersTo MemoryStore locations voyages k ∧
      session.RefersTo RecordStore locations voyages k :=
  ⟨Session.refersTo_state hdirectory h k, Session.refersTo_state hdirectory h k⟩

/-- Reports that are refused, for a voyage and a place that are not listed and a cargo that is not
booked, among two that are accepted, before and after the cargo is booked again. -/
def Session.refusing : Session where
  directory := .ofLists sampleLocations (⟨⟨""⟩, ⟨[]⟩⟩ :: sampleVoyages)
  calls :=
    [(sampleDay 1, .book ⟨"3F2A9C1B"⟩ ⟨"CNHKG"⟩ ⟨"SESTO"⟩ (some (sampleDay 18))),
      (sampleDay 2, .register ⟨⟨"3F2A9C1B"⟩, .receive, ⟨"CNHKG"⟩, ⟨""⟩, some (sampleDay 1)⟩),
      (sampleDay 3, .register ⟨⟨"3F2A9C1B"⟩, .load, ⟨"CNHKG"⟩, ⟨"V900"⟩, some (sampleDay 3)⟩),
      (sampleDay 4, .register ⟨⟨"3F2A9C1B"⟩, .customs, ⟨"GBLON"⟩, ⟨""⟩, some (sampleDay 4)⟩),
      (sampleDay 4, .register ⟨⟨"5D07E4A2"⟩, .claim, ⟨"SESTO"⟩, ⟨""⟩, some (sampleDay 4)⟩),
      (sampleDay 5, .changeDestination ⟨"3F2A9C1B"⟩ ⟨"GBLON"⟩),
      (sampleDay 6, .book ⟨"3F2A9C1B"⟩ ⟨"JNTKO"⟩ ⟨"DEHAM"⟩ (some (sampleDay 30))),
      (sampleDay 7, .register ⟨⟨"3F2A9C1B"⟩, .load, ⟨"JNTKO"⟩, ⟨"V300"⟩, some (sampleDay 7)⟩)]

/-- The history has the two events, and the booking has left the first one in it. -/
theorem references_of_refusing :
    Session.refusing.registrations MemoryStore 8 ⟨"3F2A9C1B"⟩ = 2 ∧
    (∃ reports, history (Session.refusing.state RecordStore 8) ⟨"3F2A9C1B"⟩ = .ok reports ∧
      reports.events.length = 2) ∧
    Session.refusing.RefersTo MemoryStore sampleLocations (⟨⟨""⟩, ⟨[]⟩⟩ :: sampleVoyages) 8 ∧
    Session.refusing.RefersTo RecordStore sampleLocations (⟨⟨""⟩, ⟨[]⟩⟩ :: sampleVoyages) 8 := by
  have hchecks : Session.refusing.Checks := by
    simp [Session.Checks, Session.refusing, Call.Checks]
  obtain ⟨hmemory, hrecords⟩ := references_listed rfl hchecks 8
  refine ⟨by decide +kernel, ?_, hmemory, hrecords⟩
  obtain ⟨reports, hhistory, hlength, -⟩ := hrecords.events ⟨"3F2A9C1B"⟩
  refine ⟨reports, hhistory, hlength.trans ?_⟩
  decide +kernel

end CargoTracking
