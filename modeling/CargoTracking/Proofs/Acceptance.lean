import CargoTracking.Proofs.Decoding
import CargoTracking.Proofs.References
import CargoTracking.Proofs.Reporting

/-!
# Accepted reports

A report goes through checks in a fixed order, and is refused by the first one that it fails.  One that
passes them all is accepted: neither recording its event nor the inspection after it can fail any more.
No check looks at the plan of the cargo.
-/

namespace CargoTracking

open CargoStore Inspection

namespace Report

inductive Check
  /-- There is a time of completion. -/
  | timed
  /-- There are an id and a location. -/
  | named
  | handled
  /-- The cargo can be found. -/
  | found
  /-- The voyage is listed, if there is one. -/
  | onVoyage
  /-- The location is listed. -/
  | placed

namespace Check

def inOrder : List Check := [timed, named, handled, found, onVoyage, placed]

/-- What a report that fails the check is refused with. -/
def error? {σ : Type} [CargoStore σ] (locations : List Location) (voyages : List Voyage)
    (now : Instant) (store : σ) (report : Report) : Check → Option Error
  | timed => if report.completedAt.isNone then some (.invalidArgument .noCompletionTime) else none
  | named =>
    if report.trackingId.isEmpty ∨ report.location.isEmpty then
      some (.invalidArgument .noTrackingIdOrLocation)
    else none
  | handled => if report.kind = .notHandled then some (.invalidArgument .noEventKind) else none
  | found => failure? (find store report.trackingId now)
  | onVoyage =>
    if report.voyageNumber.isEmpty ∨ report.voyageNumber ∈ voyages.map (·.number) then none
    else some (.unknownVoyage report.voyageNumber)
  | placed =>
    if report.location ∈ locations.map (·.unLocode) then none
    else some (.unknownLocation report.location)

end Check

/-- What the report says was done; an empty number stands for no voyage. -/
def activity (report : Report) : Activity where
  kind := report.kind
  location := report.location
  voyageNumber := if report.voyageNumber.isEmpty then none else some report.voyageNumber

def event (report : Report) (now completedAt : Instant) : HandlingEvent :=
  ⟨report.trackingId, report.activity, now, completedAt⟩

end Report

namespace Reads

/-! ## Check by check -/

section Items

variable {κ α : Type} {error? : κ → Option Error} {item : κ} {items : List κ} {P : α → Prop}
  {result : Except Error α}

theorem cons_of_none (h : error? item = none) (hrest : Reads error? items P result) :
    Reads error? (item :: items) P result where
  failed e he := hrest.failed e (by rwa [List.findSome?_cons_of_isNone (by rw [h]; rfl)] at he)
  read hnone := hrest.read (by rwa [List.findSome?_cons_of_isNone (by rw [h]; rfl)] at hnone)

theorem cons_of_some {e : Error} (h : error? item = some e) (hresult : result = .error e) :
    Reads error? (item :: items) P result where
  failed e' he := by
    rw [List.findSome?_cons, h] at he
    rw [hresult, Option.some.inj he]
  read hnone := by
    rw [List.findSome?_cons, h] at hnone
    cases hnone

theorem eq_match {result : Except Error Unit} {P : Unit → Prop} (h : Reads error? items P result) :
    result = match items.findSome? error? with
      | some e => .error e
      | none => .ok () := by
  cases herror : items.findSome? error? with
  | none => exact (h.read herror).elim fun _ hvalue => hvalue.1
  | some e => exact h.failed e herror

end Items

section Checks

open Report

variable {σ : Type} [CargoStore σ] (locations : List Location) (voyages : List Voyage)
  (now : Instant) (store : σ) (report : Report)

theorem completion :
    Reads (Check.error? locations voyages now store report) [.timed, .named, .handled]
      (fun completedAt => report.completedAt = some completedAt)
      (report.completion.mapError .invalidArgument) := by
  unfold Report.completion
  cases htime : report.completedAt with
  | none =>
    have htimed : report.completedAt.isNone := by rw [htime]; rfl
    exact cons_of_some (if_pos htimed) rfl
  | some completedAt =>
    have htimed : ¬ report.completedAt.isNone := by rw [htime]; exact Bool.false_ne_true
    refine cons_of_none (if_neg htimed) ?_
    dsimp only
    by_cases hnamed : report.trackingId.isEmpty ∨ report.location.isEmpty
    · rw [if_pos (Bool.or_eq_true_iff.mpr hnamed)]
      exact cons_of_some (if_pos hnamed) rfl
    rw [if_neg (mt Bool.or_eq_true_iff.mp hnamed)]
    refine cons_of_none (if_neg hnamed) ?_
    by_cases hhandled : report.kind = .notHandled
    · rw [if_pos hhandled]
      exact cons_of_some (if_pos hhandled) rfl
    · rw [if_neg hhandled]
      exact cons_of_none (if_neg hhandled) (pure _ rfl)

theorem voyage :
    Reads (Check.error? locations voyages now store report) [.onVoyage]
      (fun voyage => voyage.map Voyage.number = report.activity.voyageNumber)
      (if report.voyageNumber.isEmpty then .ok none
        else some <$> (Directory.ofLists locations voyages).findVoyage report.voyageNumber) := by
  unfold Report.activity
  by_cases hempty : report.voyageNumber.isEmpty
  · rw [if_pos hempty, if_pos hempty]
    exact cons_of_none (if_pos (.inl hempty)) (pure _ rfl)
  rw [if_neg hempty, if_neg hempty]
  by_cases hlisted : report.voyageNumber ∈ voyages.map (·.number)
  · have hknown : ∃ voyage, (Directory.ofLists locations voyages).findVoyage report.voyageNumber =
        .ok voyage := Directory.exists_findVoyage hlisted
    obtain ⟨voyage, hfound⟩ := hknown
    obtain ⟨-, hnumber⟩ := Directory.of_findVoyage_ofLists hfound
    rw [hfound]
    exact cons_of_none (if_pos (.inr hlisted)) (pure _ (congrArg some hnumber))
  · rw [Directory.findVoyage_of_not_mem hlisted]
    exact cons_of_some (if_neg (not_or.mpr ⟨hempty, hlisted⟩)) rfl

theorem location :
    Reads (Check.error? locations voyages now store report) [.placed]
      (fun location => location.unLocode = report.location)
      ((Directory.ofLists locations voyages).findLocation report.location) := by
  by_cases hlisted : report.location ∈ locations.map (·.unLocode)
  · have hknown : ∃ location, (Directory.ofLists locations voyages).findLocation report.location =
        .ok location := Directory.exists_findLocation hlisted
    obtain ⟨location, hfound⟩ := hknown
    rw [hfound]
    exact cons_of_none (if_pos hlisted) (pure _ (Directory.of_findLocation_ofLists hfound).2)
  · rw [Directory.findLocation_of_not_mem hlisted]
    exact cons_of_some (if_neg hlisted) rfl

theorem activity :
    Reads (Check.error? locations voyages now store report) [.onVoyage, .placed]
      (fun activity => activity = report.activity)
      (Registration.activity (.ofLists locations voyages) report) := by
  have hactivity : Registration.activity (.ofLists locations voyages) report =
      (if report.voyageNumber.isEmpty then .ok none
        else some <$> (Directory.ofLists locations voyages).findVoyage report.voyageNumber) >>=
      fun voyage => do
        let location ← (Directory.ofLists locations voyages).findLocation report.location
        return ⟨report.kind, location.unLocode, voyage.map (·.number)⟩ := by
    unfold Registration.activity
    cases report.voyageNumber.isEmpty <;> rfl
  rw [hactivity]
  refine (voyage locations voyages now store report).bind fun voyage hvoyage => ?_
  refine (location locations voyages now store report).map fun location hlocation => ?_
  rw [hvoyage, hlocation]
  rfl

theorem found :
    Reads (Check.error? locations voyages now store report) [.found]
      (fun cargo => find store report.trackingId now = .ok cargo)
      (find store report.trackingId now) := by
  cases hfind : find store report.trackingId now with
  | error e => exact cons_of_some (congrArg failure? hfind) rfl
  | ok cargo => exact cons_of_none (congrArg failure? hfind) (pure _ rfl)

theorem made (hkeyed : Keyed store) (completedAt : Instant) :
    Reads (Check.error? locations voyages now store report) [.found, .onVoyage, .placed]
      (fun event => event = report.event now completedAt)
      (Registration.event (.ofLists locations voyages) now now completedAt report store) := by
  have hevent : Registration.event (.ofLists locations voyages) now now completedAt report store =
      find store report.trackingId now >>= fun cargo => do
        let activity ← Registration.activity (.ofLists locations voyages) report
        return ⟨cargo.trackingId, activity, now, completedAt⟩ := by
    rw [Registration.event_eq]
    cases find store report.trackingId now with
    | error e => rfl
    | ok cargo => cases Registration.activity (.ofLists locations voyages) report <;> rfl
  rw [hevent]
  refine (found locations voyages now store report).bind fun cargo hfind => ?_
  refine (activity locations voyages now store report).map fun activity hactivity => ?_
  rw [hkeyed.trackingId hfind, hactivity]
  rfl

end Checks

end Reads

namespace Registration

/-! ## Registering a report -/

/-- What comes of registering a report. -/
def outcome {σ : Type} [CargoStore σ] (locations : List Location) (voyages : List Voyage)
    (now : Instant) (report : Report) (store : σ) : Outcome σ Unit :=
  (register (.ofLists locations voyages) now report).perform store

section Register

open Report

variable {σ : Type} [CargoStore σ] [SteadyStore σ] {store : σ}

/-- Once there is an event, nothing can fail any more. -/
theorem result_eq (hkeyed : Keyed store) (directory : Directory) (now : Instant) (report : Report) :
    ((register directory now report).perform store).result =
      (report.completion.mapError .invalidArgument >>= fun completedAt =>
        event directory now now completedAt report store >>= fun _ => .ok ()) := by
  rw [Service.perform_eq_on, register_on]
  cases hcompletion : report.completion with
  | error fault => rfl
  | ok completedAt =>
    show _ = (event directory now now completedAt report store >>= fun _ => .ok ())
    cases hevent : event directory now now completedAt report store with
    | error e =>
      dsimp only
      rw [hevent]
      rfl
    | ok made =>
      have howner := (Call.inspects_of_event hkeyed hcompletion hevent).owner
      have hhandled := HandlingEvent.handled_some (handled_of_event hcompletion hevent)
      obtain ⟨cargo, _, hfind, -⟩ := exists_of_event hevent
      rw [← howner] at hfind
      dsimp only
      rw [hevent]
      -- The inspection finds the cargo that was found for the event.
      rcases inspectAfter_cases now made.trackingId hhandled { store } with
        ⟨e, hnone, -⟩ | ⟨_, _, _, -, -, hrecord, -⟩
      · rw [hfind] at hnone
        cases hnone
      · dsimp only
        rw [Inspection.record, hrecord]
        rfl

variable {locations : List Location} {voyages : List Voyage} {now : Instant} {report : Report}

theorem reads_outcome (hkeyed : Keyed store) :
    Reads (Check.error? locations voyages now store report) Check.inOrder (fun _ => True)
      (outcome locations voyages now report store).result := by
  rw [outcome, result_eq hkeyed]
  refine (Reads.completion locations voyages now store report).bind fun completedAt _ => ?_
  exact (Reads.made locations voyages now store report hkeyed completedAt).map fun _ _ => trivial

theorem exists_event_of_accepted (hkeyed : Keyed store)
    (h : (outcome locations voyages now report store).result = .ok ()) :
    ∃ completedAt, report.completion = .ok completedAt ∧
      ∃ made, event (.ofLists locations voyages) now now completedAt report store = .ok made := by
  rw [outcome, result_eq hkeyed] at h
  cases hcompletion : report.completion with
  | error fault => rw [hcompletion] at h; cases h
  | ok completedAt =>
    rw [hcompletion] at h
    cases hmade : event (.ofLists locations voyages) now now completedAt report store with
    | error e =>
      dsimp only [Except.mapError, bind, Except.bind] at h
      rw [hmade] at h
      cases h
    | ok made => exact ⟨completedAt, rfl, made, hmade⟩

/-- The event of a report that is accepted is recorded, and the cargo is found as it follows from
it. -/
theorem recorded_of_accepted (hkeyed : Keyed store)
    (h : (outcome locations voyages now report store).result = .ok ()) :
    ∃ completedAt cargo before, report.completedAt = some completedAt ∧
      find store report.trackingId now = .ok cargo ∧
      history store report.trackingId = .ok before ∧
      history (outcome locations voyages now report store).world.store report.trackingId =
        .ok (before.append (report.event now completedAt)) ∧
      ∀ later, ∃ time,
        find (outcome locations voyages now report store).world.store report.trackingId later =
          .ok (cargo.deriveFrom (before.append (report.event now completedAt)) time) := by
  obtain ⟨completedAt, hcompletion, made, hmade⟩ := exists_event_of_accepted hkeyed h
  obtain ⟨cargo, done, hfind, hdone, -⟩ := exists_of_event hmade
  obtain ⟨before, hhistory⟩ := LawfulStore.history_of_find hfind
  have hactivity : done = report.activity :=
    (Reads.activity locations voyages now store report).stands hdone
  subst hactivity
  have hevent : report.event? (.ofLists locations voyages) now =
      some (report.event now completedAt) :=
    event?_eq_some_iff.2 ⟨completedAt, report.activity, hcompletion, hdone, rfl⟩
  exact ⟨completedAt, cargo, before, completedAt_of_completion hcompletion, hfind, hhistory,
    after_of_event? hkeyed hevent hfind hhistory⟩

omit [SteadyStore σ] in
/-- Of the cargo a check sees only whether it can be found. -/
theorem error?_congr {other : σ}
    (h : failure? (find other report.trackingId now) = failure? (find store report.trackingId now)) :
    Check.error? locations voyages now other report =
      Check.error? locations voyages now store report := by
  funext check
  cases check with
  | found => exact h
  | _ => rfl

theorem result_of_assign (hkeyed : Keyed store) {cargo : Cargo}
    (hfind : find store report.trackingId now = .ok cargo) (itinerary : Itinerary)
    (earlier : Instant) :
    (outcome locations voyages now report
        (CargoStore.store store (cargo.assign itinerary earlier))).result =
      (outcome locations voyages now report store).result := by
  obtain ⟨reports, hhistory⟩ := LawfulStore.history_of_find hfind
  have hknown := hkeyed.trackingId hfind
  have howner : (cargo.assign itinerary earlier).trackingId = report.trackingId := hknown
  rw [← howner] at hhistory
  obtain ⟨_, hassigned⟩ := LawfulStore.find_store_self hhistory now
  rw [howner] at hassigned
  have hsame : failure? (find (CargoStore.store store (cargo.assign itinerary earlier))
      report.trackingId now) = failure? (find store report.trackingId now) := by
    rw [hassigned, hfind]
    rfl
  rw [(reads_outcome hkeyed).eq_match, (reads_outcome (hkeyed.store _)).eq_match,
    error?_congr hsame]

end Register

end Registration

/-- What comes of the reports to a store. -/
structure Registers {σ : Type} [CargoStore σ] (locations : List Location) (voyages : List Voyage)
    (store : σ) : Prop where
  result : ∀ now report, (Registration.outcome locations voyages now report store).result =
    match Report.Check.inOrder.findSome? (Report.Check.error? locations voyages now store report) with
    | some e => .error e
    | none => .ok ()
  unfound : ∀ id now e, find store id now = .error e →
    e = .unknownCargo id ∨ ∃ fault, e = .corruptRecord fault
  recorded : ∀ now report, (Registration.outcome locations voyages now report store).result = .ok () →
    ∃ completedAt cargo before, report.completedAt = some completedAt ∧
      find store report.trackingId now = .ok cargo ∧
      history store report.trackingId = .ok before ∧
      history (Registration.outcome locations voyages now report store).world.store
        report.trackingId = .ok (before.append (report.event now completedAt)) ∧
      ∀ later, ∃ time,
        find (Registration.outcome locations voyages now report store).world.store
          report.trackingId later =
            .ok (cargo.deriveFrom (before.append (report.event now completedAt)) time)
  /-- Under another itinerary of the cargo it is the same. -/
  unplanned : ∀ now report cargo itinerary earlier, find store report.trackingId now = .ok cargo →
    (Registration.outcome locations voyages now report
        (CargoStore.store store (cargo.assign itinerary earlier))).result =
      (Registration.outcome locations voyages now report store).result

theorem registers_of_keyed {σ : Type} [CargoStore σ] [SteadyStore σ] {store : σ}
    (hkeyed : Keyed store) (hunfound : ∀ id now e, find store id now = .error e →
      e = .unknownCargo id ∨ ∃ fault, e = .corruptRecord fault)
    (locations : List Location) (voyages : List Voyage) : Registers locations voyages store where
  result _ _ := (Registration.reads_outcome hkeyed).eq_match
  unfound := hunfound
  recorded _ _ := Registration.recorded_of_accepted hkeyed
  unplanned _ _ _ itinerary earlier hfind :=
    Registration.result_of_assign hkeyed hfind itinerary earlier

theorem MemoryStore.unfound {store : MemoryStore} (id : TrackingId) (now : Instant) (e : Error)
    (h : CargoStore.find store id now = .error e) :
    e = .unknownCargo id ∨ ∃ fault, e = .corruptRecord fault := by
  have hfind : store.find id = .error e := h
  unfold find at hfind
  split at hfind
  · cases hfind
  · exact .inl (Except.error.inj hfind).symm

theorem RecordStore.unfound {store : RecordStore} (id : TrackingId) (now : Instant) (e : Error)
    (h : CargoStore.find store id now = .error e) :
    e = .unknownCargo id ∨ ∃ fault, e = .corruptRecord fault := by
  cases hrecord : store.cargos[id]? with
  | none =>
    have hunknown := (store.loads id now).unknown.mpr hrecord
    exact .inl (Except.error.inj (h.symm.trans hunknown))
  | some record =>
    have hfailed := ((store.loads id now).failed record hrecord e).mp h
    obtain ⟨cell, -, hcell⟩ := List.exists_of_findSome?_eq_some hfailed
    exact .inr ⟨cell.fault, (Cell.error?_eq_some_iff.mp hcell).2.symm⟩

/-- Over either store, whatever it holds and whatever is listed, a report is refused by the first
check that it fails, and otherwise accepted. -/
theorem registration_accepts_valid (locations : List Location) (voyages : List Voyage) :
    (∀ store : MemoryStore, Keyed store → Registers locations voyages store) ∧
      ∀ store : RecordStore, Registers locations voyages store :=
  ⟨fun _ hkeyed => registers_of_keyed hkeyed MemoryStore.unfound locations voyages,
    fun store => registers_of_keyed store.keyed RecordStore.unfound locations voyages⟩

/-- A report with an unknown voyage and an unknown place, the same one without an id and a kind, and
one that a cargo without an itinerary was loaded where it is to arrive. -/
theorem registers_booked :
    let id : TrackingId := ⟨"3F2A9C1B"⟩
    let store : MemoryStore :=
      CargoStore.store empty (.book id sampleSpecification (sampleDay 1))
    let loading : Report := ⟨id, .load, ⟨"SESTO"⟩, ⟨"V100"⟩, some (sampleDay 2)⟩
    let outcome := fun report =>
      Registration.outcome sampleLocations sampleVoyages (sampleDay 3) report store
    Keyed store ∧
      (outcome ⟨id, .load, ⟨"GBLON"⟩, ⟨"V900"⟩, some (sampleDay 2)⟩).result =
        .error (.unknownVoyage ⟨"V900"⟩) ∧
      (outcome ⟨⟨""⟩, .notHandled, ⟨"GBLON"⟩, ⟨"V900"⟩, some (sampleDay 2)⟩).result =
        .error (.invalidArgument .noTrackingIdOrLocation) ∧
      (outcome loading).result = .ok () ∧
      ∃ before, history store id = .ok before ∧
        history (outcome loading).world.store id =
          .ok (before.append ⟨id, .onVoyage .load ⟨"SESTO"⟩ ⟨"V100"⟩, sampleDay 3, sampleDay 2⟩) := by
  intro id store loading outcome
  have hkeyed : Keyed store := keyed_empty.store _
  have hregisters := (registration_accepts_valid sampleLocations sampleVoyages).1 store hkeyed
  have hloading : (outcome loading).result = .ok () := by
    rw [hregisters.result]
    decide +kernel
  refine ⟨hkeyed, ?_, ?_, hloading, ?_⟩
  · rw [hregisters.result]
    decide +kernel
  · rw [hregisters.result]
    decide +kernel
  · obtain ⟨_, _, before, htime, -, hhistory, hrecorded, -⟩ := hregisters.recorded _ _ hloading
    cases htime
    exact ⟨before, hhistory, hrecorded⟩

end CargoTracking
