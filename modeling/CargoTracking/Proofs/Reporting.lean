import CargoTracking.Proofs.EventLog
import CargoTracking.Proofs.History

/-!
# Reports in any order

Reports come in late and out of turn.  A delivery depends on the last event of the history only, and
that is found by when the events were completed, not by when they were reported.  So the same
reports may be registered in any order, as long as no two of a cargo tell of the same time.
-/

namespace CargoTracking

open CargoStore Inspection

/-! ## The event of a report -/

namespace Report

theorem completedAt_of_completion {report : Report} {completedAt : Instant}
    (h : report.completion = .ok completedAt) : report.completedAt = some completedAt := by
  unfold completion at h
  cases htime : report.completedAt with
  | none => rw [htime] at h; cases h
  | some time =>
    rw [htime] at h
    dsimp only at h
    split at h
    · cases h
    · split at h
      · cases h
      · exact congrArg some (Except.ok.inj h)

/-- The event that is made of a report of a cargo that is there, if the report is complete and what
it refers to is known. -/
def event? (directory : Directory) (now : Instant) (report : Report) : Option HandlingEvent :=
  match report.completion, Registration.activity directory report with
  | .ok completedAt, .ok activity => some ⟨report.trackingId, activity, now, completedAt⟩
  | _, _ => none

variable {directory : Directory} {now : Instant} {report : Report} {event : HandlingEvent}

theorem event?_eq_some_iff : report.event? directory now = some event ↔
    ∃ completedAt activity, report.completion = .ok completedAt ∧
      Registration.activity directory report = .ok activity ∧
      event = ⟨report.trackingId, activity, now, completedAt⟩ := by
  unfold event?
  cases report.completion with
  | error fault => simp
  | ok completedAt => cases Registration.activity directory report <;> simp [eq_comm]

theorem handled_of_event? (h : report.event? directory now = some event) :
    event.activity.kind ≠ .notHandled := by
  obtain ⟨_, _, hcompletion, hactivity, rfl⟩ := event?_eq_some_iff.1 h
  obtain ⟨_, _, -, -, rfl⟩ := Registration.exists_of_activity hactivity
  exact (of_completion hcompletion).2.2

theorem completedAt_of_event? (h : report.event? directory now = some event) :
    report.completedAt = some event.completedAt := by
  obtain ⟨_, _, hcompletion, -, rfl⟩ := event?_eq_some_iff.1 h
  exact completedAt_of_completion hcompletion

theorem trackingId_of_event? (h : report.event? directory now = some event) :
    event.trackingId = report.trackingId := by
  obtain ⟨_, _, -, -, rfl⟩ := event?_eq_some_iff.1 h
  rfl

theorem event?_unstamped (directory : Directory) (now : Instant) (report : Report) :
    (report.event? directory now).map .unstamped = report.event? directory .epoch := by
  unfold event?
  cases report.completion with
  | error fault => rfl
  | ok completedAt => cases Registration.activity directory report <;> rfl

end Report

/-! ## Registering reports one after the other -/

namespace Registration

/-- The store after reports were registered, each at its time, whether that succeeded or not. -/
def registerAll {σ : Type} [CargoStore σ] (directory : Directory) (store : σ) :
    List (Instant × Report) → σ
  | [] => store
  | (now, report) :: rest =>
    registerAll directory ((register directory now report).perform store).world.store rest

/-- The events that are made of reports of cargos that are there. -/
def made (directory : Directory) (entries : List (Instant × Report)) : List HandlingEvent :=
  entries.filterMap fun (now, report) => report.event? directory now

theorem made_unstamped (directory : Directory) (entries : List (Instant × Report)) :
    (made directory entries).map .unstamped =
      (entries.map Prod.snd).filterMap (·.event? directory .epoch) := by
  rw [made, List.map_filterMap, List.filterMap_map]
  congr 1
  funext (now, report)
  exact report.event?_unstamped directory now

section Register

variable {σ : Type} [CargoStore σ] {directory : Directory} {now : Instant} {store : σ}
  {report : Report}

theorem after_eq (directory : Directory) (now : Instant) (store : σ) (report : Report) :
    ((register directory now report).perform store).world.store =
      (Call.register report).after directory now store := by
  rw [Call.after, Service.perform_eq_on, Service.perform_eq_on, Call.serve, Service.on_map]

variable [SteadyStore σ]

/-- A registration records the event of the report, if there is one and the cargo is found. -/
theorem after_eq_applied (hkeyed : Keyed store) :
    ((register directory now report).perform store).world.store =
      match report.event? directory now with
      | none => store
      | some event =>
        (Call.inspection now store report.trackingId (some event)).applied store := by
  have hdescribes := Call.describes_register directory now { store } report
  rw [after_eq, Call.after, Service.perform_eq_on, hdescribes.store, Call.reply, Report.event?]
  cases report.completion with
  | error fault => rfl
  | ok completedAt =>
    dsimp only
    rw [event_eq]
    cases hfind : find store report.trackingId now with
    | error e =>
      cases activity directory report with
      | error e => rfl
      | ok done =>
        dsimp only
        rw [Call.inspection, hfind]
    | ok cargo =>
      cases activity directory report with
      | error e => rfl
      | ok done =>
        dsimp only
        rw [hkeyed.trackingId hfind]

theorem keyed_register (hkeyed : Keyed store) (directory : Directory) (now : Instant)
    (report : Report) : Keyed ((register directory now report).perform store).world.store := by
  rw [after_eq]
  exact hkeyed.effect (Call.effect_serve directory now store hkeyed (.register report))

/-- A report of another cargo changes nothing of this one. -/
theorem elsewhere_register (hkeyed : Keyed store) {id : TrackingId} (h : report.trackingId ≠ id)
    (directory : Directory) (now : Instant) :
    Elsewhere id store ((register directory now report).perform store).world.store := by
  rw [after_eq]
  have heffect := Call.effect_serve directory now store hkeyed (.register report)
  exact heffect.elsewhere hkeyed fun habout => h (Option.some.inj habout)

/-- A report of a cargo that is not found changes nothing. -/
theorem after_of_not_found (hkeyed : Keyed store) {e : Error}
    (hfind : find store report.trackingId now = .error e) :
    ((register directory now report).perform store).world.store = store := by
  rw [after_eq_applied hkeyed]
  cases report.event? directory now with
  | none => rfl
  | some event =>
    dsimp only
    rw [Call.inspection, hfind]
    rfl

/-- The event of a report joins the history, and the cargo is found as it follows from it. -/
theorem after_of_event? (hkeyed : Keyed store) {event : HandlingEvent}
    (hevent : report.event? directory now = some event) {cargo : Cargo} {reports : History}
    (hfind : find store report.trackingId now = .ok cargo)
    (hhistory : history store report.trackingId = .ok reports) :
    history ((register directory now report).perform store).world.store report.trackingId =
        .ok (reports.append event) ∧
      ∀ later, ∃ time,
        find ((register directory now report).perform store).world.store report.trackingId later =
          .ok (cargo.deriveFrom (reports.append event) time) := by
  have hread : history (extended store (some event)) report.trackingId =
      .ok (reports.append event) := by
    show history (append store event) report.trackingId = _
    rw [LawfulStore.history_append (Report.handled_of_event? hevent),
      if_pos (Report.trackingId_of_event? hevent), hhistory]
    rfl
  have hafter : ((register directory now report).perform store).world.store =
      commit store (some event) (cargo.deriveFrom (reports.append event) now) := by
    rw [after_eq_applied hkeyed, hevent]
    dsimp only
    rw [Call.inspection, hfind]
    dsimp only
    rw [hread]
    rfl
  rw [hafter]
  refine ⟨?_, find_inspected hkeyed hfind hread⟩
  rw [commit, LawfulStore.history_store, hread]

end Register

end Registration

/-! ## What is found after all of them -/

/-- The cargo after further events, of which some may be its own, have joined its history. -/
def Cargo.reported (cargo : Cargo) (reports : History) (events : List HandlingEvent) : Cargo :=
  if events.filter (·.trackingId = cargo.trackingId) = [] then cargo
  else cargo.deriveFrom (reports.appendOf cargo.trackingId events) .epoch

namespace Cargo

variable {cargo : Cargo} {reports : History} {event : HandlingEvent} {events : List HandlingEvent}

theorem reported_cons_of_ne (h : event.trackingId ≠ cargo.trackingId) :
    cargo.reported reports (event :: events) = cargo.reported reports events := by
  have hfilter : (event :: events).filter (·.trackingId = cargo.trackingId) =
      events.filter (·.trackingId = cargo.trackingId) := List.filter_cons_of_neg (by simpa using h)
  rw [reported, reported, History.appendOf, History.appendOf, hfilter]

theorem reported_cons_of_eq (h : event.trackingId = cargo.trackingId) (time : Instant) :
    (cargo.reported reports (event :: events)).unstamped =
      ((cargo.deriveFrom (reports.append event) time).reported
        (reports.append event) events).unstamped := by
  have hfilter : (event :: events).filter (·.trackingId = cargo.trackingId) =
      event :: events.filter (·.trackingId = cargo.trackingId) :=
    List.filter_cons_of_pos (by simpa using h)
  have hself : (cargo.deriveFrom (reports.append event) time).trackingId = cargo.trackingId := rfl
  rw [reported, reported, hself, hfilter, if_neg (List.cons_ne_nil _ _)]
  have happend : reports.appendOf cargo.trackingId (event :: events) =
      (reports.append event).appendOf cargo.trackingId events := by
    rw [← List.singleton_append, History.appendOf_append, History.appendOf_singleton, if_pos h]
  rw [happend]
  -- Without further events it is the same derivation at another time.
  split
  · rename_i hnone
    rw [History.appendOf, hnone, List.append_nil, unstamped_deriveFrom, unstamped_deriveFrom]
  · rfl

theorem filter_unstamped (events : List HandlingEvent) (id : TrackingId) :
    (events.filter (·.trackingId = id)).map .unstamped =
      (events.map HandlingEvent.unstamped).filter (·.trackingId = id) := by
  rw [List.filter_map]
  rfl

theorem unstamped_appendOf (reports : History) (id : TrackingId) (events : List HandlingEvent) :
    (reports.appendOf id events).unstamped =
      reports.unstamped.appendOf id (events.map .unstamped) := by
  simp only [History.appendOf, History.unstamped, List.map_append, filter_unstamped]

/-- The order of further events does not matter, nor does when they were heard of, as long as those
of the cargo were completed at different times. -/
theorem reported_congr {events' : List HandlingEvent}
    (hperm : (events.map HandlingEvent.unstamped).Perm (events'.map HandlingEvent.unstamped))
    (hapart : (events.filter (·.trackingId = cargo.trackingId)).Pairwise
      fun a b => a.completedAt ≠ b.completedAt) :
    (cargo.reported reports events).unstamped = (cargo.reported reports events').unstamped := by
  have hown := hperm.filter (·.trackingId = cargo.trackingId)
  rw [← filter_unstamped, ← filter_unstamped] at hown
  have hempty : events.filter (·.trackingId = cargo.trackingId) = [] ↔
      events'.filter (·.trackingId = cargo.trackingId) = [] := by
    rw [← List.map_eq_nil_iff, ← List.map_eq_nil_iff (l := events'.filter _)]
    exact ⟨fun h => (h ▸ hown).nil_eq.symm, fun h => (h ▸ hown).eq_nil⟩
  have hlast := (History.reordered_append reports.unstamped hown
    (List.pairwise_map.mpr hapart)).last?_eq
  unfold reported
  by_cases hnone : events.filter (·.trackingId = cargo.trackingId) = []
  · rw [if_pos hnone, if_pos (hempty.mp hnone)]
  · rw [if_neg hnone, if_neg (mt hempty.mpr hnone), unstamped_deriveFrom, unstamped_deriveFrom,
      unstamped_appendOf, unstamped_appendOf]
    unfold deriveFrom Delivery.derive History.appendOf
    rw [← filter_unstamped, ← filter_unstamped, hlast]

end Cargo

namespace Registration

variable {σ : Type} [CargoStore σ] [SteadyStore σ] {directory : Directory} {now : Instant}
  {store : σ} {id : TrackingId}

theorem find_registerAll_of_error (hkeyed : Keyed store) {e : Error}
    (hfind : ∀ now, find store id now = .error e) (entries : List (Instant × Report))
    (later : Instant) : find (registerAll directory store entries) id later = .error e := by
  induction entries generalizing store with
  | nil => exact hfind later
  | cons first rest ih =>
    obtain ⟨now, report⟩ := first
    refine ih (keyed_register hkeyed directory now report) fun now' => ?_
    by_cases hid : report.trackingId = id
    · subst hid
      rw [after_of_not_found hkeyed (hfind now), hfind]
    · rw [(elsewhere_register hkeyed hid directory now).find_eq, hfind]

theorem find_registerAll (hkeyed : Keyed store) {cargo : Cargo} {reports : History}
    (hfind : find store id now = .ok cargo) (hhistory : history store id = .ok reports)
    (entries : List (Instant × Report)) (later : Instant) :
    (find (registerAll directory store entries) id later).map Cargo.unstamped =
      .ok (cargo.reported reports (made directory entries)).unstamped := by
  induction entries generalizing store now cargo reports with
  | nil =>
    show (find store id later).map Cargo.unstamped = .ok cargo.unstamped
    rw [SteadyStore.find_time store id later now, hfind]
    rfl
  | cons first rest ih =>
    obtain ⟨time, report⟩ := first
    have hkeyed' := keyed_register hkeyed directory time report
    have howner := hkeyed.trackingId hfind
    rw [registerAll]
    cases hevent : report.event? directory time with
    | none =>
      have hmade : made directory ((time, report) :: rest) = made directory rest :=
        List.filterMap_cons_none hevent
      rw [hmade, after_eq_applied hkeyed, hevent]
      exact ih hkeyed hfind hhistory
    | some event =>
      have hmade : made directory ((time, report) :: rest) = event :: made directory rest :=
        List.filterMap_cons_some hevent
      have hself := Report.trackingId_of_event? hevent
      rw [hmade]
      by_cases hid : report.trackingId = id
      · subst hid
        obtain ⟨delivery, hknown⟩ := SteadyStore.exists_find_of_find hfind time
        obtain ⟨hhistory', hfound⟩ := after_of_event? hkeyed hevent hknown hhistory
        obtain ⟨time', hfind'⟩ := hfound time
        rw [Cargo.reported_cons_of_eq (hself.trans howner.symm) time']
        exact ih hkeyed' hfind' hhistory'
      · have helsewhere := elsewhere_register hkeyed hid directory time
        rw [← helsewhere.find_eq] at hfind
        rw [← helsewhere.history_eq] at hhistory
        rw [Cargo.reported_cons_of_ne (by rwa [hself, howner])]
        exact ih hkeyed' hfind hhistory

/-- Reports of a cargo that tell of different times are registered in any order and at any times,
and others with them, and the cargo that is found is the same. -/
def AnyOrder {σ : Type} [CargoStore σ] (directory : Directory) (store : σ) : Prop :=
  ∀ (id : TrackingId) (entries entries' : List (Instant × Report)),
    (entries.map Prod.snd).Perm (entries'.map Prod.snd) →
    ((entries.map Prod.snd).filter (·.trackingId = id)).Pairwise
      (fun report other => ∀ time ∈ report.completedAt, other.completedAt ≠ some time) →
    ∀ now now', (find (registerAll directory store entries) id now).map Cargo.unstamped =
      (find (registerAll directory store entries') id now').map Cargo.unstamped

theorem pairwise_made {entries : List (Instant × Report)}
    (h : ((entries.map Prod.snd).filter (·.trackingId = id)).Pairwise
      fun report other => ∀ time ∈ report.completedAt, other.completedAt ≠ some time) :
    ((made directory entries).filter (·.trackingId = id)).Pairwise
      fun a b => a.completedAt ≠ b.completedAt := by
  rw [List.pairwise_filter, List.pairwise_map] at h
  rw [List.pairwise_filter, made, List.pairwise_filterMap]
  refine h.imp fun {entry entry'} hentries event hevent event' hevent' howner howner' heq => ?_
  rw [decide_eq_true_iff, Report.trackingId_of_event? hevent] at howner
  rw [decide_eq_true_iff, Report.trackingId_of_event? hevent'] at howner'
  have htime := Report.completedAt_of_event? hevent
  have htime' := Report.completedAt_of_event? hevent'
  refine hentries (decide_eq_true howner) (decide_eq_true howner') event.completedAt htime ?_
  rw [htime', heq]

theorem anyOrder (directory : Directory) (hkeyed : Keyed store) : AnyOrder directory store := by
  intro id entries entries' hperm hapart now now'
  cases hfind : find store id now with
  | error e =>
    have hnever := SteadyStore.find_eq_error hfind
    rw [find_registerAll_of_error hkeyed hnever, find_registerAll_of_error hkeyed hnever]
  | ok cargo =>
    obtain ⟨reports, hhistory⟩ := LawfulStore.history_of_find hfind
    have hid := hkeyed.trackingId hfind
    subst hid
    have hmade : ((made directory entries).map HandlingEvent.unstamped).Perm
        ((made directory entries').map HandlingEvent.unstamped) := by
      rw [made_unstamped, made_unstamped]
      exact hperm.filterMap _
    rw [find_registerAll hkeyed hfind hhistory, find_registerAll hkeyed hfind hhistory,
      Cargo.reported_congr hmade (pairwise_made hapart)]

end Registration

/-- The last event is the one completed last, and of several at the same time the one reported last.
An event that was completed before another one leaves the delivery as it is, and every other becomes
the last one.  So no delivery depends on the order of the reports, but for those that tell of the
same time, and no cargo that is found, in either store. -/
theorem reporting_order_immaterial (directory : Directory) :
    (∀ (spec : RouteSpecification) (itinerary : Itinerary) (now : Instant)
      (history history' : History), history.Reordered history' →
        Delivery.derive spec itinerary history' now = Delivery.derive spec itinerary history now) ∧
    (∀ (spec : RouteSpecification) (itinerary : Itinerary) (now : Instant) (history : History)
      (last : HandlingEvent),
        (Delivery.derive spec itinerary history now).lastEvent = some last ↔
          ∃ i, history.LatestAt i last) ∧
    (∀ (spec : RouteSpecification) (itinerary : Itinerary) (now : Instant) (history : History)
      (event : HandlingEvent),
        ((∃ e ∈ history.events, event.completedAt < e.completedAt) →
          Delivery.derive spec itinerary (history.append event) now =
            Delivery.derive spec itinerary history now) ∧
        ((¬∃ e ∈ history.events, event.completedAt < e.completedAt) →
          (Delivery.derive spec itinerary (history.append event) now).lastEvent = some event)) ∧
    (∀ store : MemoryStore, Keyed store → Registration.AnyOrder directory store) ∧
    ∀ store : RecordStore, Registration.AnyOrder directory store := by
  refine ⟨fun spec itinerary now history history' h => ?_,
    fun spec itinerary now history last => History.last?_eq_some_iff,
    fun spec itinerary now history event => ⟨fun hlate => ?_, fun hlast => ?_⟩,
    fun store hkeyed => Registration.anyOrder directory hkeyed,
    fun store => Registration.anyOrder directory store.keyed⟩
  · rw [Delivery.derive, Delivery.derive, h.last?_eq]
  · rw [Delivery.derive, Delivery.derive, History.last?_append_of_lt hlate]
  · apply History.last?_append_of_le
    intro e he
    exact Int.not_lt.mp fun hlt => hlast ⟨e, he, hlt⟩

/-- A loading that is reported before the cargo was received, and customs at a place that is not
known. -/
def Registration.lateReports : List (Instant × Report) :=
  [(sampleDay 5, ⟨⟨"3F2A9C1B"⟩, .load, ⟨"CNHKG"⟩, ⟨"V100"⟩, some (sampleDay 3)⟩),
    (sampleDay 6, ⟨⟨"3F2A9C1B"⟩, .customs, ⟨"GBLON"⟩, ⟨""⟩, some (sampleDay 4)⟩),
    (sampleDay 7, ⟨⟨"3F2A9C1B"⟩, .receive, ⟨"CNHKG"⟩, ⟨""⟩, some (sampleDay 2)⟩)]

/-- In whichever order they come, the cargo is on board. -/
theorem order_of_lateReports :
    let id : TrackingId := ⟨"3F2A9C1B"⟩
    let store : MemoryStore := CargoStore.store empty
      ((Cargo.book id sampleSpecification (sampleDay 1)).assign sampleItinerary (sampleDay 1))
    let entries := Registration.lateReports
    Keyed store ∧ (entries.map Prod.snd).Perm (entries.reverse.map Prod.snd) ∧
      ((entries.map Prod.snd).filter (·.trackingId = id)).Pairwise
        (fun report other => ∀ time ∈ report.completedAt, other.completedAt ≠ some time) ∧
      (find (Registration.registerAll .sample store entries) id (sampleDay 8)).map Cargo.unstamped =
        (find (Registration.registerAll .sample store entries.reverse) id (sampleDay 9)).map
          Cargo.unstamped ∧
      (find (Registration.registerAll .sample store entries) id (sampleDay 8)).toOption.map
        (·.delivery.transportStatus) = some .onboardCarrier := by
  intro id store entries
  have hkeyed : Keyed store := keyed_empty.store _
  have hperm : (entries.map Prod.snd).Perm (entries.reverse.map Prod.snd) :=
    entries.reverse_perm.symm.map Prod.snd
  have hapart : ((entries.map Prod.snd).filter (·.trackingId = id)).Pairwise
      (fun report other => ∀ time ∈ report.completedAt, other.completedAt ≠ some time) := by
    decide +kernel
  refine ⟨hkeyed, hperm, hapart, ?_, by decide +kernel⟩
  exact (reporting_order_immaterial .sample).2.2.2.1 store hkeyed id entries entries.reverse hperm
    hapart (sampleDay 8) (sampleDay 9)

end CargoTracking
