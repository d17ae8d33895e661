import CargoTracking.Proofs.Acceptance

/-!
# What a registration leaves in the log

Whoever reads the log can tell what became of every report: there is one line about it, a warning
that it was rejected or the information that it was registered.  Only the second one stands for an
event in the history.  Between an event that is made and the line about it lies its inspection, which
has lines of its own and does not fail.
-/

namespace CargoTracking

open CargoStore Inspection

namespace LogEvent

variable {text : String} {log : List LogEvent}

/-- The levels of the events with the message, in their order. -/
def levels (text : String) (log : List LogEvent) : List LogLevel :=
  (log.filter (·.message = text)).map (·.level)

theorem levels_append (text : String) (log later : List LogEvent) :
    levels text (log ++ later) = levels text log ++ levels text later := by
  rw [levels, List.filter_append, List.map_append]
  rfl

theorem levels_eq_nil (h : ∀ event ∈ log, event.message ≠ text) : levels text log = [] := by
  have hnone : log.filter (·.message = text) = [] :=
    List.filter_eq_nil_iff.mpr fun event hevent => by simpa using h event hevent
  rw [levels, hnone]
  rfl

/-- The lines that an inspection adds. -/
def ofInspection (id : TrackingId) (delivery : Delivery) (told : List Notice) : List LogEvent :=
  .derived id delivery :: told.map .noticed

theorem message_of_mem_ofInspection {id : TrackingId} {delivery : Delivery} {told : List Notice}
    {event : LogEvent} (h : event ∈ ofInspection id delivery told) :
    event.message ≠ "rejected handling event" ∧ event.message ≠ "registered handling event" := by
  rcases List.mem_cons.mp h with rfl | h
  · simp [message]
  · obtain ⟨notice, -, rfl⟩ := List.mem_map.mp h
    cases notice <;> simp [message]

/-- None of them can be taken for a line about a report. -/
theorem levels_ofInspection (id : TrackingId) (delivery : Delivery) (told : List Notice) :
    levels "rejected handling event" (ofInspection id delivery told) = [] ∧
      levels "registered handling event" (ofInspection id delivery told) = [] :=
  ⟨levels_eq_nil fun _ h => (message_of_mem_ofInspection h).1,
    levels_eq_nil fun _ h => (message_of_mem_ofInspection h).2⟩

end LogEvent

section Log

variable {σ : Type} [CargoStore σ]

theorem Inspection.exists_log {now : Instant} {id : TrackingId} {event : Option HandlingEvent}
    {world world' : World σ} (h : (inspectAfter now id event).on world = (.ok (), world')) :
    ∃ delivery told, world'.log = world.log ++ LogEvent.ofInspection id delivery told := by
  rw [inspectAfter_on] at h
  cases hfind : find world.store id now with
  | error e => rw [hfind] at h; cases h
  | ok cargo =>
    cases hhistory : history (extended world.store event) id with
    | error e =>
      rw [hfind] at h
      dsimp only at h
      rw [hhistory] at h
      cases h
    | ok reports =>
      rw [hfind] at h
      dsimp only at h
      rw [hhistory] at h
      cases h
      exact ⟨_, _, List.append_assoc _ _ _⟩

/-- What a registration has done to the log and to the histories. -/
structure Accounted (before : σ) (report : Report) (outcome : Outcome σ Unit) : Prop where
  rejected : ∀ e, outcome.result = .error e →
    LogEvent.levels "rejected handling event" outcome.world.log = [.warn] ∧
      LogEvent.levels "registered handling event" outcome.world.log = [] ∧
      ∀ id, history outcome.world.store id = history before id
  registered : outcome.result = .ok () →
    LogEvent.levels "rejected handling event" outcome.world.log = [] ∧
      LogEvent.levels "registered handling event" outcome.world.log = [.info] ∧
      (∃ earlier event, history before report.trackingId = .ok earlier ∧
        history outcome.world.store report.trackingId = .ok (earlier.append event)) ∧
      ∀ id, id ≠ report.trackingId → history outcome.world.store id = history before id

namespace Registration

variable [SteadyStore σ] {store : σ} {report : Report}

/-- A report is rejected with one line and nothing else, or an inspection has come to its end with
the event of the report, and the last line is about the event. -/
theorem perform_cases (hkeyed : Keyed store) (directory : Directory) (now : Instant)
    (report : Report) :
    (∃ e line, line.message = "rejected handling event" ∧ line.level = .warn ∧
      (register directory now report).perform store = ⟨.error e, { store, log := [line] }⟩) ∨
    ∃ event world', event.trackingId = report.trackingId ∧ event.activity.kind ≠ .notHandled ∧
      (inspectAfter now report.trackingId (some event)).on { store } = (.ok (), world') ∧
      (register directory now report).perform store =
        ⟨.ok (), { world' with log := world'.log ++ [.registered event] }⟩ := by
  rw [Service.perform_eq_on, register_on]
  cases hcompletion : report.completion with
  | error fault => exact .inl ⟨_, _, rfl, rfl, rfl⟩
  | ok completedAt =>
    dsimp only
    cases hevent : event directory now now completedAt report store with
    | error cause => exact .inl ⟨_, _, rfl, rfl, rfl⟩
    | ok made =>
      have howner := (Call.inspects_of_event hkeyed hcompletion hevent).owner
      have hkind := handled_of_event hcompletion hevent
      obtain ⟨cargo, _, hfind, -⟩ := exists_of_event hevent
      -- The cargo was found for the event, so the inspection finds it as well.
      rcases inspectAfter_cases now report.trackingId (HandlingEvent.handled_some hkind) { store }
        with ⟨e, hnone, -⟩ | ⟨_, _, world', -, -, hinspect, -⟩
      · rw [hfind] at hnone
        cases hnone
      · refine .inr ⟨made, world', howner, hkind, hinspect, ?_⟩
        dsimp only
        rw [Inspection.record, howner, hinspect]

theorem history_of_inspected {now : Instant} {id : TrackingId} {event : HandlingEvent}
    {world world' : World σ} (howner : event.trackingId = id)
    (hkind : event.activity.kind ≠ .notHandled)
    (h : (inspectAfter now id (some event)).on world = (.ok (), world')) :
    (∃ earlier, history world.store id = .ok earlier ∧
      history world'.store id = .ok (earlier.append event)) ∧
    ∀ other, other ≠ id → history world'.store other = history world.store other := by
  rcases inspectAfter_cases now id (HandlingEvent.handled_some hkind) world with
    ⟨e, -, hinspect⟩ | ⟨_, _, _, hfind, -, hinspect, hstore, -⟩
  · rw [hinspect] at h
    cases h
  · rw [hinspect] at h
    cases h
    have happend := LawfulStore.history_append hkind world.store
    obtain ⟨earlier, hhistory⟩ := LawfulStore.history_of_find hfind
    refine ⟨⟨earlier, hhistory, ?_⟩, fun other hother => ?_⟩
    · rw [hstore, LawfulStore.history_store, extended, happend, if_pos howner, hhistory]
      rfl
    · rw [hstore, LawfulStore.history_store, extended, happend, if_neg]
      rw [howner]
      exact hother.symm

theorem accounted (hkeyed : Keyed store) (directory : Directory) (now : Instant)
    (report : Report) :
    Accounted store report ((register directory now report).perform store) := by
  rcases perform_cases hkeyed directory now report with
    ⟨e, line, hmessage, hlevel, hperform⟩ | ⟨event, world', howner, hkind, hinspect, hperform⟩
  · rw [hperform]
    refine ⟨fun _ _ => ⟨?_, ?_, fun _ => rfl⟩, fun h => by cases h⟩
    · simp [LogEvent.levels, hmessage, hlevel]
    · simp [LogEvent.levels, hmessage]
  · rw [hperform]
    obtain ⟨delivery, told, hlog⟩ := exists_log hinspect
    obtain ⟨⟨earlier, hbefore, hafter⟩, hothers⟩ := history_of_inspected howner hkind hinspect
    obtain ⟨hrejected, hregistered⟩ :=
      LogEvent.levels_ofInspection report.trackingId delivery told
    -- Of the log only the last line is about the report.
    refine ⟨fun _ h => (by cases h), fun _ => ⟨?_, ?_, ⟨earlier, event, hbefore, hafter⟩, hothers⟩⟩
    · rw [hlog, List.nil_append, LogEvent.levels_append, hrejected]
      rfl
    · rw [hlog, List.nil_append, LogEvent.levels_append, hregistered]
      rfl

end Registration

end Log

/-- Over either store, whatever it holds, the log has exactly one line about a report: a warning if
it was rejected, an information if it was registered; and exactly then a history has grown. -/
theorem registrations_accounted (directory : Directory) (now : Instant) (report : Report) :
    (∀ store : MemoryStore, Keyed store →
      Accounted store report ((Registration.register directory now report).perform store)) ∧
    ∀ store : RecordStore,
      Accounted store report ((Registration.register directory now report).perform store) :=
  ⟨fun _ hkeyed => Registration.accounted hkeyed directory now report,
    fun store => Registration.accounted store.keyed directory now report⟩

/-- A cargo without an itinerary is unloaded where it is to arrive, so that it is told to be misdirected
and arrived, with a warning and an information.  Of a cargo with an unreadable event nothing can be
registered. -/
theorem accounted_of_arrived :
    let id : TrackingId := ⟨"3F2A9C1B"⟩
    let store : MemoryStore :=
      CargoStore.store empty (.book id sampleSpecification (sampleDay 1))
    let unloading : Report := ⟨id, .unload, ⟨"SESTO"⟩, ⟨"V200"⟩, some (sampleDay 2)⟩
    let receipt : Report := ⟨⟨"ABC"⟩, .receive, ⟨"CNHKG"⟩, ⟨""⟩, some (sampleDay 2)⟩
    let registered := (Registration.register .sample (sampleDay 3) unloading).perform store
    let rejected := (Registration.register .sample (sampleDay 3) receipt).perform unreadableStore
    Keyed store ∧ registered.result = .ok () ∧ registered.world.notices.length = 2 ∧
      LogEvent.levels "registered handling event" registered.world.log = [.info] ∧
      rejected.result = .error (.corruptRecord (.eventKind "Lost")) ∧
      LogEvent.levels "rejected handling event" rejected.world.log = [.warn] := by
  intro id store unloading receipt registered rejected
  have hkeyed : Keyed store := keyed_empty.store _
  have hregistered : registered.result = .ok () := ok_of_toOption (by decide +kernel)
  have hrejected : rejected.result = .error (.corruptRecord (.eventKind "Lost")) := by
    decide +kernel
  have hunloading := registrations_accounted .sample (sampleDay 3) unloading
  have hreceipt := registrations_accounted .sample (sampleDay 3) receipt
  exact ⟨hkeyed, hregistered, by decide +kernel,
    ((hunloading.1 store hkeyed).registered hregistered).2.1, hrejected,
    ((hreceipt.2 unreadableStore).rejected _ hrejected).1⟩

end CargoTracking
