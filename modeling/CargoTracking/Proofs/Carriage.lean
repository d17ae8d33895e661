import CargoTracking.Proofs.Acceptance
import CargoTracking.Proofs.TrackingView

/-!
# Voyages of loadings

Loading and unloading happen on a voyage, but a report of them is accepted without one, and then its
event has none.  So a cargo is on board of a listed voyage, unless it was reported to be loaded without
one: what was reported is all that the histories and the deliveries show.
-/

namespace CargoTracking

open CargoStore Inspection

/-- Every loading and unloading has a voyage, which is listed. -/
def History.Carried (reports : History) (voyages : List Voyage) : Prop :=
  ∀ event ∈ reports.events, event.activity.kind.requiresVoyage = true →
    ∃ number ∈ voyages.map (·.number), event.activity.voyageNumber = some number

/-- Whoever is on board is on board of a listed voyage. -/
def Delivery.Aboard (delivery : Delivery) (voyages : List Voyage) : Prop :=
  delivery.transportStatus = .onboardCarrier →
    ∃ number ∈ voyages.map (·.number), delivery.currentVoyage = some number

instance (reports : History) (voyages : List Voyage) : Decidable (reports.Carried voyages) :=
  inferInstanceAs (Decidable (∀ event ∈ reports.events, event.activity.kind.requiresVoyage = true →
    ∃ number ∈ voyages.map (·.number), event.activity.voyageNumber = some number))

instance (delivery : Delivery) (voyages : List Voyage) : Decidable (delivery.Aboard voyages) :=
  inferInstanceAs (Decidable (delivery.transportStatus = .onboardCarrier →
    ∃ number ∈ voyages.map (·.number), delivery.currentVoyage = some number))

theorem Delivery.onboard_ofLastEvent_iff {spec : RouteSpecification} {itinerary : Itinerary}
    {last : Option HandlingEvent} {time : Instant} :
    (ofLastEvent spec itinerary last time).transportStatus = .onboardCarrier ↔
      ∃ event, last = some event ∧ event.activity.kind = .load := by
  cases last with
  | none => simp [ofLastEvent, TransportStatus.after]
  | some event =>
    simp only [ofLastEvent, TransportStatus.after, Option.some.injEq, exists_eq_left']
    cases event.activity.kind <;> simp

theorem Delivery.currentVoyage_of_load {spec : RouteSpecification} {itinerary : Itinerary}
    {event : HandlingEvent} (h : event.activity.kind = .load) (time : Instant) :
    (ofLastEvent spec itinerary (some event) time).currentVoyage = event.activity.voyageNumber :=
  if_pos h

/-! ## The event that a delivery shows -/

/-- A delivery that is found was derived after an event of the history, or after none. -/
structure Remembers {σ : Type} [CargoStore σ] (store : σ) : Prop where
  remembered : ∀ {id now cargo reports}, find store id now = .ok cargo →
    history store id = .ok reports →
    ∃ last time, cargo.delivery =
        .ofLastEvent cargo.routeSpecification cargo.itinerary last time ∧
      ∀ event ∈ last, event ∈ reports.events

theorem Current.remembers {σ : Type} [CargoStore σ] {store : σ} (h : Current store) :
    Remembers store where
  remembered {id now cargo reports} hfind hhistory := by
    obtain ⟨time, hderived⟩ := h.derived hfind hhistory
    exact ⟨reports.last?, time, hderived, fun event => History.mem_of_last?⟩

theorem Remembers.exists_loaded {σ : Type} [CargoStore σ] {store : σ} (h : Remembers store)
    {id : TrackingId} {now : Instant} {cargo : Cargo} {reports : History}
    (hfind : find store id now = .ok cargo) (hhistory : history store id = .ok reports)
    (honboard : cargo.delivery.transportStatus = .onboardCarrier) :
    ∃ event ∈ reports.events, event.activity.kind = .load ∧
      cargo.delivery.currentVoyage = event.activity.voyageNumber := by
  obtain ⟨last, time, hdelivery, hlast⟩ := h.remembered hfind hhistory
  rw [hdelivery, Delivery.onboard_ofLastEvent_iff] at honboard
  obtain ⟨event, rfl, hkind⟩ := honboard
  refine ⟨event, hlast event rfl, hkind, ?_⟩
  rw [hdelivery, Delivery.currentVoyage_of_load hkind]

namespace MemoryStore

variable {now : Instant} {before after : MemoryStore} {call : Call} {told : List Notice}

/-- A cargo that is booked again forgets the events of the history, but shows no others. -/
theorem remembers_effect (h : Remembers before) (hkeyed : Keyed before)
    (heffect : Effect now before call after told) : Remembers after where
  remembered {id later found reports} hfind hhistory := by
    by_cases habout : call.about = some id
    · cases heffect with
      | silent => exact h.remembered hfind hhistory
      | booked fresh origin destination deadline spec =>
        cases habout
        have hstored := find_store_self before (.book id spec now) later
        cases Except.ok.inj (hfind.symm.trans hstored)
        exact ⟨none, now, rfl, fun event hevent => by cases hevent⟩
      | @planned _ _ cargo plans hknown spec itinerary =>
        cases plans.about_eq.symm.trans habout
        have hid := hkeyed.trackingId hknown
        subst hid
        obtain ⟨last, time, hderived, hlast⟩ := h.remembered hknown hhistory
        have hstored := find_store_self before (cargo.replan spec itinerary now) later
        cases Except.ok.inj (hfind.symm.trans hstored)
        refine ⟨last, now, ?_, hlast⟩
        show cargo.delivery.updateOnRouting spec itinerary now = _
        rw [hderived]
        rfl
      | @inspected _ _ event cargo read inspects hknown hread =>
        cases inspects.about_eq.symm.trans habout
        have hid := hkeyed.trackingId hknown
        subst hid
        have hstored := find_store_self (extended before event) (cargo.deriveFrom read now) later
        cases Except.ok.inj (hfind.symm.trans hstored)
        cases Except.ok.inj (hhistory.symm.trans hread)
        exact ⟨reports.last?, now, rfl, fun event => History.mem_of_last?⟩
      | unreadable inspects _ hunread =>
        cases inspects.about_eq.symm.trans habout
        cases hunread.symm.trans hhistory
    · have helsewhere := heffect.elsewhere hkeyed habout
      rw [helsewhere.find_eq] at hfind
      rw [helsewhere.history_eq] at hhistory
      exact h.remembered hfind hhistory

end MemoryStore

/-! ## What sessions record -/

namespace Session

/-- The call at the position registers the report, and succeeds. -/
def Accepts (session : Session) (σ : Type) [CargoStore σ] (i : Nat) (report : Report) : Prop :=
  ∃ now, session.calls[i]? = some (now, .register report) ∧
    session.registers σ i report.trackingId = true

section Recorded

variable {session : Session} {σ : Type} [CargoStore σ] [SteadyStore σ] {locations : List Location}
  {voyages : List Voyage} {i : Nat} {event : HandlingEvent}

/-- A history has the events of its cargo that were recorded. -/
theorem mem_history_iff (h : session.Checks) (k : Nat) {id : TrackingId} {reports : History}
    (hhistory : history (session.state σ k) id = .ok reports) (event : HandlingEvent) :
    event ∈ reports.events ↔
      (∃ i < k, session.recorded σ i = some event) ∧ event.trackingId = id := by
  induction k generalizing reports with
  | zero =>
    cases hhistory.symm.trans (SteadyStore.history_empty id)
    simp [History.empty]
  | succ k ih =>
    rw [history_succ h] at hhistory
    cases hbefore : history (session.state σ k) id with
    | error e => rw [hbefore] at hhistory; cases hhistory
    | ok before =>
      rw [hbefore] at hhistory
      cases hhistory
      show event ∈ before.events ++ (session.recorded σ k).toList.filter (·.trackingId = id) ↔ _
      rw [List.mem_append, ih hbefore, List.mem_filter, Option.mem_toList, decide_eq_true_iff,
        Nat.exists_lt_succ_right, or_and_right]

/-- An event that is recorded tells what was reported. -/
theorem exists_accepted (hdirectory : session.directory = .ofLists locations voyages)
    (h : session.Checks) (hevent : session.recorded σ i = some event) :
    ∃ report, session.Accepts σ i report ∧ event.trackingId = report.trackingId ∧
      event.activity = report.activity := by
  have hregisters := registers_eq (σ := σ) h i event.trackingId
  rw [hevent, Option.any_some, decide_eq_true rfl] at hregisters
  rw [recorded] at hevent
  cases hcall : session.calls[i]? with
  | none => rw [hcall] at hevent; cases hevent
  | some entry =>
    obtain ⟨now, call⟩ := entry
    have hchecks : call.Checks := h _ (List.mem_of_getElem? hcall)
    rw [hcall, hdirectory] at hevent
    obtain ⟨report, completedAt, rfl, hcompletion, hmade⟩ := hchecks.exists_report hevent
    have hkeyed := (coherent_state (σ := σ) session i).keyed
    have howner := (Call.inspects_of_event hkeyed hcompletion hmade).owner
    obtain ⟨_, done, -, hdone, rfl⟩ := Registration.exists_of_event hmade
    have hactivity := (Reads.activity locations voyages now (session.state σ i) report).stands hdone
    exact ⟨report, ⟨now, hcall, howner ▸ hregisters⟩, howner, hactivity⟩

/-- A report that is accepted is recorded. -/
theorem exists_recorded (hdirectory : session.directory = .ofLists locations voyages)
    (h : session.Checks) {report : Report} (haccepts : session.Accepts σ i report) :
    ∃ event, session.recorded σ i = some event ∧ event.trackingId = report.trackingId ∧
      event.activity = report.activity := by
  obtain ⟨now, hcall, hregisters⟩ := haccepts
  rw [registers_eq h, Option.any_eq_true] at hregisters
  obtain ⟨event, hevent, -⟩ := hregisters
  obtain ⟨report', ⟨_, hcall', -⟩, howner, hactivity⟩ := exists_accepted hdirectory h hevent
  cases hcall.symm.trans hcall'
  exact ⟨event, hevent, howner, hactivity⟩

end Recorded

/-- What the histories and the deliveries after the first calls show of voyages. -/
structure Carries (session : Session) (σ : Type) [CargoStore σ] (voyages : List Voyage) (k : Nat) :
    Prop where
  events : ∀ id, ∃ reports, history (session.state σ k) id = .ok reports ∧
    (∀ event ∈ reports.events, ∃ i < k, ∃ report, session.Accepts σ i report ∧
      report.trackingId = id ∧ event.activity = report.activity) ∧
    (reports.Carried voyages ↔ ∀ i < k, ∀ report, session.Accepts σ i report →
      report.trackingId = id → report.kind.requiresVoyage = true →
        report.voyageNumber.isEmpty = false)
  /-- A cargo may be on board without a voyage, but only if that is how it was reported. -/
  cargos : ∀ id now cargo, find (session.state σ k) id now = .ok cargo →
    cargo.delivery.Aboard voyages ∨
      cargo.delivery.transportStatus = .onboardCarrier ∧ cargo.delivery.currentVoyage = none ∧
        ∃ i < k, ∃ report, session.Accepts σ i report ∧ report.trackingId = id ∧
          report.kind = .load ∧ report.voyageNumber.isEmpty = true

section Carries

variable {session : Session} {σ : Type} [CargoStore σ] [SteadyStore σ] {locations : List Location}
  {voyages : List Voyage} {k : Nat} {id : TrackingId} {reports : History}

theorem exists_reported (hdirectory : session.directory = .ofLists locations voyages)
    (h : session.Checks) (hhistory : history (session.state σ k) id = .ok reports)
    {event : HandlingEvent} (hevent : event ∈ reports.events) :
    ∃ i < k, ∃ report, session.Accepts σ i report ∧ report.trackingId = id ∧
      event.activity = report.activity := by
  obtain ⟨⟨i, hik, hrecorded⟩, rfl⟩ := (mem_history_iff h k hhistory event).mp hevent
  obtain ⟨report, haccepts, howner, hactivity⟩ := exists_accepted hdirectory h hrecorded
  exact ⟨i, hik, report, haccepts, howner.symm, hactivity⟩

/-- A voyage that was reported is a listed one. -/
theorem listed_of_reported (hdirectory : session.directory = .ofLists locations voyages)
    (h : session.Checks) (hhistory : history (session.state σ k) id = .ok reports)
    {event : HandlingEvent} (hevent : event ∈ reports.events) {report : Report}
    (hactivity : event.activity = report.activity) (hvoyage : report.voyageNumber.isEmpty = false) :
    ∃ number ∈ voyages.map (·.number), event.activity.voyageNumber = some number := by
  have hnumber : event.activity.voyageNumber = some report.voyageNumber := by
    rw [hactivity, Report.activity, hvoyage]
    rfl
  obtain ⟨⟨i, -, hrecorded⟩, -⟩ := (mem_history_iff h k hhistory event).mp hevent
  have hrefers := refersTo_of_recorded hdirectory h hrecorded
  exact ⟨_, (hrefers.voyage _ hnumber).2, hnumber⟩

theorem carried_iff (hdirectory : session.directory = .ofLists locations voyages)
    (h : session.Checks) (hhistory : history (session.state σ k) id = .ok reports) :
    reports.Carried voyages ↔ ∀ i < k, ∀ report, session.Accepts σ i report →
      report.trackingId = id → report.kind.requiresVoyage = true →
        report.voyageNumber.isEmpty = false := by
  constructor
  · intro hcarried i hik report haccepts howner hkind
    obtain ⟨event, hrecorded, howner', hactivity⟩ := exists_recorded hdirectory h haccepts
    have hevent : event ∈ reports.events :=
      (mem_history_iff h k hhistory event).mpr ⟨⟨i, hik, hrecorded⟩, howner'.trans howner⟩
    obtain ⟨number, -, hnumber⟩ := hcarried event hevent (by rw [hactivity]; exact hkind)
    rw [hactivity, Report.activity] at hnumber
    cases hempty : report.voyageNumber.isEmpty with
    | false => rfl
    | true => rw [hempty] at hnumber; cases hnumber
  · intro hvoyages event hevent hkind
    obtain ⟨i, hik, report, haccepts, howner, hactivity⟩ :=
      exists_reported hdirectory h hhistory hevent
    rw [hactivity] at hkind
    exact listed_of_reported hdirectory h hhistory hevent hactivity
      (hvoyages i hik report haccepts howner hkind)

/-- Whoever is on board has the voyage with which the loading was reported, if there was one. -/
theorem aboard_or_adrift (hdirectory : session.directory = .ofLists locations voyages)
    (h : session.Checks) (hremembers : Remembers (session.state σ k)) {now : Instant} {cargo : Cargo}
    (hfind : find (session.state σ k) id now = .ok cargo) :
    cargo.delivery.Aboard voyages ∨
      cargo.delivery.transportStatus = .onboardCarrier ∧ cargo.delivery.currentVoyage = none ∧
        ∃ i < k, ∃ report, session.Accepts σ i report ∧ report.trackingId = id ∧
          report.kind = .load ∧ report.voyageNumber.isEmpty = true := by
  by_cases hstatus : cargo.delivery.transportStatus = .onboardCarrier
  · obtain ⟨reports, hhistory⟩ := LawfulStore.history_of_find hfind
    obtain ⟨event, hevent, hkind, hvoyage⟩ := hremembers.exists_loaded hfind hhistory hstatus
    obtain ⟨i, hik, report, haccepts, howner, hactivity⟩ :=
      exists_reported hdirectory h hhistory hevent
    rw [hactivity] at hkind
    cases hempty : report.voyageNumber.isEmpty with
    | false =>
      refine .inl fun _ => ?_
      rw [hvoyage]
      exact listed_of_reported hdirectory h hhistory hevent hactivity hempty
    | true =>
      refine .inr ⟨hstatus, ?_, i, hik, report, haccepts, howner, hkind, hempty⟩
      rw [hvoyage, hactivity, Report.activity, hempty]
      rfl
  · exact .inl fun honboard => absurd honboard hstatus

theorem carries (hdirectory : session.directory = .ofLists locations voyages) (h : session.Checks)
    (hremembers : Remembers (session.state σ k)) : session.Carries σ voyages k where
  events id := by
    obtain ⟨reports, hhistory, -⟩ := exists_history_state (σ := σ) hdirectory h k id
    exact ⟨reports, hhistory, fun event => exists_reported hdirectory h hhistory,
      carried_iff hdirectory h hhistory⟩
  cargos _ _ _ := aboard_or_adrift hdirectory h hremembers

end Carries

theorem remembers_state (session : Session) (k : Nat) :
    Remembers (session.state MemoryStore k) := by
  have hstart : Current (empty : MemoryStore) := current_empty
  refine state_induction (motive := Remembers) hstart.remembers (fun k now call hcall ih => ?_) k
  exact MemoryStore.remembers_effect ih (coherent_state session k).keyed (effect hcall)

end Session

/-- Over either store, a loading or unloading has a voyage exactly if it was reported with one, and a
cargo that is on board of none was reported to be loaded without one. -/
theorem carriage_as_reported {session : Session} {locations : List Location}
    {voyages : List Voyage} (hdirectory : session.directory = .ofLists locations voyages)
    (h : session.Checks) (k : Nat) :
    session.Carries MemoryStore voyages k ∧ session.Carries RecordStore voyages k :=
  ⟨Session.carries hdirectory h (session.remembers_state k),
    Session.carries hdirectory h (RecordStore.current _).remembers⟩

/-- Two cargos are loaded at Hongkong, and only of the first one it is told on which voyage. -/
def Session.adrift : Session where
  directory := .sample
  calls :=
    [(sampleDay 1, .book ⟨"3F2A9C1B"⟩ ⟨"CNHKG"⟩ ⟨"SESTO"⟩ (some (sampleDay 18))),
      (sampleDay 1, .book ⟨"5D07E4A2"⟩ ⟨"CNHKG"⟩ ⟨"SESTO"⟩ (some (sampleDay 18))),
      (sampleDay 3, .register ⟨⟨"3F2A9C1B"⟩, .load, ⟨"CNHKG"⟩, ⟨"V100"⟩, some (sampleDay 3)⟩),
      (sampleDay 3, .register ⟨⟨"5D07E4A2"⟩, .load, ⟨"CNHKG"⟩, ⟨""⟩, some (sampleDay 3)⟩)]

/-- The first cargo is on board of the voyage. -/
theorem carries_adrift : Session.adrift.Checks ∧
    Session.adrift.Carries MemoryStore sampleVoyages 4 ∧
    Session.adrift.Carries RecordStore sampleVoyages 4 ∧
    (find (Session.adrift.state RecordStore 4) ⟨"3F2A9C1B"⟩ (sampleDay 4)).toOption.map
      (·.delivery.currentVoyage) = some (some ⟨"V100"⟩) := by
  have hchecks : Session.adrift.Checks := by
    simp [Session.Checks, Session.adrift, Call.Checks]
  have hdirectory : Session.adrift.directory = .ofLists sampleLocations sampleVoyages := rfl
  obtain ⟨hmemory, hrecords⟩ := carriage_as_reported hdirectory hchecks 4
  exact ⟨hchecks, hmemory, hrecords, by decide +kernel⟩

theorem exists_of_any {α : Type} {P : α → Prop} [DecidablePred P] {result : Except Error α}
    (h : result.toOption.any (fun a => ¬ P a) = true) : ∃ a, result = .ok a ∧ ¬ P a := by
  rw [Option.any_eq_true] at h
  obtain ⟨a, ha, hnot⟩ := h
  exact ⟨a, ok_of_toOption ha, of_decide_eq_true hnot⟩

/-- The other one is on board of nothing: its loading is in the history, and no voyage is. -/
theorem aboard_of_nothing :
    (∃ reports, history (Session.adrift.state MemoryStore 4) ⟨"5D07E4A2"⟩ = .ok reports ∧
      ¬ reports.Carried sampleVoyages) ∧
    (∃ cargo, find (Session.adrift.state MemoryStore 4) ⟨"5D07E4A2"⟩ (sampleDay 4) = .ok cargo ∧
      ¬ cargo.delivery.Aboard sampleVoyages) ∧
    (∃ reports, history (Session.adrift.state RecordStore 4) ⟨"5D07E4A2"⟩ = .ok reports ∧
      ¬ reports.Carried sampleVoyages) ∧
    ∃ cargo, find (Session.adrift.state RecordStore 4) ⟨"5D07E4A2"⟩ (sampleDay 4) = .ok cargo ∧
      ¬ cargo.delivery.Aboard sampleVoyages := by
  exact ⟨exists_of_any (by decide +kernel), exists_of_any (by decide +kernel),
    exists_of_any (by decide +kernel), exists_of_any (by decide +kernel)⟩

end CargoTracking
