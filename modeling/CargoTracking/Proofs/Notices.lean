import CargoTracking.Proofs.History
import CargoTracking.Proofs.Plan
import CargoTracking.Proofs.Sessions

/-!
# Notices are neither repeated nor made up

An inspection tells of the flags that were down in the delivery before it and are raised in the one
it derives.  A flag depends on the plan and on the last event only, so where deliveries are up to
date it is raised between the two by an event that has become the last one of its cargo, and by
nothing else.
-/

namespace CargoTracking

open CargoStore Inspection

/-- What is told of a delivery. -/
inductive Flag
  | misdirected
  | arrived

namespace Flag

def raised : Flag → Delivery → Bool
  | misdirected, delivery => delivery.isMisdirected
  | arrived, delivery => delivery.isUnloadedAtDestination

def notice : Flag → Cargo → Notice
  | misdirected => .misdirected
  | arrived => .arrived

/-- The cargo is found with the flag raised, or with the flag down, at any time. -/
def Reads {σ : Type} [CargoStore σ] (flag : Flag) (store : σ) (id : TrackingId) (raised : Bool) :
    Prop :=
  ∀ now, ∃ cargo, find store id now = .ok cargo ∧ flag.raised cargo.delivery = raised

theorem raised_unstamped (flag : Flag) (delivery : Delivery) :
    flag.raised delivery.unstamped = flag.raised delivery := by
  cases flag <;> rfl

theorem raised_derive_congr (flag : Flag) (spec : RouteSpecification) (itinerary : Itinerary)
    {reports reports' : History} (h : reports.last? = reports'.last?) (now now' : Instant) :
    flag.raised (.derive spec itinerary reports now) =
      flag.raised (.derive spec itinerary reports' now') := by
  rw [Delivery.derive, Delivery.derive, h]
  cases flag <;> rfl

theorem cargo_notice (flag : Flag) (cargo : Cargo) : (flag.notice cargo).cargo = cargo := by
  cases flag <;> rfl

theorem exists_notice (notice : Notice) : ∃ flag : Flag, flag.notice notice.cargo = notice := by
  cases notice with
  | misdirected cargo => exact ⟨.misdirected, rfl⟩
  | arrived cargo => exact ⟨.arrived, rfl⟩

theorem notice_mem_notices {flag : Flag} {before : Delivery} {cargo : Cargo} :
    flag.notice cargo ∈ notices before cargo ↔
      flag.raised cargo.delivery = true ∧ flag.raised before = false := by
  unfold notices
  rw [List.mem_append, List.mem_ite_nil_right, List.mem_ite_nil_right, List.mem_singleton,
    List.mem_singleton, Bool.and_eq_true, Bool.and_eq_true, Bool.not_eq_true', Bool.not_eq_true']
  cases flag with
  | misdirected => simp [notice, raised]
  | arrived => simp [notice, raised]

section Reads

variable {σ : Type} [CargoStore σ] [SteadyStore σ] {store : σ} {id : TrackingId}

theorem reads_of_find (flag : Flag) {now : Instant} {cargo : Cargo}
    (h : find store id now = .ok cargo) : flag.Reads store id (flag.raised cargo.delivery) := by
  intro later
  obtain ⟨cargo', hlater, hsame⟩ := SteadyStore.exists_find_later h later
  have hdelivery : cargo'.delivery.unstamped = cargo.delivery.unstamped := Cargo.delivery_congr hsame
  refine ⟨cargo', hlater, ?_⟩
  rw [← flag.raised_unstamped, hdelivery, flag.raised_unstamped]

theorem reads_commit (flag : Flag) {event : Option HandlingEvent} {cargo : Cargo}
    (hfits : Fits store event cargo) :
    flag.Reads (commit store event cargo) cargo.trackingId (flag.raised cargo.delivery) := by
  intro now
  obtain ⟨reports, time, time', -, hdelivery, hfind⟩ := find_commit_self hfits now
  refine ⟨_, hfind, ?_⟩
  rw [hdelivery]
  exact flag.raised_derive_congr cargo.routeSpecification cargo.itinerary rfl time' time

end Reads

end Flag

/-- The notices of an inspection are of one cargo, at most one of each kind, and a misdirection is
told first. -/
theorem Inspection.notices_sublist (before : Delivery) (cargo : Cargo) :
    (notices before cargo).Sublist [.misdirected cargo, .arrived cargo] := by
  have hpart : ∀ (p : Prop) [Decidable p] (notice : Notice),
      (if p then [notice] else []).Sublist [notice] := by
    intro p _ notice
    by_cases hp : p
    · simp only [if_pos hp, List.Sublist.refl]
    · simp only [if_neg hp, List.nil_sublist]
  exact (hpart _ (.misdirected cargo)).append (hpart _ (.arrived cargo))

theorem Inspection.cargo_of_mem_notices {before : Delivery} {cargo : Cargo} {notice : Notice}
    (h : notice ∈ notices before cargo) : notice.cargo = cargo := by
  have hmem := (notices_sublist before cargo).subset h
  rw [List.mem_cons, List.mem_singleton] at hmem
  rcases hmem with rfl | rfl <;> rfl

/-! ## One call -/

/-- The event is recorded, becomes the last one of the cargo and raises the flag. -/
structure RaisedBy {σ : Type} [CargoStore σ] (before after : σ) (flag : Flag) (id : TrackingId)
    (event : HandlingEvent) (reports : History) : Prop where
  history_before : history before id = .ok reports
  history_after : history after id = .ok (reports.append event)
  last_before : reports.last? ≠ some event
  last_after : (reports.append event).last? = some event
  reads_before : flag.Reads before id false
  reads_after : flag.Reads after id true

/-- The events of one call differ in what is looked up for them at most. -/
theorem Call.Inspects.completedAt_eq {call : Call} {id id' : TrackingId}
    {event event' : HandlingEvent} (h : call.Inspects id (some event))
    (h' : call.Inspects id' (some event')) :
    id = id' ∧ event.completedAt = event'.completedAt := by
  cases h with
  | record =>
    cases h'
    exact ⟨rfl, rfl⟩
  | register hcompletion =>
    cases h' with
    | register hcompletion' => exact ⟨rfl, Except.ok.inj (hcompletion.symm.trans hcompletion')⟩

section Effect

variable {σ : Type} [CargoStore σ] {now : Instant} {before after : σ} {call : Call}
  {told : List Notice}

theorem told_sublist (h : Effect now before call after told) {notice : Notice}
    (hnotice : notice ∈ told) : told.Sublist [.misdirected notice.cargo, .arrived notice.cargo] := by
  cases h with
  | silent => cases hnotice
  | booked => cases hnotice
  | planned => cases hnotice
  | unreadable => cases hnotice
  | inspected =>
    rw [cargo_of_mem_notices hnotice]
    exact notices_sublist _ _

/-- A flag that an inspection raises has been raised by another last event. -/
theorem last?_ne_of_raised {cargo : Cargo} {known reports : History} {time : Instant}
    (hderived : cargo.delivery = .derive cargo.routeSpecification cargo.itinerary known time)
    {flag : Flag} (hdown : flag.raised cargo.delivery = false)
    (hraised : flag.raised (cargo.deriveFrom reports now).delivery = true) :
    known.last? ≠ reports.last? := by
  intro hsame
  have hflags := flag.raised_derive_congr cargo.routeSpecification cargo.itinerary hsame time now
  rw [← hderived, hdown] at hflags
  exact Bool.false_ne_true (hflags.trans hraised)

section Inspected

variable {id : TrackingId} {cargo : Cargo} {reports : History} {flag : Flag}

/-- Inspecting a cargo raises no flag that was down. -/
theorem not_raised_of_inspect (hstore : UpToDate before) (hfind : find before id now = .ok cargo)
    (hread : history before id = .ok reports) (hdown : flag.raised cargo.delivery = false) :
    flag.raised (cargo.deriveFrom reports now).delivery ≠ true := by
  intro hraised
  obtain ⟨known, time, hknown, hderived⟩ := hstore.derived hfind
  have hsame : known = reports := Except.ok.inj (hknown.symm.trans hread)
  exact last?_ne_of_raised hderived hdown hraised (congrArg History.last? hsame)

/-- The record of an event that raises a flag. -/
theorem raisedBy_of_record [SteadyStore σ] (hstore : UpToDate before) {event : HandlingEvent}
    (howner : event.trackingId = id) (hkind : event.activity.kind ≠ .notHandled)
    (hfind : find before id now = .ok cargo)
    (hread : history (append before event) id = .ok reports)
    (hdown : flag.raised cargo.delivery = false)
    (hraised : flag.raised (cargo.deriveFrom reports now).delivery = true) :
    ∃ known, RaisedBy before (commit before (some event) (cargo.deriveFrom reports now)) flag id
      event known := by
  obtain ⟨known, time, hknown, hderived⟩ := hstore.derived hfind
  have hnew : known.last? ≠ reports.last? := last?_ne_of_raised hderived hdown hraised
  obtain ⟨known', hknown', hreports⟩ := SteadyStore.history_of_append hread
  rw [if_pos howner] at hreports
  cases hknown.symm.trans hknown'
  subst hreports
  have hlast : (known.append event).last? = some event :=
    (History.last?_append_cases known event).resolve_right hnew.symm
  have howned : ∀ e ∈ some event, e.trackingId = id := fun e he => Option.some.inj he ▸ howner
  have hfits := fits_deriveFrom hstore hfind (HandlingEvent.handled_some hkind) howned hread now
  have hid := hstore.trackingId hfind
  have hreads := flag.reads_commit hfits
  rw [hraised, show (cargo.deriveFrom (known.append event) now).trackingId = id from hid] at hreads
  refine ⟨known, hknown, ?_, ?_, hlast, ?_, hreads⟩
  · rw [commit, LawfulStore.history_store]
    exact hread
  · exact fun hold => hnew (hold.trans hlast.symm)
  · rw [← hdown]
    exact flag.reads_of_find hfind

end Inspected

/-- A flag is told when it was raised by an event, as long as deliveries are up to date. -/
theorem exists_raisedBy [SteadyStore σ] (h : Effect now before call after told)
    (hstore : UpToDate before) (hcall : call.Admissible (trackingIds before)) {flag : Flag}
    {cargo : Cargo} (hnotice : flag.notice cargo ∈ told) :
    ∃ event reports, call.Inspects cargo.trackingId (some event) ∧
      RaisedBy before after flag cargo.trackingId event reports := by
  cases h with
  | silent => cases hnotice
  | booked => cases hnotice
  | planned => cases hnotice
  | unreadable => cases hnotice
  | @inspected _ id event found reports hinspects hfind hread =>
    have hcargo := cargo_of_mem_notices hnotice
    rw [flag.cargo_notice] at hcargo
    subst hcargo
    obtain ⟨hraised, hdown⟩ := Flag.notice_mem_notices.mp hnotice
    have hid : found.trackingId = id := hstore.trackingId hfind
    show ∃ event reports, call.Inspects found.trackingId (some event) ∧
      RaisedBy _ _ flag found.trackingId event reports
    rw [hid]
    cases event with
    | none => exact absurd hraised (not_raised_of_inspect hstore hfind hread hdown)
    | some event =>
      obtain ⟨known, hraisedBy⟩ := raisedBy_of_record hstore hinspects.owner
        (hinspects.handled hcall) hfind hread hdown hraised
      exact ⟨event, known, hinspects, hraisedBy⟩

end Effect

/-! ## Sessions -/

namespace Session

/-- What can be relied on in the notices of a session. -/
structure Truthful (session : Session) (σ : Type) [CargoStore σ] : Prop where
  /-- A flag is told by the call that records the event that raises it. -/
  raised : ∀ {k : Nat} {now : Instant} {call : Call} {flag : Flag} {cargo : Cargo},
    session.calls[k]? = some (now, call) → flag.notice cargo ∈ session.told σ k →
    ∃ event reports, call.Inspects cargo.trackingId (some event) ∧
      RaisedBy (session.state σ k) (session.state σ (k + 1)) flag cargo.trackingId event reports
  /-- Inspecting a cargo tells nothing. -/
  inspect : ∀ {k : Nat} {now : Instant} {id : TrackingId},
    session.calls[k]? = some (now, .inspect id) → session.told σ k = []
  /-- Nor does the record of an event that was completed before another one of the history. -/
  late : ∀ {k : Nat} {now : Instant} {call : Call} {id : TrackingId} {event other : HandlingEvent}
    {reports : History}, session.calls[k]? = some (now, call) → call.Inspects id (some event) →
    history (session.state σ k) id = .ok reports → other ∈ reports.events →
    event.completedAt < other.completedAt → session.told σ k = []
  /-- A flag that is told again was down in the meantime. -/
  down_between : ∀ {i j : Nat} {flag : Flag} {cargo cargo' : Cargo}, i < j →
    flag.notice cargo ∈ session.told σ i → flag.notice cargo' ∈ session.told σ j →
    cargo'.trackingId = cargo.trackingId →
    ∃ m, i < m ∧ m ≤ j ∧ flag.Reads (session.state σ m) cargo.trackingId false
  /-- A call tells of one cargo, each flag once at most and a misdirection first. -/
  order : ∀ {k : Nat} {notice : Notice}, notice ∈ session.told σ k →
    (session.told σ k).Sublist [.misdirected notice.cargo, .arrived notice.cargo]

variable {σ : Type} [CargoStore σ] [SteadyStore σ] {session : Session}

theorem told_raised (h : session.Admissible σ) {k : Nat} {now : Instant} {call : Call}
    (hcall : session.calls[k]? = some (now, call)) {flag : Flag} {cargo : Cargo}
    (hnotice : flag.notice cargo ∈ session.told σ k) :
    ∃ event reports, call.Inspects cargo.trackingId (some event) ∧
      RaisedBy (session.state σ k) (session.state σ (k + 1)) flag cargo.trackingId event reports :=
  exists_raisedBy (effect hcall) (upToDate_state h k) (h k now call hcall) hnotice

theorem truthful_of_admissible (h : session.Admissible σ) : session.Truthful σ where
  raised hcall hnotice := told_raised h hcall hnotice
  inspect {k now id} hcall := by
    refine List.eq_nil_iff_forall_not_mem.mpr fun notice hnotice => ?_
    obtain ⟨flag, hflag⟩ := Flag.exists_notice notice
    rw [← hflag] at hnotice
    obtain ⟨event, reports, hinspects, -⟩ := told_raised h hcall hnotice
    cases hinspects
  late {k now call id event other reports} hcall hinspects hhistory hother hlt := by
    refine List.eq_nil_iff_forall_not_mem.mpr fun notice hnotice => ?_
    obtain ⟨flag, hflag⟩ := Flag.exists_notice notice
    rw [← hflag] at hnotice
    obtain ⟨event', reports', hinspects', hraisedBy⟩ := told_raised h hcall hnotice
    -- The last event of the history is completed when this event is, so not before the other one.
    obtain ⟨hid, htime⟩ := hinspects.completedAt_eq hinspects'
    have hbefore := hraisedBy.history_before
    rw [← hid, hhistory] at hbefore
    cases hbefore
    have hmem : other ∈ (reports.append event').events := List.mem_append_left _ hother
    have hle := History.completedAt_le_last? hraisedBy.last_after other hmem
    rw [← htime, Instant.le_def] at hle
    rw [Instant.lt_def] at hlt
    omega
  down_between {i j flag cargo cargo'} hij _ hnotice hid := by
    obtain ⟨now, call, hcall⟩ := exists_call_of_told hnotice
    obtain ⟨event, reports, -, hraisedBy⟩ := told_raised h hcall hnotice
    exact ⟨j, hij, Nat.le_refl j, hid ▸ hraisedBy.reads_before⟩
  order {k notice} hnotice := by
    obtain ⟨now, call, hcall⟩ := exists_call_of_told hnotice
    exact told_sublist (effect hcall) hnotice

end Session

/-- Over either store, no notice of a session is repeated or made up. -/
theorem notices_truthful (session : Session) :
    (session.Admissible MemoryStore → session.Truthful MemoryStore) ∧
      (session.Admissible RecordStore → session.Truthful RecordStore) :=
  ⟨Session.truthful_of_admissible, Session.truthful_of_admissible⟩

/-- A cargo that is booked, and unloaded at its destination before it has a plan. -/
def Session.unplanned : Session where
  directory := .sample
  calls :=
    [(sampleDay 1, .book ⟨"3F2A9C1B"⟩ ⟨"CNHKG"⟩ ⟨"SESTO"⟩ (some (sampleDay 18))),
      (sampleDay 6, .register ⟨⟨"3F2A9C1B"⟩, .unload, ⟨"SESTO"⟩, ⟨"V100"⟩, some (sampleDay 5)⟩)]

theorem Session.distinct_unplanned : unplanned.Distinct where
  booked := by decide +kernel
  handled now event hmem := by
    simp only [unplanned, List.mem_cons, Prod.mk.injEq, reduceCtorEq, and_false, List.not_mem_nil,
      or_false] at hmem

/-- The call that tells of a misdirection and of an arrival. -/
theorem truthful_unplanned :
    Session.unplanned.Truthful MemoryStore ∧ Session.unplanned.Truthful RecordStore ∧
      (Session.unplanned.told MemoryStore 1).length = 2 ∧
      (Session.unplanned.told RecordStore 1).length = 2 := by
  refine ⟨(notices_truthful Session.unplanned).1 Session.distinct_unplanned.admissible,
    (notices_truthful Session.unplanned).2 Session.distinct_unplanned.admissible, ?_, ?_⟩
  · decide +kernel
  · decide +kernel

end CargoTracking
