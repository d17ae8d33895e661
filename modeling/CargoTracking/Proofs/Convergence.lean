import CargoTracking.Proofs.Effects
import CargoTracking.Proofs.History
import CargoTracking.Proofs.Plan

/-!
# Inspections settle a cargo

A store may hold a delivery that does not follow from the history, or events that no inspection has
seen.  One inspection of the cargo puts this right, whatever it was, and from then on inspecting the
cargo and reporting the same event once more is without effect.
-/

namespace CargoTracking

open CargoStore Inspection

section Definitions

variable {σ : Type} [CargoStore σ]

/-- The cargo is found as it was, with the delivery that is derived from its full history. -/
structure Derived (before after : σ) (id : TrackingId) : Prop where
  found : ∀ earlier later, ∃ cargo reports time,
    find before id earlier = .ok cargo ∧ history after id = .ok reports ∧
      find after id later = .ok { cargo with
        delivery := .derive cargo.routeSpecification cargo.itinerary reports time }

/-- The operation succeeds and tells nobody, and of the cargo only the time at which its delivery
was calculated changes. -/
structure Silent (before : σ) (id : TrackingId) (outcome : Outcome σ Unit) : Prop where
  result : outcome.result = .ok ()
  notices : outcome.world.notices = []
  found : ∀ now, ∃ cargo time, find before id now = .ok cargo ∧
    find outcome.world.store id now = .ok (cargo.dated time)

/-- Nor does anything else change. -/
structure Idle (before : σ) (id : TrackingId) (outcome : Outcome σ Unit) : Prop
    extends Silent before id outcome where
  ids : trackingIds outcome.world.store = trackingIds before
  histories : ∀ other, history outcome.world.store other = history before other
  others : ∀ other, other ≠ id → ∀ now, find outcome.world.store other now = find before other now

/-- What inspections come to, however the store was left. -/
structure Converges (store : σ) : Prop where
  inspected : ∀ now id, ((inspect now id).perform store).result = .ok () →
    Derived store ((inspect now id).perform store).world.store id
  recorded : ∀ now event, ((record now event).perform store).result = .ok () →
    Derived store ((record now event).perform store).world.store event.trackingId
  /-- A further inspection, after an inspection and after a record. -/
  inspected_again : ∀ now id, ((inspect now id).perform store).result = .ok () → ∀ again,
    Idle ((inspect now id).perform store).world.store id
      ((inspect again id).perform ((inspect now id).perform store).world.store)
  recorded_inspected : ∀ now event, ((record now event).perform store).result = .ok () → ∀ again,
    Idle ((record now event).perform store).world.store event.trackingId
      ((inspect again event.trackingId).perform ((record now event).perform store).world.store)
  recorded_again : ∀ now event, event.activity.kind ≠ .notHandled →
    ((record now event).perform store).result = .ok () → ∀ again,
    Silent ((record now event).perform store).world.store event.trackingId
      ((record again event).perform ((record now event).perform store).world.store)

end Definitions

namespace Inspection

/-! ## One inspection -/

section Outcome

variable {σ : Type} [CargoStore σ] {store : σ} {now : Instant} {id : TrackingId}
  {event : Option HandlingEvent}

theorem perform_inspectAfter {cargo : Cargo} {reports : History}
    (hfind : find store id now = .ok cargo)
    (hread : history (extended store event) id = .ok reports) :
    ((inspectAfter now id event).perform store).result = .ok () ∧
      ((inspectAfter now id event).perform store).world.store =
        commit store event (cargo.deriveFrom reports now) ∧
      ((inspectAfter now id event).perform store).world.notices =
        notices cargo.delivery (cargo.deriveFrom reports now) := by
  rw [Service.perform_eq_on, inspectAfter_on]
  dsimp only
  rw [hfind]
  dsimp only
  rw [hread]
  exact ⟨rfl, rfl, List.nil_append _⟩

/-- An inspection that succeeds has found the cargo and read its history. -/
theorem exists_of_inspectAfter (h : ((inspectAfter now id event).perform store).result = .ok ()) :
    ∃ cargo reports, find store id now = .ok cargo ∧
      history (extended store event) id = .ok reports := by
  rw [Service.perform_eq_on, inspectAfter_on] at h
  dsimp only at h
  cases hfind : find store id now with
  | error e => rw [hfind] at h; cases h
  | ok cargo =>
    cases hread : history (extended store event) id with
    | error e => rw [hfind] at h; dsimp only at h; rw [hread] at h; cases h
    | ok reports => exact ⟨cargo, reports, rfl, rfl⟩

/-- Nothing is told of a delivery that has the same last event as the one before it. -/
theorem notices_eq_nil {reports reports' : History} (h : reports.last? = reports'.last?)
    (cargo : Cargo) (time time' : Instant) :
    notices (cargo.deriveFrom reports time).delivery (cargo.deriveFrom reports' time') = [] := by
  have hsame : (cargo.deriveFrom reports' time').delivery =
      { (cargo.deriveFrom reports time).delivery with calculatedAt := time' } := by
    unfold Cargo.deriveFrom Delivery.derive
    rw [h]
    rfl
  unfold notices
  rw [hsame]
  simp only [Bool.and_not_self, Bool.false_eq_true, if_false, List.append_nil]

end Outcome

/-! ## A cargo that is settled -/

/-- The cargo is found as it follows from its history. -/
def Settled {σ : Type} [CargoStore σ] (store : σ) (id : TrackingId) (cargo : Cargo)
    (reports : History) : Prop :=
  history store id = .ok reports ∧
    ∀ now, ∃ time, find store id now = .ok (cargo.deriveFrom reports time)

section Settled

variable {σ : Type} [CargoStore σ] [SteadyStore σ] {store : σ} {now : Instant} {id : TrackingId}
  {event : Option HandlingEvent} {cargo : Cargo} {reports : History}

theorem keyed_commit (hkeyed : Keyed store) (event : Option HandlingEvent) (cargo : Cargo) :
    Keyed (commit store event cargo) := (hkeyed.extended event).store cargo

theorem settled_commit (hkeyed : Keyed store) (hfind : find store id now = .ok cargo)
    (hread : history (extended store event) id = .ok reports) :
    Settled (commit store event (cargo.deriveFrom reports now)) id cargo reports := by
  refine ⟨?_, find_inspected hkeyed hfind hread⟩
  rw [commit, LawfulStore.history_store, hread]

theorem derived_inspectAfter (hkeyed : Keyed store)
    (h : ((inspectAfter now id event).perform store).result = .ok ()) :
    Derived store ((inspectAfter now id event).perform store).world.store id where
  found earlier later := by
    obtain ⟨cargo, reports, hfind, hread⟩ := exists_of_inspectAfter h
    obtain ⟨-, hstore, -⟩ := perform_inspectAfter hfind hread
    obtain ⟨hhistory, hfound⟩ := settled_commit hkeyed hfind hread
    obtain ⟨delivery, hearlier⟩ := SteadyStore.exists_find_of_find hfind earlier
    obtain ⟨time, hlater⟩ := hfound later
    rw [hstore]
    exact ⟨_, reports, time, hearlier, hhistory, hlater⟩

/-- Where the last event stays, a settled cargo stays as it is. -/
theorem silent_of_settled (hkeyed : Keyed store) (hsettled : Settled store id cargo reports)
    {reports' : History} (hread : history (extended store event) id = .ok reports')
    (hlast : reports.last? = reports'.last?) (again : Instant) :
    Silent store id ((inspectAfter again id event).perform store) := by
  obtain ⟨-, hfound⟩ := hsettled
  obtain ⟨time, hfind⟩ := hfound again
  obtain ⟨hresult, hstore, hnotices⟩ := perform_inspectAfter hfind hread
  refine ⟨hresult, ?_, fun now => ?_⟩
  · rw [hnotices]
    exact notices_eq_nil hlast cargo time again
  · obtain ⟨earlier, hbefore⟩ := hfound now
    obtain ⟨later, hafter⟩ := find_inspected hkeyed hfind hread now
    rw [hstore]
    refine ⟨_, later, hbefore, hafter.trans ?_⟩
    -- Both are derived from the same last event.
    unfold Cargo.dated Cargo.deriveFrom Delivery.derive
    rw [hlast]
    rfl

theorem idle_of_settled (hkeyed : Keyed store) (hsettled : Settled store id cargo reports)
    (again : Instant) : Idle store id ((inspect again id).perform store) := by
  have hread : history (extended store none) id = .ok reports := hsettled.1
  have hsilent : Silent store id ((inspect again id).perform store) :=
    silent_of_settled hkeyed hsettled hread rfl again
  obtain ⟨time, hfind⟩ := hsettled.2 again
  have hid := hkeyed.trackingId hfind
  have hknown := hkeyed.mem_trackingIds hfind
  obtain ⟨-, hstore, -⟩ := perform_inspectAfter hfind hread
  rw [inspect] at hsilent ⊢
  refine ⟨hsilent, ?_, fun other => ?_, fun other hother now => ?_⟩
  · rw [hstore]
    exact trackingIds_store_of_mem hknown
  · rw [hstore]
    exact LawfulStore.history_store store _ other
  · have hne : ((cargo.deriveFrom reports time).deriveFrom reports again).trackingId ≠ other :=
      fun heq => hother (heq.symm.trans hid)
    rw [hstore]
    exact LawfulStore.find_store_of_ne hne store now

theorem idle_inspectAfter (hkeyed : Keyed store)
    (h : ((inspectAfter now id event).perform store).result = .ok ()) (again : Instant) :
    Idle ((inspectAfter now id event).perform store).world.store id
      ((inspect again id).perform ((inspectAfter now id event).perform store).world.store) := by
  obtain ⟨cargo, reports, hfind, hread⟩ := exists_of_inspectAfter h
  obtain ⟨-, hstore, -⟩ := perform_inspectAfter hfind hread
  rw [hstore]
  exact idle_of_settled (keyed_commit hkeyed _ _) (settled_commit hkeyed hfind hread) again

theorem silent_record {event : HandlingEvent} (hkeyed : Keyed store)
    (hkind : event.activity.kind ≠ .notHandled)
    (h : ((record now event).perform store).result = .ok ()) (again : Instant) :
    Silent ((record now event).perform store).world.store event.trackingId
      ((record again event).perform ((record now event).perform store).world.store) := by
  obtain ⟨cargo, reports, hfind, hread⟩ := exists_of_inspectAfter h
  obtain ⟨-, hstore, -⟩ := perform_inspectAfter hfind hread
  have hsettled := settled_commit hkeyed hfind hread
  obtain ⟨before, -, hreports⟩ := SteadyStore.history_of_append hread
  rw [if_pos rfl] at hreports
  subst hreports
  -- The event is in the history twice then, and counts once.
  have hread' : history (extended (commit store (some event)
      (cargo.deriveFrom (before.append event) now)) (some event)) event.trackingId =
      .ok ((before.append event).append event) := by
    show history (append _ event) event.trackingId = _
    rw [LawfulStore.history_append hkind, if_pos rfl, hsettled.1]
    rfl
  rw [record, hstore]
  exact silent_of_settled (keyed_commit hkeyed _ _) hsettled hread'
    (History.last?_append_append before event).symm again

theorem converges (hkeyed : Keyed store) : Converges store where
  inspected _ _ h := derived_inspectAfter hkeyed h
  recorded _ _ h := derived_inspectAfter hkeyed h
  inspected_again _ _ h := idle_inspectAfter hkeyed h
  recorded_inspected _ _ h := idle_inspectAfter hkeyed h
  recorded_again _ _ hkind h := silent_record hkeyed hkind h

end Settled

end Inspection

/-- In either store, whatever it holds, an inspection and a record settle the cargo, a further
inspection changes nothing and tells nobody, and nor does a second record of the same event. -/
theorem inspection_converges :
    (∀ store : MemoryStore, Keyed store → Converges store) ∧
      ∀ store : RecordStore, Converges store :=
  ⟨fun _ => converges, fun store => converges store.keyed⟩

/-- A cargo that was stored as it was booked, and two events that no inspection has seen: it was
unloaded where it does not go, and it had been received before that. -/
def neglected : MemoryStore :=
  append (append (CargoStore.store empty (.book ⟨"3F2A9C1B"⟩ sampleSpecification (sampleDay 1)))
    (sampleEvent (.onVoyage .unload ⟨"JNTKO"⟩ ⟨"V100"⟩) 5)) (sampleEvent (.at .receive ⟨"CNHKG"⟩) 2)

/-- The first inspection tells that it went astray, and the next one tells nothing.  So it is with
its arrival, when that is recorded twice. -/
theorem converges_of_neglected :
    let id : TrackingId := ⟨"3F2A9C1B"⟩
    let arrival := sampleEvent (.onVoyage .unload ⟨"SESTO"⟩ ⟨"V200"⟩) 16
    let inspected := (inspect (sampleDay 21) id).perform neglected
    let recorded := (record (sampleDay 21) arrival).perform neglected
    Keyed neglected ∧ inspected.result = .ok () ∧ recorded.result = .ok () ∧
      inspected.world.notices.length = 1 ∧ recorded.world.notices.length = 2 ∧
      ((inspect (sampleDay 22) id).perform inspected.world.store).world.notices = [] ∧
      ((record (sampleDay 22) arrival).perform recorded.world.store).world.notices = [] := by
  intro id arrival inspected recorded
  have hkeyed : Keyed neglected := ((keyed_empty.store _).append _).append _
  have hinspected : inspected.result = .ok () := ok_of_toOption (by decide +kernel)
  have hrecorded : recorded.result = .ok () := ok_of_toOption (by decide +kernel)
  have hconverges := inspection_converges.1 neglected hkeyed
  have hidle := hconverges.inspected_again (sampleDay 21) id hinspected (sampleDay 22)
  have hkind : arrival.activity.kind ≠ .notHandled := by decide
  have hsilent := hconverges.recorded_again (sampleDay 21) arrival hkind hrecorded (sampleDay 22)
  exact ⟨hkeyed, hinspected, hrecorded, by decide +kernel, by decide +kernel, hidle.notices,
    hsilent.notices⟩

end CargoTracking
