import CargoTracking.Proofs.History
import CargoTracking.Proofs.Plan

/-!
# The prediction and the plan

A delivery predicts the next activity, and the plan judges the activities that are reported.  The
two rules are written apart; `prediction_agrees_with_plan` says that on track they never contradict
each other.
-/

namespace CargoTracking

namespace Itinerary

/-- Whatever follows an activity is foreseen, for a plan that satisfies the specification. -/
theorem foresees_of_follows {spec : RouteSpecification} {itinerary : Itinerary}
    {last : Option Activity} {next : Activity} (hplan : itinerary.satisfies spec = true)
    (h : Follows spec itinerary last next) : itinerary.foresees next = true := by
  cases h with
  | receive => exact foresees_receive hplan
  | firstLoad _ hfirst => exact foresees_loadActivity hfirst
  | unload _ _ _ hhere => exact foresees_unloadActivity hhere
  | nextLoad _ _ _ hnext => exact foresees_loadActivity hnext
  | claim _ _ _ hhere hlast =>
    -- Only here does it matter that the plan leads to the destination.
    rw [unloadLocation_of_last hplan hhere hlast]
    exact foresees_claim hplan

/-- Something follows every activity that is foreseen, except for the three kinds after which a
plan says nothing. -/
theorem exists_follows {spec : RouteSpecification} {itinerary : Itinerary} {activity : Activity}
    (hplan : itinerary.satisfies spec = true) (h : itinerary.foresees activity = true)
    (hkind : activity.kind ≠ .customs ∧ activity.kind ≠ .claim ∧ activity.kind ≠ .notHandled) :
    ∃ next, Follows spec itinerary (some activity) next := by
  simp only [foresees, Bool.and_eq_true] at h
  obtain ⟨-, h⟩ := h
  split at h
  case h_1 hreceive =>
    -- A plan that satisfies a specification has a first leg.
    obtain ⟨⟨leg, hleg, -⟩, -⟩ := ends_of_satisfies hplan
    rw [List.head?_eq_getElem?] at hleg
    exact ⟨_, .firstLoad hreceive hleg⟩
  case h_2 hload =>
    -- The plan judges by the same search as the prediction, so the leg is found again.
    obtain ⟨voyage, hvoyage, hfound⟩ := (Option.any_eq_true _ _).mp h
    obtain ⟨i, hi⟩ := Option.isSome_iff_exists.mp hfound
    obtain ⟨leg, hleg, -⟩ := leg_of_loading? hi
    exact ⟨_, .unload hload hvoyage hi hleg⟩
  case h_3 hunload =>
    obtain ⟨voyage, hvoyage, hfound⟩ := (Option.any_eq_true _ _).mp h
    obtain ⟨i, hi⟩ := Option.isSome_iff_exists.mp hfound
    obtain ⟨leg, hleg, -⟩ := leg_of_unloading? hi
    cases hnext : itinerary.legs[i + 1]? with
    | some next => exact ⟨_, .nextLoad hunload hvoyage hi hnext⟩
    | none => exact ⟨_, .claim hunload hvoyage hi hleg hnext⟩
  case h_4 hclaim => exact absurd hclaim hkind.2.1
  case h_5 hcustoms => exact absurd hcustoms hkind.1
  case h_6 hnothing => exact absurd hnothing hkind.2.2

end Itinerary

namespace Delivery

variable {spec : RouteSpecification} {itinerary : Itinerary} {history : History}
  {last : Option HandlingEvent} {event : HandlingEvent} {activity : Activity}

theorem onTrack_iff : onTrack spec itinerary last = true ↔
    itinerary.satisfies spec = true ∧ ∀ event, last = some event → itinerary.isExpected event = true := by
  simp only [onTrack, Bool.and_eq_true, decide_eq_true_eq, RoutingStatus.of_eq_routed_iff]
  -- With no event there is nothing to be expected, and both sides ask for the routing alone.
  cases last <;> simp

theorem isOnTrack_derive (now : Instant) :
    (derive spec itinerary history now).isOnTrack = onTrack spec itinerary history.last? :=
  isOnTrack_ofLastEvent spec itinerary history.last? now

theorem nextExpectedActivity_derive (now : Instant) :
    (derive spec itinerary history now).nextExpectedActivity =
      if onTrack spec itinerary history.last? then nextActivity? spec itinerary history.last?
      else none := rfl

/-- Reporting what the plan says comes next keeps the cargo on track. -/
theorem onTrack_append_of_follows (hplan : itinerary.satisfies spec = true)
    (h : Follows spec itinerary (history.last?.map (·.activity)) event.activity)
    (hlate : ∀ e ∈ history.events, e.completedAt ≤ event.completedAt) :
    onTrack spec itinerary (history.append event).last? = true := by
  rw [History.last?_append_of_le hlate, onTrack_iff]
  refine ⟨hplan, ?_⟩
  rintro _ ⟨⟩
  exact Itinerary.foresees_of_follows hplan h

theorem nextActivity?_eq_none_iff (h : onTrack spec itinerary last = true) :
    nextActivity? spec itinerary last = none ↔ ∃ event, last = some event ∧
      (event.activity.kind = .customs ∨ event.activity.kind = .claim ∨
        event.activity.kind = .notHandled) := by
  obtain ⟨hplan, hexpected⟩ := onTrack_iff.mp h
  constructor
  · intro hnone
    cases last with
    | none =>
      -- Of a cargo that was never handled the receipt is expected.
      cases hnone
    | some event =>
      refine ⟨event, rfl, ?_⟩
      apply Decidable.byContradiction
      intro hkind
      -- Something follows any other kind, so the early ends of the prediction are not reached.
      simp only [not_or] at hkind
      obtain ⟨next, hnext⟩ := Itinerary.exists_follows hplan (hexpected event rfl) hkind
      have hsome : nextActivity? spec itinerary (some event) = some next :=
        nextActivity?_of_follows hnext
      rw [hnone] at hsome
      cases hsome
  · rintro ⟨event, rfl, hkind | hkind | hkind⟩ <;> simp [nextActivity?, hkind]

/-- A claim follows only the unload of a leg that is the last one. -/
theorem unloaded_of_follows_claim (hplan : itinerary.satisfies spec = true)
    (h : Follows spec itinerary (last.map (·.activity)) activity) (hclaim : activity.kind = .claim) :
    (∃ event, last = some event ∧ event.activity.kind = .unload ∧
      event.activity.location = spec.destination) ∧ activity.location = spec.destination := by
  cases last with
  | none =>
    cases h
    cases hclaim
  | some event =>
    cases h with
    | firstLoad | unload | nextLoad => cases hclaim
    | claim hkind hvoyage hfound hhere hlast =>
      -- The leg that was found is unloaded where the event was, and it is the last one.
      obtain ⟨leg, hleg, -, hlocation⟩ := Itinerary.leg_of_unloading? hfound
      rw [hhere] at hleg
      cases hleg
      have hdestination := Itinerary.unloadLocation_of_last hplan hhere hlast
      exact ⟨⟨event, rfl, hkind, hlocation.symm.trans hdestination⟩, hdestination⟩

/-- On track, nothing is expected exactly after customs, a claim or no handling at all; what is
expected keeps the cargo on track when it is reported in time; and a claim is expected only of a
cargo that is unloaded at the destination, and there.  Off track nothing is expected. -/
theorem prediction_agrees_with_plan (spec : RouteSpecification) (itinerary : Itinerary)
    (history : History) (now : Instant) :
    let delivery := derive spec itinerary history now
    (delivery.isOnTrack = true →
      (delivery.nextExpectedActivity = none ↔ ∃ event, history.last? = some event ∧
        (event.activity.kind = .customs ∨ event.activity.kind = .claim ∨
          event.activity.kind = .notHandled)) ∧
      ∀ activity, delivery.nextExpectedActivity = some activity →
        (∀ event : HandlingEvent, event.activity = activity →
          (∀ e ∈ history.events, e.completedAt ≤ event.completedAt) →
          ∀ later, (derive spec itinerary (history.append event) later).isOnTrack = true) ∧
        (activity.kind = .claim →
          delivery.isUnloadedAtDestination = true ∧ activity.location = spec.destination)) ∧
    (delivery.isOnTrack = false → delivery.nextExpectedActivity = none) := by
  intro delivery
  rw [isOnTrack_derive, nextExpectedActivity_derive]
  refine ⟨fun htrack => ?_, fun htrack => if_neg (by simp [htrack])⟩
  obtain ⟨hplan, -⟩ := onTrack_iff.mp htrack
  rw [if_pos htrack]
  refine ⟨nextActivity?_eq_none_iff htrack, fun activity hnext => ?_⟩
  have hfollows := follows_of_nextActivity? hnext
  refine ⟨?_, fun hclaim => ?_⟩
  · -- Reporting it keeps the cargo on track.
    rintro event rfl hlate later
    rw [isOnTrack_derive]
    exact onTrack_append_of_follows hplan hfollows hlate
  · -- A claim comes after the last unload.
    obtain ⟨⟨event, hlast, hunload, hlocation⟩, hdestination⟩ :=
      unloaded_of_follows_claim hplan hfollows hclaim
    refine ⟨?_, hdestination⟩
    simp [delivery, derive, ofLastEvent, hlast, hunload, hlocation]

theorem prediction_along_samplePlan :
    let delivery := fun events =>
      derive sampleSpecification sampleItinerary ⟨events⟩ (sampleDay 20)
    let received := sampleEvent (.at .receive ⟨"CNHKG"⟩) 1
    let loaded := sampleEvent (.onVoyage .load ⟨"CNHKG"⟩ ⟨"V100"⟩) 3
    let unloaded := sampleEvent (.onVoyage .unload ⟨"SESTO"⟩ ⟨"V200"⟩) 16
    let claimed := sampleEvent (.at .claim ⟨"SESTO"⟩) 17
    let lost := sampleEvent (.onVoyage .unload ⟨"JNTKO"⟩ ⟨"V100"⟩) 5
    ((delivery [received]).isOnTrack = true ∧
      (delivery [received]).nextExpectedActivity = some loaded.activity ∧
      (delivery [received, loaded]).isOnTrack = true) ∧
    ((delivery [unloaded]).isOnTrack = true ∧
      (delivery [unloaded]).nextExpectedActivity = some claimed.activity ∧
      (delivery [unloaded]).isUnloadedAtDestination = true) ∧
    ((delivery [claimed]).isOnTrack = true ∧ (delivery [claimed]).nextExpectedActivity = none) ∧
    ((delivery [lost]).isOnTrack = false ∧ (delivery [lost]).nextExpectedActivity = none) := by
  intro delivery received loaded unloaded claimed lost
  have hreceived : (delivery [received]).isOnTrack = true := by decide
  have hload : (delivery [received]).nextExpectedActivity = some loaded.activity := by decide
  have hunloaded : (delivery [unloaded]).isOnTrack = true := by decide
  have hclaim : (delivery [unloaded]).nextExpectedActivity = some claimed.activity := by decide
  have hclaimed : (delivery [claimed]).isOnTrack = true := by decide
  have hlost : (delivery [lost]).isOnTrack = false := by decide
  have agrees := fun event : HandlingEvent =>
    prediction_agrees_with_plan sampleSpecification sampleItinerary ⟨[event]⟩ (sampleDay 20)
  refine ⟨⟨hreceived, hload, ?_⟩, ⟨hunloaded, hclaim, ?_⟩, ⟨hclaimed, ?_⟩, ⟨hlost, ?_⟩⟩
  · exact (((agrees received).1 hreceived).2 _ hload).1 loaded rfl (by decide) (sampleDay 20)
  · exact (((agrees unloaded).1 hunloaded).2 _ hclaim).2 rfl |>.1
  · exact ((agrees claimed).1 hclaimed).1.mpr ⟨claimed, rfl, .inr (.inl rfl)⟩
  · exact (agrees lost).2 hlost

end Delivery

end CargoTracking
