import CargoTracking.Delivery
import CargoTracking.Network

/-!
# Following a plan

What the plan says comes after an activity, as a relation on activities.  `nextActivity?_eq_some_iff`
says that a delivery expects exactly what follows its last event; the rest of this file is about the
legs that a search by voyage and location finds.
-/

namespace CargoTracking

namespace Leg

def loadActivity (leg : Leg) : Activity := .onVoyage .load leg.loadLocation leg.voyageNumber

def unloadActivity (leg : Leg) : Activity := .onVoyage .unload leg.unloadLocation leg.voyageNumber

end Leg

/-! ## Searching for a leg -/

theorem exists_of_findIdx?_eq_some {α : Type} {p : α → Bool} {xs : List α} {i : Nat}
    (h : xs.findIdx? p = some i) : ∃ x, xs[i]? = some x ∧ p x = true := by
  obtain ⟨hi, hp, -⟩ := List.findIdx?_eq_some_iff_getElem.mp h
  exact ⟨xs[i], List.getElem?_eq_getElem hi, hp⟩

theorem exists_findIdx?_le {α : Type} {p : α → Bool} {xs : List α} {k : Nat} {x : α}
    (hx : xs[k]? = some x) (hp : p x = true) : ∃ i, i ≤ k ∧ xs.findIdx? p = some i := by
  obtain ⟨hk, rfl⟩ := List.getElem?_eq_some_iff.mp hx
  cases hfind : xs.findIdx? p with
  | none =>
    -- The search would have found position `k`.
    have := List.findIdx?_eq_none_iff.mp hfind xs[k] (List.getElem_mem hk)
    rw [hp] at this
    cases this
  | some i =>
    refine ⟨i, ?_, rfl⟩
    obtain ⟨hi, -, hbefore⟩ := List.findIdx?_eq_some_iff_getElem.mp hfind
    exact Nat.le_of_not_lt fun hlt => hbefore k hlt hp

namespace Itinerary

variable {itinerary : Itinerary} {voyage : VoyageNumber} {location : UnLocode} {i k : Nat} {leg : Leg}

theorem leg_of_loading? (h : itinerary.loading? voyage location = some i) :
    ∃ leg, itinerary.legs[i]? = some leg ∧ leg.voyageNumber = voyage ∧ leg.loadLocation = location := by
  obtain ⟨leg, hleg, hp⟩ := exists_of_findIdx?_eq_some h
  exact ⟨leg, hleg, of_decide_eq_true hp⟩

theorem leg_of_unloading? (h : itinerary.unloading? voyage location = some i) :
    ∃ leg, itinerary.legs[i]? = some leg ∧ leg.voyageNumber = voyage ∧
      leg.unloadLocation = location := by
  obtain ⟨leg, hleg, hp⟩ := exists_of_findIdx?_eq_some h
  exact ⟨leg, hleg, of_decide_eq_true hp⟩

/-- The search for the load of a leg ends at that leg or before it. -/
theorem loading?_leg (h : itinerary.legs[k]? = some leg) :
    ∃ i, i ≤ k ∧ itinerary.loading? leg.voyageNumber leg.loadLocation = some i :=
  exists_findIdx?_le h (decide_eq_true ⟨rfl, rfl⟩)

theorem unloading?_leg (h : itinerary.legs[k]? = some leg) :
    ∃ i, i ≤ k ∧ itinerary.unloading? leg.voyageNumber leg.unloadLocation = some i :=
  exists_findIdx?_le h (decide_eq_true ⟨rfl, rfl⟩)

theorem isEmpty_eq_false (h : itinerary.legs[k]? = some leg) : itinerary.isEmpty = false := by
  cases hlegs : itinerary.legs with
  | nil => simp [hlegs] at h
  | cons _ _ => rw [isEmpty, hlegs]; rfl

/-- The plan foresees the load of each of its legs. -/
theorem foresees_loadActivity (h : itinerary.legs[k]? = some leg) :
    itinerary.foresees leg.loadActivity = true := by
  obtain ⟨i, -, hi⟩ := loading?_leg h
  simp [foresees, isEmpty_eq_false h, Leg.loadActivity, Activity.onVoyage, hi]

theorem foresees_unloadActivity (h : itinerary.legs[k]? = some leg) :
    itinerary.foresees leg.unloadActivity = true := by
  obtain ⟨i, -, hi⟩ := unloading?_leg h
  simp [foresees, isEmpty_eq_false h, Leg.unloadActivity, Activity.onVoyage, hi]

theorem satisfies_iff {spec : RouteSpecification} : itinerary.satisfies spec = true ↔
    ∃ first last, itinerary.legs.head? = some first ∧ itinerary.legs.getLast? = some last ∧
      first.loadLocation = spec.origin ∧ last.unloadLocation = spec.destination ∧
      ∀ deadline ∈ spec.arrivalDeadline, last.unloadTime ≤ deadline := by
  unfold satisfies
  constructor
  · intro h
    split at h
    case h_1 first last hfirst hlast =>
      simp only [Bool.and_eq_true, decide_eq_true_eq, Option.all_eq_true] at h
      exact ⟨first, last, hfirst, hlast, h.1.1, h.1.2, h.2⟩
    case h_2 => cases h
  · rintro ⟨first, last, hfirst, hlast, horigin, hdestination, hdeadline⟩
    rw [hfirst, hlast]
    simp only [Bool.and_eq_true, decide_eq_true_eq, Option.all_eq_true]
    exact ⟨⟨horigin, hdestination⟩, hdeadline⟩

/-- A plan that satisfies a specification has a first leg from its origin and a last leg to its
destination. -/
theorem ends_of_satisfies {spec : RouteSpecification} (h : itinerary.satisfies spec = true) :
    (∃ leg, itinerary.legs.head? = some leg ∧ leg.loadLocation = spec.origin) ∧
      ∃ leg, itinerary.legs.getLast? = some leg ∧ leg.unloadLocation = spec.destination := by
  obtain ⟨first, last, hfirst, hlast, horigin, hdestination, -⟩ := satisfies_iff.1 h
  exact ⟨⟨first, hfirst, horigin⟩, ⟨last, hlast, hdestination⟩⟩

theorem isEmpty_of_satisfies {spec : RouteSpecification} (h : itinerary.satisfies spec = true) :
    itinerary.isEmpty = false := by
  obtain ⟨⟨leg, hleg, -⟩, -⟩ := ends_of_satisfies h
  rw [List.head?_eq_getElem?] at hleg
  exact isEmpty_eq_false hleg

theorem foresees_receive {spec : RouteSpecification} (h : itinerary.satisfies spec = true) :
    itinerary.foresees (.at .receive spec.origin) = true := by
  obtain ⟨⟨leg, hleg, horigin⟩, -⟩ := ends_of_satisfies h
  simp [foresees, isEmpty_of_satisfies h, Activity.at, initialDeparture?, hleg, horigin]

theorem foresees_claim {spec : RouteSpecification} (h : itinerary.satisfies spec = true) :
    itinerary.foresees (.at .claim spec.destination) = true := by
  obtain ⟨-, ⟨leg, hleg, hdestination⟩⟩ := ends_of_satisfies h
  simp [foresees, isEmpty_of_satisfies h, Activity.at, finalArrival?, hleg, hdestination]

/-- The leg after which there is none leads to the destination. -/
theorem unloadLocation_of_last {spec : RouteSpecification} (h : itinerary.satisfies spec = true)
    (hleg : itinerary.legs[i]? = some leg) (hnext : itinerary.legs[i + 1]? = none) :
    leg.unloadLocation = spec.destination := by
  obtain ⟨-, ⟨last, hlast, hdestination⟩⟩ := ends_of_satisfies h
  have hi := (List.getElem?_eq_some_iff.mp hleg).1
  -- Position `i` is taken and the next one is not, so this is the end of the legs.
  have hlength : itinerary.legs.length = i + 1 := by
    have := List.getElem?_eq_none_iff.mp hnext
    omega
  rw [List.getLast?_eq_getElem?, hlength, Nat.add_sub_cancel, hleg] at hlast
  cases hlast
  exact hdestination

end Itinerary

namespace RoutingStatus

variable {spec : RouteSpecification} {itinerary : Itinerary}

theorem of_eq_notRouted_iff : of spec itinerary = .notRouted ↔ itinerary.isEmpty = true := by
  unfold of
  split
  · simp only [*]
  · split <;> simp only [reduceCtorEq, *]

theorem of_eq_routed_iff : of spec itinerary = .routed ↔ itinerary.satisfies spec = true := by
  unfold of
  constructor
  · intro h
    split at h
    · cases h
    · split at h
      · assumption
      · cases h
  · intro h
    rw [Itinerary.isEmpty_of_satisfies h, if_neg Bool.false_ne_true, if_pos h]

end RoutingStatus

/-! ## What follows an activity -/

/-- The plan says that this activity comes after that one, or at first. -/
inductive Follows (spec : RouteSpecification) (itinerary : Itinerary) : Option Activity → Activity → Prop
  | receive : Follows spec itinerary none (.at .receive spec.origin)
  -- Wherever the cargo was received.
  | firstLoad {activity : Activity} {leg : Leg} (kind : activity.kind = .receive)
      (first : itinerary.legs[0]? = some leg) :
      Follows spec itinerary (some activity) leg.loadActivity
  -- Leg `i` is the one that the search finds, and need not be the one that was meant.
  | unload {activity : Activity} {voyage : VoyageNumber} {i : Nat} {leg : Leg}
      (kind : activity.kind = .load) (onVoyage : activity.voyageNumber = some voyage)
      (found : itinerary.loading? voyage activity.location = some i)
      (here : itinerary.legs[i]? = some leg) :
      Follows spec itinerary (some activity) leg.unloadActivity
  | nextLoad {activity : Activity} {voyage : VoyageNumber} {i : Nat} {leg : Leg}
      (kind : activity.kind = .unload) (onVoyage : activity.voyageNumber = some voyage)
      (found : itinerary.unloading? voyage activity.location = some i)
      (next : itinerary.legs[i + 1]? = some leg) :
      Follows spec itinerary (some activity) leg.loadActivity
  -- Where the last leg ends, whatever the specification says.
  | claim {activity : Activity} {voyage : VoyageNumber} {i : Nat} {leg : Leg}
      (kind : activity.kind = .unload) (onVoyage : activity.voyageNumber = some voyage)
      (found : itinerary.unloading? voyage activity.location = some i)
      (here : itinerary.legs[i]? = some leg) (last : itinerary.legs[i + 1]? = none) :
      Follows spec itinerary (some activity) (.at .claim leg.unloadLocation)

namespace Delivery

variable {spec : RouteSpecification} {itinerary : Itinerary}

theorem follows_of_nextActivity? {last : Option HandlingEvent} {next : Activity}
    (h : nextActivity? spec itinerary last = some next) :
    Follows spec itinerary (last.map (·.activity)) next := by
  cases last with
  | none =>
    cases h
    exact .receive
  | some event =>
    simp only [nextActivity?] at h
    split at h
    case h_1 hkind =>
      rw [List.head?_eq_getElem?] at h
      obtain ⟨leg, hleg, rfl⟩ := Option.map_eq_some_iff.mp h
      exact .firstLoad hkind hleg
    case h_2 hkind =>
      simp only [Option.bind_eq_bind, Option.bind_eq_some_iff, Option.pure_def,
        Option.some.injEq] at h
      obtain ⟨voyage, hvoyage, i, hi, leg, hleg, rfl⟩ := h
      exact .unload hkind hvoyage hi hleg
    case h_3 hkind =>
      simp only [Option.bind_eq_bind, Option.bind_eq_some_iff] at h
      obtain ⟨voyage, hvoyage, i, hi, h⟩ := h
      split at h
      case h_1 leg hnext =>
        cases h
        exact .nextLoad hkind hvoyage hi hnext
      case h_2 hnone =>
        obtain ⟨leg, hleg, h⟩ := Option.bind_eq_some_iff.mp h
        cases h
        exact .claim hkind hvoyage hi hleg hnone
    -- Nothing is expected after the other kinds.
    all_goals cases h

theorem nextActivity?_of_follows {last : Option HandlingEvent} {next : Activity}
    (h : Follows spec itinerary (last.map (·.activity)) next) :
    nextActivity? spec itinerary last = some next := by
  cases last with
  | none =>
    cases h
    rfl
  | some event =>
    cases h with
    | firstLoad hkind hfirst =>
      simp [nextActivity?, hkind, List.head?_eq_getElem?, hfirst, Leg.loadActivity]
    | unload hkind hvoyage hfound hhere =>
      simp [nextActivity?, hkind, hvoyage, hfound, hhere, Leg.unloadActivity]
    | nextLoad hkind hvoyage hfound hnext =>
      simp [nextActivity?, hkind, hvoyage, hfound, hnext, Leg.loadActivity]
    | claim hkind hvoyage hfound hhere hlast =>
      simp [nextActivity?, hkind, hvoyage, hfound, hhere, hlast]

/-- What is expected after an event is what the plan says comes after its activity. -/
theorem nextActivity?_eq_some_iff {last : Option HandlingEvent} {next : Activity} :
    nextActivity? spec itinerary last = some next ↔
      Follows spec itinerary (last.map (·.activity)) next :=
  ⟨follows_of_nextActivity?, nextActivity?_of_follows⟩

end Delivery

/-! ## A sample plan -/

/-- Midnight of a day counted from 2009-03-01, in the 64 days of the sample schedules. -/
def sampleDay (n : Nat) : Instant := march2009 ⟨n % 64, Nat.mod_lt n (by decide)⟩

def sampleSpecification : RouteSpecification := ⟨⟨"CNHKG"⟩, ⟨"SESTO"⟩, some (sampleDay 18)⟩

def sampleItinerary : Itinerary where
  legs :=
    [⟨⟨"V100"⟩, ⟨"CNHKG"⟩, ⟨"USNYC"⟩, sampleDay 3, sampleDay 9⟩,
      ⟨⟨"V200"⟩, ⟨"USNYC"⟩, ⟨"SESTO"⟩, sampleDay 10, sampleDay 16⟩]

def sampleEvent (activity : Activity) (day : Nat) : HandlingEvent :=
  ⟨⟨"3F2A9C1B"⟩, activity, sampleDay 20, sampleDay day⟩

end CargoTracking
