import CargoTracking.Proofs.Prediction

/-!
# Walking the plan

A cargo that is handled exactly as its delivery expects walks along its plan.  The walk stays on
track (`onTrack_walk`); it comes to the claim, and then has made every step of the plan once, if no
voyage is loaded twice at one place and none is unloaded twice at one place, and otherwise it goes
round for ever, since a leg is found again by its voyage and place alone.
-/

namespace CargoTracking

/-- The steps of a plan from the receipt to the claim. -/
def Itinerary.steps (itinerary : Itinerary) (spec : RouteSpecification) : List Activity :=
  .at .receive spec.origin ::
    (itinerary.legs.flatMap fun leg => [leg.loadActivity, leg.unloadActivity]) ++
      [.at .claim spec.destination]

/-- No two legs load onto the same voyage at the same place. -/
def Itinerary.LoadsApart (itinerary : Itinerary) : Prop :=
  (itinerary.legs.map fun leg => (leg.voyageNumber, leg.loadLocation)).Nodup

/-- No two legs unload off the same voyage at the same place. -/
def Itinerary.UnloadsApart (itinerary : Itinerary) : Prop :=
  (itinerary.legs.map fun leg => (leg.voyageNumber, leg.unloadLocation)).Nodup

instance (itinerary : Itinerary) : Decidable itinerary.LoadsApart :=
  inferInstanceAs (Decidable (List.Nodup _))

instance (itinerary : Itinerary) : Decidable itinerary.UnloadsApart :=
  inferInstanceAs (Decidable (List.Nodup _))

/-- What a report tells besides the activity, and the time at which the delivery is looked up that
expects the activity. -/
structure Occasion where
  trackingId : TrackingId
  registeredAt : Instant
  completedAt : Instant
  lookedUpAt : Instant

/-- What is expected of a cargo with the given history, if anything is. -/
def expected? (spec : RouteSpecification) (itinerary : Itinerary) (history : History)
    (now : Instant) : Option Activity :=
  (Delivery.derive spec itinerary history now).nextExpectedActivity

/-- The history after what is expected has been done so many times.  When nothing is expected any
more, it stays as it is. -/
def walk (spec : RouteSpecification) (itinerary : Itinerary) (occasions : Nat → Occasion) :
    Nat → History
  | 0 => .empty
  | n + 1 =>
    let history := walk spec itinerary occasions n
    let occasion := occasions n
    match expected? spec itinerary history occasion.lookedUpAt with
    | some activity =>
      history.append ⟨occasion.trackingId, activity, occasion.registeredAt, occasion.completedAt⟩
    | none => history

/-! ## Positions in a list -/

theorem eq_of_nodup_map {α β : Type} {key : α → β} {xs : List α} {i j : Nat} {x y : α}
    (h : (xs.map key).Nodup) (hi : xs[i]? = some x) (hj : xs[j]? = some y) (hkey : key x = key y) :
    i = j := by
  have hlt : i < (xs.map key).length := by
    rw [List.length_map]
    exact (List.getElem?_eq_some_iff.mp hi).1
  apply (List.getElem?_inj hlt h).mp
  rw [List.getElem?_map, List.getElem?_map, hi, hj, Option.map_some, Option.map_some, hkey]

theorem exists_lt_of_not_nodup_map {α β : Type} {key : α → β} {xs : List α}
    (h : ¬ (xs.map key).Nodup) :
    ∃ (i k : Nat) (x y : α), i < k ∧ xs[i]? = some x ∧ xs[k]? = some y ∧ key x = key y := by
  rw [List.nodup_iff_pairwise_ne, List.pairwise_map, List.pairwise_iff_getElem] at h
  simp only [Classical.not_forall, Classical.not_not] at h
  obtain ⟨i, k, hi, hk, hik, hkey⟩ := h
  exact ⟨i, k, xs[i], xs[k], hik, List.getElem?_eq_getElem hi, List.getElem?_eq_getElem hk, hkey⟩

theorem getElem?_flatMap_two {α β : Type} (f g : α → β) (xs : List α) (i : Nat) :
    (xs.flatMap fun x => [f x, g x])[2 * i]? = xs[i]?.map f ∧
      (xs.flatMap fun x => [f x, g x])[2 * i + 1]? = xs[i]?.map g := by
  induction xs generalizing i with
  | nil => simp
  | cons x xs ih =>
    cases i with
    | zero => simp
    | succ i =>
      -- The two elements of `x` are skipped.
      rw [show 2 * (i + 1) = 2 * i + 1 + 1 by omega]
      simpa [List.flatMap_cons] using ih i

/-! ## Positions in the plan -/

namespace Itinerary

variable {spec : RouteSpecification} {itinerary : Itinerary} {i : Nat} {leg : Leg}

theorem length_steps (spec : RouteSpecification) (itinerary : Itinerary) :
    (itinerary.steps spec).length = 2 * itinerary.legs.length + 2 := by
  have : (itinerary.legs.flatMap fun leg => [leg.loadActivity, leg.unloadActivity]).length =
      2 * itinerary.legs.length := by
    induction itinerary.legs with
    | nil => rfl
    | cons leg legs ih => rw [List.flatMap_cons, List.length_append, ih]; simp; omega
  simp [steps, this]

theorem load_step (h : itinerary.legs[i]? = some leg) :
    (itinerary.steps spec)[2 * i + 1]? = some leg.loadActivity := by
  have hstep := (getElem?_flatMap_two Leg.loadActivity Leg.unloadActivity itinerary.legs i).1
  rw [h, Option.map_some] at hstep
  have hlt := (List.getElem?_eq_some_iff.mp hstep).1
  rw [steps, List.cons_append, List.getElem?_cons_succ, List.getElem?_append_left hlt, hstep]

theorem unload_step (h : itinerary.legs[i]? = some leg) :
    (itinerary.steps spec)[2 * i + 2]? = some leg.unloadActivity := by
  have hstep := (getElem?_flatMap_two Leg.loadActivity Leg.unloadActivity itinerary.legs i).2
  rw [h, Option.map_some] at hstep
  have hlt := (List.getElem?_eq_some_iff.mp hstep).1
  rw [steps, List.cons_append, List.getElem?_cons_succ, List.getElem?_append_left hlt, hstep]

theorem claim_step :
    (itinerary.steps spec)[2 * itinerary.legs.length + 1]? = some (.at .claim spec.destination) := by
  have hlength := length_steps spec itinerary
  simp only [steps, List.length_append, List.length_singleton] at hlength
  rw [steps, List.getElem?_append_right (by omega), Nat.sub_eq_zero_of_le (by omega)]
  rfl

/-- A step of the plan is the receipt, the load or the unload of a leg, or the claim. -/
theorem step_cases {k : Nat} {activity : Activity} (h : (itinerary.steps spec)[k]? = some activity) :
    (k = 0 ∧ activity = .at .receive spec.origin) ∨
    (∃ i leg, k = 2 * i + 1 ∧ itinerary.legs[i]? = some leg ∧ activity = leg.loadActivity) ∨
    (∃ i leg, k = 2 * i + 2 ∧ itinerary.legs[i]? = some leg ∧ activity = leg.unloadActivity) ∨
    (k = 2 * itinerary.legs.length + 1 ∧ activity = .at .claim spec.destination) := by
  have hk := (List.getElem?_eq_some_iff.mp h).1
  rw [length_steps] at hk
  -- Loads stand at odd positions and unloads at even ones; the claim stands where one more load
  -- would.
  obtain rfl | ⟨i, rfl | rfl⟩ : k = 0 ∨ ∃ i, k = 2 * i + 1 ∨ k = 2 * i + 2 := by
    by_cases hzero : k = 0
    · exact .inl hzero
    · exact .inr ⟨(k - 1) / 2, by omega⟩
  · cases h
    exact .inl ⟨rfl, rfl⟩
  · by_cases hi : i < itinerary.legs.length
    · have hleg := List.getElem?_eq_getElem hi
      rw [load_step hleg] at h
      cases h
      exact .inr (.inl ⟨i, _, rfl, hleg, rfl⟩)
    · obtain rfl : i = itinerary.legs.length := by omega
      rw [claim_step] at h
      cases h
      exact .inr (.inr (.inr ⟨rfl, rfl⟩))
  · have hleg := List.getElem?_eq_getElem (show i < itinerary.legs.length by omega)
    rw [unload_step hleg] at h
    cases h
    exact .inr (.inr (.inl ⟨i, _, rfl, hleg, rfl⟩))

/-! ## Legs that are found again -/

theorem loading?_of_loadsApart (hapart : itinerary.LoadsApart)
    (hleg : itinerary.legs[i]? = some leg) :
    itinerary.loading? leg.voyageNumber leg.loadLocation = some i := by
  obtain ⟨j, -, hj⟩ := loading?_leg hleg
  obtain ⟨found, hfound, hvoyage, hlocation⟩ := leg_of_loading? hj
  rw [hj, eq_of_nodup_map hapart hfound hleg (by rw [hvoyage, hlocation])]

theorem unloading?_of_unloadsApart (hapart : itinerary.UnloadsApart)
    (hleg : itinerary.legs[i]? = some leg) :
    itinerary.unloading? leg.voyageNumber leg.unloadLocation = some i := by
  obtain ⟨j, -, hj⟩ := unloading?_leg hleg
  obtain ⟨found, hfound, hvoyage, hlocation⟩ := leg_of_unloading? hj
  rw [hj, eq_of_nodup_map hapart hfound hleg (by rw [hvoyage, hlocation])]

/-- Each step of a plan whose loads and unloads are apart is followed by the next one. -/
theorem follows_step (hplan : itinerary.satisfies spec = true) (hloads : itinerary.LoadsApart)
    (hunloads : itinerary.UnloadsApart) {k : Nat} {activity next : Activity}
    (h : (itinerary.steps spec)[k]? = some activity)
    (hnext : (itinerary.steps spec)[k + 1]? = some next) :
    Follows spec itinerary (some activity) next := by
  rcases step_cases h with ⟨rfl, rfl⟩ | ⟨i, leg, rfl, hleg, rfl⟩ | ⟨i, leg, rfl, hleg, rfl⟩ | ⟨rfl, -⟩
  · -- After the receipt, the first load.
    obtain ⟨⟨leg, hleg, -⟩, -⟩ := ends_of_satisfies hplan
    rw [List.head?_eq_getElem?] at hleg
    rw [load_step hleg] at hnext
    cases hnext
    exact .firstLoad rfl hleg
  · -- After a load, the unload of the same leg, which is the one that is found.
    rw [unload_step hleg] at hnext
    cases hnext
    exact .unload rfl rfl (loading?_of_loadsApart hloads hleg) hleg
  · -- After an unload, the load of the next leg, or the claim if there is none.
    have hfound := unloading?_of_unloadsApart hunloads hleg
    have hi := (List.getElem?_eq_some_iff.mp hleg).1
    rw [show 2 * i + 2 + 1 = 2 * (i + 1) + 1 by omega] at hnext
    by_cases hlast : i + 1 < itinerary.legs.length
    · have hleg' := List.getElem?_eq_getElem hlast
      rw [load_step hleg'] at hnext
      cases hnext
      exact .nextLoad rfl rfl hfound hleg'
    · have hnone := List.getElem?_eq_none (Nat.le_of_not_lt hlast)
      rw [show i + 1 = itinerary.legs.length by omega, claim_step] at hnext
      cases hnext
      rw [← unloadLocation_of_last hplan hleg hnone]
      exact .claim rfl rfl hfound hleg hnone
  · -- Nothing comes after the claim.
    have hlength := length_steps spec itinerary
    rw [List.getElem?_eq_none (by omega)] at hnext
    cases hnext

/-- From the load of leg `k` the searches for its load and then for an unload lead to a leg in front
of it. -/
def TurnsBack (itinerary : Itinerary) (k : Nat) : Prop :=
  ∃ leg i found j, itinerary.legs[k]? = some leg ∧
    itinerary.loading? leg.voyageNumber leg.loadLocation = some i ∧ itinerary.legs[i]? = some found ∧
    itinerary.unloading? found.voyageNumber found.unloadLocation = some j ∧ j < k

theorem exists_turnsBack (h : ¬ (itinerary.LoadsApart ∧ itinerary.UnloadsApart)) :
    ∃ k, itinerary.TurnsBack k := by
  by_cases hloads : itinerary.LoadsApart
  · -- The load finds its own leg, and the unload an earlier one.
    obtain ⟨i, k, x, y, hik, hx, hy, hsame⟩ :=
      exists_lt_of_not_nodup_map fun hunloads => h ⟨hloads, hunloads⟩
    obtain ⟨j, hj, hunloading⟩ := unloading?_leg hx
    obtain ⟨hvoyage, hlocation⟩ := Prod.mk.inj hsame
    rw [hvoyage, hlocation] at hunloading
    exact ⟨k, y, k, y, j, hy, loading?_of_loadsApart hloads hy, hy, hunloading, by omega⟩
  · -- Already the load finds an earlier leg.
    obtain ⟨i, k, x, y, hik, hx, hy, hsame⟩ := exists_lt_of_not_nodup_map hloads
    obtain ⟨j, hj, hloading⟩ := loading?_leg hx
    obtain ⟨hvoyage, hlocation⟩ := Prod.mk.inj hsame
    rw [hvoyage, hlocation] at hloading
    obtain ⟨found, hfound, -⟩ := leg_of_loading? hloading
    obtain ⟨j', hj', hunloading⟩ := unloading?_leg hfound
    exact ⟨k, y, j, found, j', hy, hloading, hfound, hunloading, by omega⟩

/-- The activities that a walk does not get beyond once the plan turns back at leg `k`. -/
inductive Trapped (itinerary : Itinerary) (k : Nat) : Option Activity → Prop
  | start : Trapped itinerary k none
  | received {activity : Activity} (kind : activity.kind = .receive) :
      Trapped itinerary k (some activity)
  | loaded {i : Nat} {leg : Leg} (here : itinerary.legs[i]? = some leg) (notBeyond : i ≤ k) :
      Trapped itinerary k (some leg.loadActivity)
  | unloaded {i : Nat} {leg : Leg}
      (found : itinerary.unloading? leg.voyageNumber leg.unloadLocation = some i)
      (before : i < k) : Trapped itinerary k (some leg.unloadActivity)

theorem exists_follows_of_trapped (spec : RouteSpecification) {k : Nat} {last : Option Activity}
    (hback : itinerary.TurnsBack k) (h : Trapped itinerary k last) :
    ∃ next, Follows spec itinerary last next ∧ Trapped itinerary k (some next) := by
  obtain ⟨turn, i', found', j', hturn, hi', hfound', hj', hj'k⟩ := hback
  have hk := (List.getElem?_eq_some_iff.mp hturn).1
  cases h with
  | start => exact ⟨_, .receive, .received rfl⟩
  | received hkind =>
    -- There is a first leg, since there is leg `k`.
    have hfirst := List.getElem?_eq_getElem (show 0 < itinerary.legs.length by omega)
    exact ⟨_, .firstLoad hkind hfirst, .loaded hfirst (Nat.zero_le k)⟩
  | @loaded i leg hhere hik =>
    obtain ⟨m, hm, hloading⟩ := loading?_leg hhere
    obtain ⟨found, hfound, -⟩ := leg_of_loading? hloading
    obtain ⟨j, hj, hunloading⟩ := unloading?_leg hfound
    refine ⟨_, .unload rfl rfl hloading hfound, .unloaded hunloading ?_⟩
    -- No search leads forward, so from a leg in front of `k` the walk stays there; from leg `k`
    -- itself it is turned back.
    by_cases hlast : i = k
    · subst hlast
      rw [hturn] at hhere
      cases hhere
      rw [hi'] at hloading
      cases hloading
      rw [hfound'] at hfound
      cases hfound
      rw [hj'] at hunloading
      cases hunloading
      exact hj'k
    · omega
  | @unloaded i leg hfound hik =>
    -- The leg that was found is in front of `k`, so there is a next one to load.
    have hnext := List.getElem?_eq_getElem (show i + 1 < itinerary.legs.length by omega)
    exact ⟨_, .nextLoad rfl rfl hfound hnext, .loaded hnext hik⟩

end Itinerary

/-! ## The walk -/

section Walk

open Delivery

variable {spec : RouteSpecification} {itinerary : Itinerary} {occasions : Nat → Occasion}

/-- No step is completed before an earlier one. -/
def InOrder (occasions : Nat → Occasion) : Prop :=
  ∀ n, (occasions n).completedAt ≤ (occasions (n + 1)).completedAt

theorem expected?_of_onTrack {history : History} (h : onTrack spec itinerary history.last? = true)
    (now : Instant) :
    expected? spec itinerary history now = nextActivity? spec itinerary history.last? := by
  rw [expected?, nextExpectedActivity_derive, if_pos h]

/-- A step of the walk reports what is expected, or changes nothing. -/
theorem walk_succ (spec : RouteSpecification) (itinerary : Itinerary) (occasions : Nat → Occasion)
    (n : Nat) :
    (expected? spec itinerary (walk spec itinerary occasions n) (occasions n).lookedUpAt = none ∧
      walk spec itinerary occasions (n + 1) = walk spec itinerary occasions n) ∨
    ∃ event, expected? spec itinerary (walk spec itinerary occasions n) (occasions n).lookedUpAt =
        some event.activity ∧ event.completedAt = (occasions n).completedAt ∧
      walk spec itinerary occasions (n + 1) = (walk spec itinerary occasions n).append event := by
  cases hexpected : expected? spec itinerary (walk spec itinerary occasions n)
    (occasions n).lookedUpAt with
  | none => exact .inl ⟨rfl, by simp only [walk, hexpected]⟩
  | some activity =>
    let event : HandlingEvent :=
      ⟨(occasions n).trackingId, activity, (occasions n).registeredAt, (occasions n).completedAt⟩
    exact .inr ⟨event, rfl, rfl, by simp only [walk, hexpected, event]⟩

theorem completedAt_le_of_mem_walk (horder : InOrder occasions) (n : Nat) :
    ∀ e ∈ (walk spec itinerary occasions n).events, e.completedAt ≤ (occasions n).completedAt := by
  induction n with
  | zero =>
    intro e he
    cases he
  | succ n ih =>
    intro e he
    rcases walk_succ spec itinerary occasions n with ⟨-, hwalk⟩ | ⟨event, -, hcompleted, hwalk⟩
    · rw [hwalk] at he
      exact Instant.le_trans (ih e he) (horder n)
    · -- The new event is completed when this step is, the others were before.
      rw [hwalk, History.append, List.mem_append, List.mem_singleton] at he
      rcases he with he | rfl
      · exact Instant.le_trans (ih e he) (horder n)
      · rw [hcompleted]
        exact horder n

theorem onTrack_walk (hplan : itinerary.satisfies spec = true) (horder : InOrder occasions) (n : Nat) :
    onTrack spec itinerary (walk spec itinerary occasions n).last? = true := by
  induction n with
  | zero =>
    -- A cargo that was never handled is on track as soon as its plan is right.
    rw [onTrack_iff]
    exact ⟨hplan, fun event h => by cases h⟩
  | succ n ih =>
    rcases walk_succ spec itinerary occasions n with ⟨-, hwalk⟩ | ⟨event, hnext, hcompleted, hwalk⟩
    · rw [hwalk]
      exact ih
    · rw [expected?_of_onTrack ih, nextActivity?_eq_some_iff] at hnext
      rw [hwalk]
      apply onTrack_append_of_follows hplan hnext
      rw [hcompleted]
      exact completedAt_le_of_mem_walk horder n

/-- What follows the last activity is what the walk does next. -/
theorem walk_succ_of_follows (hplan : itinerary.satisfies spec = true) (horder : InOrder occasions)
    {n : Nat} {next : Activity}
    (h : Follows spec itinerary ((walk spec itinerary occasions n).last?.map (·.activity)) next) :
    (walk spec itinerary occasions (n + 1)).events.map (·.activity) =
        (walk spec itinerary occasions n).events.map (·.activity) ++ [next] ∧
      (walk spec itinerary occasions (n + 1)).last?.map (·.activity) = some next := by
  have htrack := onTrack_walk hplan horder n
  have hnext := nextActivity?_eq_some_iff.mpr h
  rcases walk_succ spec itinerary occasions n with ⟨hnone, -⟩ | ⟨event, hsome, hcompleted, hwalk⟩
  · rw [expected?_of_onTrack htrack, hnext] at hnone
    cases hnone
  · rw [expected?_of_onTrack htrack, hnext] at hsome
    obtain rfl := Option.some.inj hsome
    have hlate : ∀ e ∈ (walk spec itinerary occasions n).events,
        e.completedAt ≤ event.completedAt := by
      rw [hcompleted]
      exact completedAt_le_of_mem_walk horder n
    rw [hwalk, History.last?_append_of_le hlate]
    exact ⟨by simp [History.append], rfl⟩

/-- While the loads and the unloads are apart, the walk makes the steps of the plan one by one. -/
theorem walk_along_steps (hplan : itinerary.satisfies spec = true) (horder : InOrder occasions)
    (hloads : itinerary.LoadsApart) (hunloads : itinerary.UnloadsApart) {n : Nat} {last : Activity}
    (h : (itinerary.steps spec)[n]? = some last) :
    (walk spec itinerary occasions (n + 1)).events.map (·.activity) =
        (itinerary.steps spec).take (n + 1) ∧
      (walk spec itinerary occasions (n + 1)).last?.map (·.activity) = some last := by
  induction n generalizing last with
  | zero =>
    cases h
    exact walk_succ_of_follows hplan horder .receive
  | succ n ih =>
    -- The step before was the last activity, and this one follows it.
    have hn := (List.getElem?_eq_some_iff.mp h).1
    have hbefore := List.getElem?_eq_getElem (show n < (itinerary.steps spec).length by omega)
    obtain ⟨hevents, hlast⟩ := ih hbefore
    have hfollows := Itinerary.follows_step hplan hloads hunloads hbefore h
    rw [← hlast] at hfollows
    obtain ⟨hevents', hlast'⟩ := walk_succ_of_follows hplan horder hfollows
    refine ⟨?_, hlast'⟩
    rw [hevents', hevents, List.take_add_one (i := n + 1), h, Option.toList_some]

/-- Once the plan turns back, the walk never gets beyond the leg where it does. -/
theorem trapped_walk (hplan : itinerary.satisfies spec = true) (horder : InOrder occasions) {k : Nat}
    (hback : itinerary.TurnsBack k) (n : Nat) :
    itinerary.Trapped k ((walk spec itinerary occasions n).last?.map (·.activity)) := by
  induction n with
  | zero => exact .start
  | succ n ih =>
    obtain ⟨next, hfollows, htrapped⟩ := Itinerary.exists_follows_of_trapped spec hback ih
    rw [(walk_succ_of_follows hplan horder hfollows).2]
    exact htrapped

/-- The walk makes the last step of the plan with the claim, after which nothing is expected. -/
theorem walk_to_claim (hplan : itinerary.satisfies spec = true) (horder : InOrder occasions)
    (hloads : itinerary.LoadsApart) (hunloads : itinerary.UnloadsApart) :
    (walk spec itinerary occasions (2 * itinerary.legs.length + 2)).events.map (·.activity) =
        itinerary.steps spec ∧
      ∀ now, expected? spec itinerary
        (walk spec itinerary occasions (2 * itinerary.legs.length + 2)) now = none := by
  obtain ⟨hevents, hlast⟩ :=
    walk_along_steps hplan horder hloads hunloads Itinerary.claim_step
  have hlength := Itinerary.length_steps spec itinerary
  refine ⟨by rw [hevents, List.take_of_length_le (by omega)], fun now => ?_⟩
  have htrack := onTrack_walk hplan horder (2 * itinerary.legs.length + 1 + 1)
  obtain ⟨event, hevent, hclaim⟩ := Option.map_eq_some_iff.mp hlast
  rw [expected?_of_onTrack htrack, nextActivity?_eq_none_iff htrack]
  exact ⟨event, hevent, .inr (.inl (by rw [hclaim]; rfl))⟩

theorem walk_add_of_ended {n : Nat}
    (h : ∀ now, expected? spec itinerary (walk spec itinerary occasions n) now = none) (m : Nat) :
    walk spec itinerary occasions (n + m) = walk spec itinerary occasions n := by
  induction m with
  | zero => rfl
  | succ m ih =>
    rcases walk_succ spec itinerary occasions (n + m) with ⟨-, hwalk⟩ | ⟨event, hsome, -, -⟩
    · rw [← Nat.add_assoc, hwalk, ih]
    · rw [ih, h] at hsome
      cases hsome

theorem apart_of_ended (hplan : itinerary.satisfies spec = true) (horder : InOrder occasions) {n : Nat}
    {now : Instant} (h : expected? spec itinerary (walk spec itinerary occasions n) now = none) :
    itinerary.LoadsApart ∧ itinerary.UnloadsApart := by
  apply Classical.byContradiction
  intro hapart
  obtain ⟨k, hback⟩ := Itinerary.exists_turnsBack hapart
  obtain ⟨next, hfollows, -⟩ := Itinerary.exists_follows_of_trapped spec hback
    (trapped_walk hplan horder hback n)
  rw [expected?_of_onTrack (onTrack_walk hplan horder n),
    nextActivity?_eq_some_iff.mpr hfollows] at h
  cases h

theorem le_of_ended (hplan : itinerary.satisfies spec = true) (horder : InOrder occasions) {n : Nat}
    {now : Instant} (h : expected? spec itinerary (walk spec itinerary occasions n) now = none) :
    2 * itinerary.legs.length + 2 ≤ n := by
  obtain ⟨hloads, hunloads⟩ := apart_of_ended hplan horder h
  rw [expected?_of_onTrack (onTrack_walk hplan horder n)] at h
  apply Nat.le_of_not_lt
  intro hlt
  -- Otherwise there is a step of the plan left, which is expected.
  rw [← Itinerary.length_steps spec itinerary] at hlt
  have hnext := List.getElem?_eq_getElem hlt
  have hfollows : Follows spec itinerary
      ((walk spec itinerary occasions n).last?.map (·.activity)) (itinerary.steps spec)[n] := by
    cases n with
    | zero => exact .receive
    | succ n =>
      have hbefore := List.getElem?_eq_getElem (Nat.lt_of_succ_lt hlt)
      rw [(walk_along_steps hplan horder hloads hunloads hbefore).2]
      exact Itinerary.follows_step hplan hloads hunloads hbefore hnext
  rw [nextActivity?_eq_some_iff.mpr hfollows] at h
  cases h

/-- Whoever reports what is expected, one thing after the other, stays on track.  That ends if and
only if the loads and the unloads of the plan are apart, and then every step of the plan has been
reported once, from the receipt to the claim. -/
theorem walk_follows_plan (spec : RouteSpecification) (itinerary : Itinerary)
    (occasions : Nat → Occasion) (hplan : itinerary.satisfies spec = true)
    (horder : InOrder occasions) :
    (∀ n now, (derive spec itinerary (walk spec itinerary occasions n) now).isOnTrack = true) ∧
    ((∃ n, expected? spec itinerary (walk spec itinerary occasions n) (occasions n).lookedUpAt = none) ↔
      itinerary.LoadsApart ∧ itinerary.UnloadsApart) ∧
    ∀ n, expected? spec itinerary (walk spec itinerary occasions n) (occasions n).lookedUpAt = none →
      (walk spec itinerary occasions n).events.map (·.activity) = itinerary.steps spec ∧
      (walk spec itinerary occasions n).events.length = 2 * itinerary.legs.length + 2 := by
  refine ⟨fun n now => ?_, ⟨fun ⟨n, h⟩ => apart_of_ended hplan horder h, ?_⟩, fun n h => ?_⟩
  · rw [isOnTrack_derive]
    exact onTrack_walk hplan horder n
  · rintro ⟨hloads, hunloads⟩
    exact ⟨_, (walk_to_claim hplan horder hloads hunloads).2 _⟩
  · obtain ⟨hloads, hunloads⟩ := apart_of_ended hplan horder h
    obtain ⟨hsteps, hended⟩ := walk_to_claim hplan horder hloads hunloads
    -- The walk may have ended before step `n`; then it has rested since.
    obtain ⟨m, rfl⟩ := Nat.exists_eq_add_of_le (le_of_ended hplan horder h)
    have hevents : (walk spec itinerary occasions
        (2 * itinerary.legs.length + 2 + m)).events.map (·.activity) = itinerary.steps spec := by
      rw [walk_add_of_ended hended, hsteps]
    have hlength := congrArg List.length hevents
    rw [List.length_map, Itinerary.length_steps] at hlength
    exact ⟨hevents, hlength⟩

/-- A plan that takes the same voyage from the same place twice. -/
def sampleRoundTrip : Itinerary where
  legs :=
    [⟨⟨"V100"⟩, ⟨"CNHKG"⟩, ⟨"USNYC"⟩, sampleDay 1, sampleDay 2⟩,
      ⟨⟨"V300"⟩, ⟨"USNYC"⟩, ⟨"CNHKG"⟩, sampleDay 3, sampleDay 4⟩,
      ⟨⟨"V100"⟩, ⟨"CNHKG"⟩, ⟨"SESTO"⟩, sampleDay 5, sampleDay 9⟩]

theorem walk_of_samplePlans :
    let occasions := fun _ : Nat => (⟨⟨"3F2A9C1B"⟩, sampleDay 20, sampleDay 1, sampleDay 20⟩ : Occasion)
    let ends := fun itinerary => ∃ n, expected? sampleSpecification itinerary
      (walk sampleSpecification itinerary occasions n) (occasions n).lookedUpAt = none
    sampleItinerary.satisfies sampleSpecification = true ∧
      sampleRoundTrip.satisfies sampleSpecification = true ∧ InOrder occasions ∧
      ends sampleItinerary ∧ ¬ ends sampleRoundTrip := by
  intro occasions ends
  have hplan : sampleItinerary.satisfies sampleSpecification = true := by decide
  have hround : sampleRoundTrip.satisfies sampleSpecification = true := by decide
  have horder : InOrder occasions := fun _ => Instant.le_refl _
  refine ⟨hplan, hround, horder, ?_, ?_⟩
  · exact (walk_follows_plan _ sampleItinerary occasions hplan horder).2.1.mpr (by decide)
  · intro hends
    have := (walk_follows_plan _ sampleRoundTrip occasions hround horder).2.1.mp hends
    exact absurd this (by decide)

end Walk

end CargoTracking
