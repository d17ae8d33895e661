import CargoTracking.Proofs.Effects

/-!
# What calls commit

A call commits once at most.  What it commits is a new cargo, a cargo with another itinerary or with
another destination, or an inspected one with the event that was recorded.  A call that makes or
changes a plan succeeds exactly when it commits, and an admissible call keeps a store up to date.
-/

namespace CargoTracking

open CargoStore Inspection

namespace Call

inductive Commits {σ : Type} [CargoStore σ] (directory : Directory) (now : Instant) (store : σ) :
    Call → Option HandlingEvent → Cargo → Prop
  | booked {fresh : TrackingId} {origin destination : UnLocode} {deadline : Option Instant}
      {spec : RouteSpecification}
      (valid : Booking.specification directory origin destination deadline = .ok spec) :
      Commits directory now store (.book fresh origin destination deadline) none
        (.book fresh spec now)
  | assigned {id : TrackingId} {itinerary : Itinerary} {cargo : Cargo}
      (nonempty : itinerary.isEmpty = false) (found : find store id now = .ok cargo) :
      Commits directory now store (.assign id itinerary) none (cargo.assign itinerary now)
  | redirected {id : TrackingId} {destination : UnLocode} {cargo : Cargo} {location : Location}
      (found : find store id now = .ok cargo)
      (known : directory.findLocation destination = .ok location) :
      Commits directory now store (.changeDestination id destination) none
        (cargo.redirect location.unLocode now)
  | inspected {call : Call} {id : TrackingId} {event : Option HandlingEvent} {cargo : Cargo}
      {reports : History} (inspects : call.Inspects id event)
      (found : find store id now = .ok cargo)
      (read : history (extended store event) id = .ok reports) :
      Commits directory now store call event (cargo.deriveFrom reports now)

theorem Inspects.not_plans {call : Call} {id other : TrackingId} {event : Option HandlingEvent}
    (h : call.Inspects id event) : ¬ call.Plans other := by
  cases h <;> exact not_false

theorem Inspects.handled {call : Call} {id : TrackingId} {event : HandlingEvent}
    (h : call.Inspects id (some event)) {booked : List TrackingId} (hcall : call.Admissible booked) :
    event.activity.kind ≠ .notHandled := by
  cases h with
  | record => exact hcall
  | register hcompletion _ hkind =>
    rw [hkind]
    exact (Report.of_completion hcompletion).2.2

section Change

variable {σ : Type} [CargoStore σ] {directory : Directory} {now : Instant} {store : σ}
  {call : Call} {event : Option HandlingEvent} {cargo : Cargo}

theorem commits_of_inspection {id : TrackingId} {added : Option HandlingEvent}
    (hinspects : call.Inspects id added)
    (h : (inspection now store id added).change = some (event, cargo)) :
    Commits directory now store call event cargo := by
  unfold inspection at h
  cases hfind : find store id now with
  | error e => rw [hfind] at h; cases h
  | ok found =>
    rw [hfind] at h
    dsimp only at h
    cases hhistory : history (extended store added) id with
    | error e => rw [hhistory] at h; cases h
    | ok reports =>
      rw [hhistory] at h
      cases h
      exact .inspected hinspects hfind hhistory

theorem commits_of_change (hkeyed : Keyed store)
    (h : (call.reply directory now store).change = some (event, cargo)) :
    Commits directory now store call event cargo := by
  cases call with
  | book fresh origin destination deadline =>
    rw [reply] at h
    cases hspec : Booking.specification directory origin destination deadline with
    | error e => rw [hspec] at h; cases h
    | ok spec =>
      rw [hspec] at h
      cases h
      exact .booked hspec
  | assign id itinerary =>
    rw [reply] at h
    split at h
    · cases h
    · rename_i hempty
      rw [Bool.or_eq_true, not_or, Bool.not_eq_true, Bool.not_eq_true] at hempty
      cases hfind : find store id now with
      | error e => rw [hfind] at h; cases h
      | ok found =>
        rw [hfind] at h
        cases h
        exact .assigned hempty.2 hfind
  | changeDestination id destination =>
    rw [reply] at h
    split at h
    · cases h
    · cases hfind : find store id now with
      | error e => rw [hfind] at h; cases h
      | ok found =>
        cases hlocation : directory.findLocation destination with
        | error e => rw [hfind, hlocation] at h; cases h
        | ok location =>
          rw [hfind, hlocation] at h
          cases h
          exact .redirected hfind hlocation
  | register report =>
    rw [reply] at h
    cases hcompletion : report.completion with
    | error fault => rw [hcompletion] at h; cases h
    | ok completedAt =>
      rw [hcompletion] at h
      dsimp only at h
      cases hevent : Registration.event directory now now completedAt report store with
      | error e => rw [hevent] at h; cases h
      | ok added =>
        have hinspects := inspects_of_event hkeyed hcompletion hevent
        rw [hevent] at h
        dsimp only at h
        rw [hinspects.owner] at h
        exact commits_of_inspection hinspects h
  | record added => exact commits_of_inspection (.record added) h
  | inspect id => exact commits_of_inspection (.inspect id) h
  -- The others only read.
  | load id | cargos | possibleRoutes router id | track id => cases h

/-- The cargo that is committed is the one that the call is about. -/
theorem Commits.about_eq (hkeyed : Keyed store)
    (h : Commits directory now store call event cargo) : call.about = some cargo.trackingId := by
  cases h with
  | booked => rfl
  | assigned _ hfind => exact congrArg some (hkeyed.trackingId hfind).symm
  | redirected hfind => exact congrArg some (hkeyed.trackingId hfind).symm
  | inspected hinspects hfind =>
    rw [hinspects.about_eq]
    exact congrArg some (hkeyed.trackingId hfind).symm

theorem Commits.trackingId_of_plans (hkeyed : Keyed store)
    (h : Commits directory now store call event cargo) {id : TrackingId} (hplans : call.Plans id) :
    cargo.trackingId = id :=
  Option.some.inj ((h.about_eq hkeyed).symm.trans hplans.about_eq)

/-- A plan is changed without an event, and of a cargo that is there. -/
theorem Commits.exists_find_of_plans (h : Commits directory now store call event cargo)
    {id : TrackingId} (hplans : call.Plans id) (hbooked : call.booked? = none) :
    event = none ∧ ∃ found, find store id now = .ok found := by
  cases h with
  | booked => cases hbooked
  | assigned _ hfind =>
    cases hplans
    exact ⟨rfl, _, hfind⟩
  | redirected hfind =>
    cases hplans
    exact ⟨rfl, _, hfind⟩
  | inspected hinspects => exact absurd hplans hinspects.not_plans

/-- A plan is made or changed by a commit, and by nothing else. -/
theorem isSome_change_of_plans {id : TrackingId} (h : call.Plans id) :
    (call.reply directory now store).change.isSome =
      (call.reply directory now store).result.toOption.isSome := by
  cases call with
  | book fresh origin destination deadline =>
    rw [reply]
    cases Booking.specification directory origin destination deadline <;> rfl
  | assign id itinerary =>
    rw [reply]
    split
    · rfl
    · cases find store id now <;> rfl
  | changeDestination id destination =>
    rw [reply]
    split
    · rfl
    · cases find store id now with
      | error e => rfl
      | ok cargo => cases directory.findLocation destination <;> rfl
  | _ => cases h

/-- What an admissible call commits to a store that is up to date is up to date. -/
theorem Commits.fits (h : Commits directory now store call event cargo) (hstore : UpToDate store)
    (hcall : call.Admissible (trackingIds store)) : Fits store event cargo := by
  cases h with
  | booked => exact fits_book hstore hcall _ now
  | assigned _ hfind => exact fits_replan hstore hfind _ _ now
  | redirected hfind => exact fits_replan hstore hfind _ _ now
  | inspected hinspects hfind hread =>
    refine fits_deriveFrom hstore hfind ?_ ?_ hread now
    · rintro e rfl
      exact hinspects.handled hcall
    · rintro e rfl
      exact hinspects.owner

theorem fits_reply (hstore : UpToDate store) (hcall : call.Admissible (trackingIds store))
    (h : (call.reply directory now store).change = some (event, cargo)) : Fits store event cargo :=
  (commits_of_change ⟨hstore.trackingId⟩ h).fits hstore hcall

end Change

/-- One admissible call keeps a store up to date. -/
theorem upToDate_serve {σ : Type} [CargoStore σ] [LawfulStore σ] {directory : Directory}
    {now : Instant} {world : World σ} (hstore : UpToDate world.store) {call : Call}
    (hcall : call.Admissible (trackingIds world.store)) :
    UpToDate ((call.serve directory now).on world).2.store := by
  -- The store after the call is the one before it, or the one after one commit.
  rw [(describes_serve directory now world hcall.handled).store, Reply.applied]
  cases hchange : (call.reply directory now world.store).change with
  | none => exact hstore
  | some change => exact hstore.commit (fits_reply hstore hcall hchange)

end Call

end CargoTracking
