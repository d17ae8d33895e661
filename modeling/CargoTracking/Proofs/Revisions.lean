import CargoTracking.Proofs.Sessions

/-!
# Revisions of cargos

What one call of a session makes of a cargo that is there: an assignment that succeeds gives it an
itinerary, a change of the destination that succeeds gives it a destination, and any other call
leaves it but for its delivery.
-/

namespace CargoTracking

open CargoStore Inspection

namespace Session

section Definitions

variable (session : Session) (σ : Type) [CargoStore σ]

/-- The call is made at the position, and succeeds. -/
def Succeeds (k : Nat) (call : Call) : Prop :=
  ∃ now answer, session.calls[k]? = some (now, call) ∧
    ((call.serve session.directory now).perform (session.state σ k)).result = .ok answer

/-- What happens to the store at a position. -/
inductive Turn (k : Nat) : Prop
  | idle (fails : ∀ id call, call.Plans id → ¬ session.Succeeds σ k call)
      (same : session.state σ (k + 1) = session.state σ k)
  | commits {now : Instant} {call : Call} {event : Option HandlingEvent} {cargo : Cargo}
      (made : session.calls[k]? = some (now, call))
      (succeeds : ∀ id, call.Plans id → session.Succeeds σ k call)
      (commits : call.Commits session.directory now (session.state σ k) event cargo)
      (fits : Fits (session.state σ k) event cargo)
      (committed : session.state σ (k + 1) = commit (session.state σ k) event cargo)

/-- What the call at a position does to a cargo that is there. -/
inductive Revises (k : Nat) (id : TrackingId) : Cargo → Cargo → Prop
  | kept (cargo : Cargo) (delivery : Delivery)
      (unassigned : ∀ itinerary, ¬ session.Succeeds σ k (.assign id itinerary))
      (undirected : ∀ destination, ¬ session.Succeeds σ k (.changeDestination id destination)) :
      Revises k id cargo { cargo with delivery }
  | assigned (cargo : Cargo) {itinerary : Itinerary} (delivery : Delivery)
      (assigned : session.Succeeds σ k (.assign id itinerary))
      (nonempty : itinerary.isEmpty = false) :
      Revises k id cargo { cargo with itinerary, delivery }
  | redirected (cargo : Cargo) {destination : UnLocode} {location : Location} (delivery : Delivery)
      (directed : session.Succeeds σ k (.changeDestination id destination))
      (known : session.directory.findLocation destination = .ok location) :
      Revises k id cargo { cargo with
        routeSpecification :=
          ⟨cargo.origin, location.unLocode, cargo.routeSpecification.arrivalDeadline⟩
        delivery }

end Definitions

variable {session : Session} {σ : Type} [CargoStore σ] {k : Nat} {now : Instant} {call : Call}
  {id : TrackingId}

theorem Succeeds.exists_call (h : session.Succeeds σ k call) :
    ∃ now, session.calls[k]? = some (now, call) := by
  obtain ⟨now, answer, hcall, -⟩ := h
  exact ⟨now, hcall⟩

theorem Succeeds.call_eq {other : Call} (h : session.Succeeds σ k other)
    (hcall : session.calls[k]? = some (now, call)) : other = call := by
  obtain ⟨now', hother⟩ := h.exists_call
  rw [hcall] at hother
  cases hother
  rfl

theorem Succeeds.inj {other : Call} (h : session.Succeeds σ k other)
    (h' : session.Succeeds σ k call) : other = call := by
  obtain ⟨now, hcall⟩ := h'.exists_call
  exact h.call_eq hcall

/-- A call that does not make or change the plan of the cargo keeps it. -/
theorem Revises.of_not_plans (hcall : session.calls[k]? = some (now, call))
    (h : call.Plans id → ¬ session.Succeeds σ k call) (cargo : Cargo) (delivery : Delivery) :
    session.Revises σ k id cargo { cargo with delivery } := by
  refine .kept cargo delivery (fun itinerary hok => ?_) fun destination hok => ?_
  · cases hok.call_eq hcall
    exact h rfl hok
  · cases hok.call_eq hcall
    exact h rfl hok

variable [SteadyStore σ]

/-! ## One call -/

theorem describes (h : session.Admissible σ) (hcall : session.calls[k]? = some (now, call)) :
    (call.reply session.directory now (session.state σ k)).Describes
      { store := session.state σ k }
      ((call.serve session.directory now).on { store := session.state σ k }) :=
  Call.describes_serve session.directory now { store := session.state σ k }
    (h k now call hcall).handled

/-- Whether a call that is about a plan succeeds shows in whether it commits. -/
theorem succeeds_iff (h : session.Admissible σ) (hcall : session.calls[k]? = some (now, call))
    (hplans : call.Plans id) : session.Succeeds σ k call ↔
      (call.reply session.directory now (session.state σ k)).change.isSome := by
  rw [Call.isSome_change_of_plans hplans, Option.isSome_iff_exists]
  constructor
  · rintro ⟨now', answer, hcall', hok⟩
    rw [hcall] at hcall'
    cases hcall'
    have hresult := (describes h hcall).result.symm.trans hok
    exact ⟨answer, congrArg Except.toOption hresult⟩
  · rintro ⟨answer, hresult⟩
    exact ⟨now, answer, hcall, (describes h hcall).result.trans (ok_of_toOption hresult)⟩

theorem turn (h : session.Admissible σ) (k : Nat) : session.Turn σ k := by
  cases hcall : session.calls[k]? with
  | none =>
    refine .idle (fun id call _ hok => ?_) (state_succ_of_none hcall)
    obtain ⟨now, hmade⟩ := hok.exists_call
    rw [hcall] at hmade
    cases hmade
  | some entry =>
    obtain ⟨now, call⟩ := entry
    have hstate : session.state σ (k + 1) =
        (call.reply session.directory now (session.state σ k)).applied (session.state σ k) :=
      state_succ_eq_applied hcall (h k now call hcall).handled
    cases hchange : (call.reply session.directory now (session.state σ k)).change with
    | none =>
      rw [Reply.applied, hchange] at hstate
      refine .idle (fun id other hplans hok => ?_) hstate
      cases hok.call_eq hcall
      have hsome := (succeeds_iff h hcall hplans).mp hok
      rw [hchange] at hsome
      cases hsome
    | some change =>
      rw [Reply.applied, hchange] at hstate
      refine .commits hcall (fun id hplans => (succeeds_iff h hcall hplans).mpr ?_)
        (Call.commits_of_change (coherent_state session k).keyed hchange)
        (Call.fits_reply (upToDate_state h k) (h k now call hcall) hchange) hstate
      rw [hchange]
      rfl

/-- The cargo of a commit was found as it is found at any time, and is found again as the call has
revised it. -/
theorem exists_revises_of_commits (h : session.Admissible σ)
    (hcall : session.calls[k]? = some (now, call)) {event : Option HandlingEvent}
    {committed : Cargo} (hsucceeds : ∀ id, call.Plans id → session.Succeeds σ k call)
    (hcommits : call.Commits session.directory now (session.state σ k) event committed)
    (hfits : Fits (session.state σ k) event committed) {later : Instant} {cargo : Cargo}
    (hfind : find (session.state σ k) committed.trackingId later = .ok cargo) :
    ∃ cargo', find (commit (session.state σ k) event committed) committed.trackingId later =
        .ok cargo' ∧
      session.Revises σ k committed.trackingId cargo cargo' := by
  have habout := hcommits.about_eq (coherent_state session k).keyed
  obtain ⟨reports, time, time', -, -, hcommitted⟩ := find_commit_self hfits later
  refine ⟨_, hcommitted, ?_⟩
  have hsame {id : TrackingId} {found : Cargo} (hid : id = committed.trackingId)
      (hfound : find (session.state σ k) id now = .ok found) :
      ∃ delivery, cargo = { found with delivery } := by
    obtain ⟨delivery, hlater⟩ := SteadyStore.exists_find_of_find hfound later
    rw [hid] at hlater
    exact ⟨delivery, Except.ok.inj (hfind.symm.trans hlater)⟩
  cases hcommits with
  | booked => exact absurd (mem_trackingIds_of_find hfind) (h k now _ hcall)
  | assigned hnonempty hfound =>
    obtain ⟨delivery, rfl⟩ := hsame (Option.some.inj habout) hfound
    cases habout
    exact .assigned _ _ (hsucceeds _ rfl) hnonempty
  | redirected hfound hknown =>
    obtain ⟨delivery, rfl⟩ := hsame (Option.some.inj habout) hfound
    cases habout
    exact .redirected _ _ (hsucceeds _ rfl) hknown
  | inspected hinspects hfound =>
    rw [hinspects.about_eq] at habout
    obtain ⟨delivery, rfl⟩ := hsame (Option.some.inj habout) hfound
    exact .of_not_plans hcall (fun hplans => absurd hplans hinspects.not_plans) _ _

/-- A cargo that is there is found after a call as the call has revised it. -/
theorem exists_revises (h : session.Admissible σ) {later : Instant} {cargo : Cargo}
    (hfind : find (session.state σ k) id later = .ok cargo) :
    ∃ cargo', find (session.state σ (k + 1)) id later = .ok cargo' ∧
      session.Revises σ k id cargo cargo' := by
  cases turn h k with
  | idle hfails hsame =>
    rw [hsame]
    exact ⟨cargo, hfind, .kept cargo cargo.delivery (fun _ => hfails id _ rfl)
      fun _ => hfails id _ rfl⟩
  | @commits now call event committed hcall hsucceeds hcommits hfits hstate =>
    rw [hstate]
    by_cases hself : committed.trackingId = id
    · subst hself
      exact exists_revises_of_commits h hcall hsucceeds hcommits hfits hfind
    · rw [find_commit_of_ne hfits hself]
      refine ⟨cargo, hfind, .of_not_plans hcall (fun hplans => ?_) cargo cargo.delivery⟩
      exact absurd (hcommits.trackingId_of_plans (coherent_state session k).keyed hplans) hself

/-- An id that is new is the one that the call has booked. -/
theorem succeeds_book_of_new (h : session.Admissible σ)
    (hbefore : id ∉ trackingIds (session.state σ k))
    (hafter : id ∈ trackingIds (session.state σ (k + 1))) :
    ∃ origin destination deadline, session.Succeeds σ k (.book id origin destination deadline) := by
  cases turn h k with
  | idle _ hsame =>
    rw [hsame] at hafter
    exact absurd hafter hbefore
  | commits _ hsucceeds hcommits _ hstate =>
    have hkeyed := (coherent_state (σ := σ) session k).keyed
    rw [hstate, mem_trackingIds_commit] at hafter
    have hself := hafter.resolve_right hbefore
    subst hself
    cases hcommits with
    | booked => exact ⟨_, _, _, hsucceeds _ rfl⟩
    | assigned _ hfind => exact absurd (hkeyed.mem_trackingIds hfind) hbefore
    | redirected hfind => exact absurd (hkeyed.mem_trackingIds hfind) hbefore
    | inspected _ hfind => exact absurd (hkeyed.mem_trackingIds hfind) hbefore

end Session

end CargoTracking
