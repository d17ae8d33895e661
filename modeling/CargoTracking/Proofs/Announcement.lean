import CargoTracking.Proofs.Notices

/-!
# Every flag is told or planned

A flag that is raised was down when the cargo was booked.  The call that has raised it since has
told it, if that was an inspection.  It may also have made or changed the plan: then the flag is
raised without a notice, and the next inspection finds nothing new.  This holds of all sessions, also
of those in which an id is booked again or an event is recorded that is none.
-/

namespace CargoTracking

open CargoStore Inspection

/-! ## One call -/

section Effect

variable {σ : Type} [CargoStore σ] [SteadyStore σ] {now : Instant} {before after : σ} {call : Call}
  {told : List Notice} {id : TrackingId} {flag : Flag} {later : Instant} {found : Cargo}

/-- A cargo that is booked has no flag raised, if its id is new. -/
theorem not_raised_of_book (hcoherent : Coherent before) (hid : id ∉ trackingIds before)
    {spec : RouteSpecification}
    (hfind : find (CargoStore.store before (.book id spec now)) id later = .ok found) :
    flag.raised found.delivery = false := by
  obtain ⟨time, rfl⟩ :=
    eq_of_find_store hfind (hcoherent.unhandled hid) rfl fun hmem => absurd hmem hid
  cases flag <;> rfl

/-- A cargo with a flag raised was there before the call. -/
theorem exists_find_before (hcoherent : Coherent before) (h : Effect now before call after told)
    (hfind : find after id later = .ok found) (hraised : flag.raised found.delivery = true) :
    ∃ cargo, find before id later = .ok cargo := by
  by_cases habout : call.about = some id
  · cases h with
    | silent => exact ⟨found, hfind⟩
    | booked fresh origin destination deadline spec =>
      cases habout
      -- Only the history of a cargo that is there already can be missing.
      obtain ⟨reports, hhistory⟩ := LawfulStore.history_of_find hfind
      rw [LawfulStore.history_store] at hhistory
      by_cases hid : id ∈ trackingIds before
      · exact hcoherent.found hid hhistory later
      · rw [not_raised_of_book hcoherent hid hfind] at hraised
        cases hraised
    | planned plans hknown =>
      cases plans.about_eq.symm.trans habout
      obtain ⟨cargo, hcargo, -⟩ := SteadyStore.exists_find_later hknown later
      exact ⟨cargo, hcargo⟩
    | inspected inspects hknown =>
      cases inspects.about_eq.symm.trans habout
      obtain ⟨cargo, hcargo, -⟩ := SteadyStore.exists_find_later hknown later
      exact ⟨cargo, hcargo⟩
    | unreadable inspects hknown =>
      cases inspects.about_eq.symm.trans habout
      obtain ⟨cargo, hcargo, -⟩ := SteadyStore.exists_find_later hknown later
      exact ⟨cargo, hcargo⟩
  · rw [(h.elsewhere hcoherent.keyed habout).find_eq] at hfind
    exact ⟨found, hfind⟩

/-- After an inspection the cargo is found with the flags that the inspection has seen. -/
theorem raised_of_inspected (hkeyed : Keyed before) {event : Option HandlingEvent} {cargo : Cargo}
    {reports : History} (hknown : find before id now = .ok cargo)
    (hread : history (extended before event) id = .ok reports)
    (hfind : find (commit before event (cargo.deriveFrom reports now)) id later = .ok found) :
    flag.raised found.delivery = flag.raised (cargo.deriveFrom reports now).delivery := by
  obtain ⟨time, rfl⟩ := eq_of_find_inspected hkeyed hknown hread hfind
  exact flag.raised_derive_congr _ _ rfl time now

/-- The call tells of the flag of the cargo, or it makes or changes the plan and tells nothing. -/
def Accounts (call : Call) (told : List Notice) (flag : Flag) (id : TrackingId) : Prop :=
  (∃ cargo, cargo.trackingId = id ∧ flag.notice cargo ∈ told) ∨ call.Plans id ∧ told = []

/-- A flag that is raised after a call and was down before it. -/
theorem accounts_of_raised (hcoherent : Coherent before) (h : Effect now before call after told)
    (hdown : flag.Reads before id false) (hfind : find after id later = .ok found)
    (hraised : flag.raised found.delivery = true) : Accounts call told flag id := by
  -- A flag that reads the same after the call cannot be the one.
  have hsame : find after id later ≠ find before id later := by
    intro hsame
    obtain ⟨cargo, hcargo, hflag⟩ := hdown later
    rw [hfind, hcargo] at hsame
    cases hsame
    exact Bool.false_ne_true (hflag.symm.trans hraised)
  by_cases habout : call.about = some id
  · cases h with
    | silent => exact absurd rfl hsame
    | booked fresh origin destination deadline spec => exact .inr ⟨Option.some.inj habout, rfl⟩
    | planned plans hknown =>
      cases plans.about_eq.symm.trans habout
      exact .inr ⟨plans, rfl⟩
    | unreadable inspects hknown hunread =>
      cases inspects.about_eq.symm.trans habout
      obtain ⟨reports, hhistory⟩ := LawfulStore.history_of_find hfind
      rw [hunread] at hhistory
      cases hhistory
    | @inspected _ _ event cargo reports inspects hknown hread =>
      cases inspects.about_eq.symm.trans habout
      obtain ⟨cargo', hcargo', hflag⟩ := hdown now
      rw [hknown] at hcargo'
      cases hcargo'
      rw [raised_of_inspected hcoherent.keyed hknown hread hfind] at hraised
      have hid := hcoherent.keyed.trackingId hknown
      exact .inl ⟨cargo.deriveFrom reports now, hid, Flag.notice_mem_notices.mpr ⟨hraised, hflag⟩⟩
  · exact absurd ((h.elsewhere hcoherent.keyed habout).find_eq later) hsame

/-- A flag that is raised after a call was raised before it, or the call accounts for it. -/
theorem raised_or_accounts (hcoherent : Coherent before) (h : Effect now before call after told)
    (hfind : find after id later = .ok found) (hraised : flag.raised found.delivery = true) :
    (∃ known, find before id later = .ok known ∧ flag.raised known.delivery = true) ∨
      flag.Reads before id false ∧ Accounts call told flag id := by
  obtain ⟨known, hknown⟩ := exists_find_before hcoherent h hfind hraised
  cases hflag : flag.raised known.delivery with
  | true => exact .inl ⟨known, hknown, hflag⟩
  | false =>
    have hdown := flag.reads_of_find hknown
    rw [hflag] at hdown
    exact .inr ⟨hdown, accounts_of_raised hcoherent h hdown hfind hraised⟩

end Effect

/-! ## Sessions -/

namespace Session

section Definitions

variable (session : Session) (σ : Type) [CargoStore σ]

/-- The flag was down after the first `m` calls, and it has been raised since, up to the call `k`. -/
structure RaisedSince (flag : Flag) (id : TrackingId) (m k : Nat) : Prop where
  lt : m < k
  down : flag.Reads (session.state σ m) id false
  raised : ∀ j, m < j → j ≤ k → flag.Reads (session.state σ j) id true

/-- Whenever a flag is raised, it was down before, and the call that has raised it since has told it,
or has made or changed the plan. -/
def Accounted : Prop :=
  ∀ (k : Nat) (flag : Flag) (id : TrackingId) (now : Instant) (cargo : Cargo),
    find (session.state σ k) id now = .ok cargo → flag.raised cargo.delivery = true →
    ∃ m time call, session.RaisedSince σ flag id m k ∧ session.calls[m]? = some (time, call) ∧
      Accounts call (session.told σ m) flag id

/-- Whenever a flag is raised after an inspection of the cargo, it has been told since it was down. -/
def Announced : Prop :=
  ∀ (k : Nat) (time now : Instant) (call : Call) (flag : Flag) (id : TrackingId)
    (event : Option HandlingEvent) (cargo : Cargo),
    session.calls[k]? = some (time, call) → call.Inspects id event →
    find (session.state σ (k + 1)) id now = .ok cargo → flag.raised cargo.delivery = true →
    ∃ m i told, session.RaisedSince σ flag id m (k + 1) ∧ m ≤ i ∧ i ≤ k ∧
      told.trackingId = id ∧ flag.notice told ∈ session.told σ i

end Definitions

variable {session : Session} {σ : Type} [CargoStore σ]

theorem RaisedSince.succ {flag : Flag} {id : TrackingId} {m k : Nat}
    (h : session.RaisedSince σ flag id m k)
    (hreads : flag.Reads (session.state σ (k + 1)) id true) :
    session.RaisedSince σ flag id m (k + 1) where
  lt := Nat.lt_succ_of_lt h.lt
  down := h.down
  raised j hmj hjk := by
    rcases Nat.lt_or_eq_of_le hjk with hlt | rfl
    · exact h.raised j hmj (Nat.le_of_lt_succ hlt)
    · exact hreads

theorem raisedSince_last {flag : Flag} {id : TrackingId} {k : Nat}
    (hdown : flag.Reads (session.state σ k) id false)
    (hreads : flag.Reads (session.state σ (k + 1)) id true) :
    session.RaisedSince σ flag id k (k + 1) where
  lt := Nat.lt_succ_self k
  down := hdown
  raised j hkj hjk := by
    have hj : j = k + 1 := Nat.le_antisymm hjk hkj
    rw [hj]
    exact hreads

theorem accounted [SteadyStore σ] (session : Session) : session.Accounted σ := by
  intro k
  -- The induction is on the number of calls: the last one has raised the flag, or it was raised.
  induction k with
  | zero =>
    intro flag id now cargo hfind
    rw [state, SteadyStore.find_empty] at hfind
    cases hfind
  | succ k ih =>
    intro flag id now cargo hfind hraised
    have hreads := flag.reads_of_find hfind
    rw [hraised] at hreads
    cases hcall : session.calls[k]? with
    | none =>
      rw [state_succ_of_none hcall] at hfind
      obtain ⟨m, time, call, hsince, haccounts⟩ := ih flag id now cargo hfind hraised
      exact ⟨m, time, call, hsince.succ hreads, haccounts⟩
    | some entry =>
      obtain ⟨time, call⟩ := entry
      rcases raised_or_accounts (coherent_state session k) (effect hcall) hfind hraised with
        ⟨known, hknown, hflag⟩ | ⟨hdown, haccounts⟩
      · obtain ⟨m, time, call, hsince, haccounts⟩ := ih flag id now known hknown hflag
        exact ⟨m, time, call, hsince.succ hreads, haccounts⟩
      · exact ⟨k, time, call, raisedSince_last hdown hreads, hcall, haccounts⟩

end Session

/-- Over either store, every flag that is raised in a session has been told since it was down, unless
it was raised by a change of the plan. -/
theorem flags_accounted (session : Session) :
    session.Accounted MemoryStore ∧ session.Accounted RecordStore :=
  ⟨Session.accounted session, Session.accounted session⟩

/-- A cargo that lies in Tokyo when Tokyo becomes its destination. -/
def Session.redirected : Session where
  directory := .sample
  calls :=
    [(sampleDay 1, .book ⟨"3F2A9C1B"⟩ ⟨"CNHKG"⟩ ⟨"SESTO"⟩ (some (sampleDay 18))),
      (sampleDay 6, .register ⟨⟨"3F2A9C1B"⟩, .unload, ⟨"JNTKO"⟩, ⟨"V100"⟩, some (sampleDay 5)⟩),
      (sampleDay 7, .changeDestination ⟨"3F2A9C1B"⟩ ⟨"JNTKO"⟩),
      (sampleDay 8, .inspect ⟨"3F2A9C1B"⟩)]

theorem Session.exists_find_redirected {σ : Type} [CargoStore σ]
    (hraised : (find (redirected.state σ 4) ⟨"3F2A9C1B"⟩ (sampleDay 9)).toOption.map
      (Flag.arrived.raised ·.delivery) = some true) :
    ∃ cargo, find (redirected.state σ 4) ⟨"3F2A9C1B"⟩ (sampleDay 9) = .ok cargo ∧
      Flag.arrived.raised cargo.delivery = true := by
  cases hfind : find (redirected.state σ 4) ⟨"3F2A9C1B"⟩ (sampleDay 9) with
  | error e =>
    rw [hfind] at hraised
    cases hraised
  | ok cargo =>
    rw [hfind] at hraised
    exact ⟨cargo, rfl, Option.some.inj hraised⟩

/-- The arrival is there in the end, and some call accounts for it. -/
theorem accounted_redirected :
    ∃ m time call, Session.redirected.RaisedSince MemoryStore .arrived ⟨"3F2A9C1B"⟩ m 4 ∧
      Session.redirected.calls[m]? = some (time, call) ∧
      Accounts call (Session.redirected.told MemoryStore m) .arrived ⟨"3F2A9C1B"⟩ := by
  obtain ⟨cargo, hfind, hraised⟩ :=
    Session.exists_find_redirected (σ := MemoryStore) (by decide +kernel)
  exact (flags_accounted Session.redirected).1 4 .arrived _ (sampleDay 9) cargo hfind hraised

theorem Session.not_announced_redirected {σ : Type} [CargoStore σ]
    (hraised : (find (redirected.state σ 4) ⟨"3F2A9C1B"⟩ (sampleDay 9)).toOption.map
      (Flag.arrived.raised ·.delivery) = some true)
    (huntold : ∀ i ∈ List.range 4, ∀ notice ∈ redirected.told σ i, notice ≠ .arrived notice.cargo) :
    ¬ redirected.Announced σ := by
  intro hannounced
  obtain ⟨cargo, hfind, hflag⟩ := exists_find_redirected hraised
  obtain ⟨m, i, told, -, -, hi, -, hnotice⟩ := hannounced 3 (sampleDay 8) (sampleDay 9)
    (.inspect ⟨"3F2A9C1B"⟩) .arrived ⟨"3F2A9C1B"⟩ none cargo rfl (.inspect _) hfind hflag
  have hmem : i ∈ List.range 4 := List.mem_range.mpr (Nat.lt_succ_of_le hi)
  exact huntold i hmem _ hnotice rfl

/-- Its arrival is told to nobody, neither by the change nor by the inspection after it. -/
theorem arrival_unannounced :
    ¬ Session.redirected.Announced MemoryStore ∧ ¬ Session.redirected.Announced RecordStore := by
  refine ⟨Session.not_announced_redirected ?_ ?_, Session.not_announced_redirected ?_ ?_⟩
  -- The flag is raised in the end, and no call has told it.
  · decide +kernel
  · decide +kernel
  · decide +kernel
  · decide +kernel

end CargoTracking
