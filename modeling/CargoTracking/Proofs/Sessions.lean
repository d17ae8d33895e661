import CargoTracking.Proofs.Effects
import CargoTracking.Proofs.Interchange

/-!
# Sessions

Calls one after the other, from the empty store, whatever they are.  A store of a session is
coherent: a cargo that is there can be found as long as its history can be read, and there is no
history before there is a cargo.  If no id is booked twice and no event is recorded that is none, the
store is up to date as well.
-/

namespace CargoTracking

open CargoStore Inspection

/-- A cargo that is there is found under its own id, as long as its history can be read. -/
structure Retrievable {σ : Type} [CargoStore σ] (store : σ) : Prop where
  keyed : Keyed store
  found : ∀ {id reports}, id ∈ trackingIds store → history store id = .ok reports →
    ∀ now, ∃ cargo, find store id now = .ok cargo

structure Coherent {σ : Type} [CargoStore σ] (store : σ) : Prop where
  keyed : Keyed store
  found : ∀ {id reports}, id ∈ trackingIds store → history store id = .ok reports →
    ∀ now, ∃ cargo, find store id now = .ok cargo
  unhandled : ∀ {id}, id ∉ trackingIds store → history store id = .ok .empty

section Retrievable

variable {σ : Type} [CargoStore σ] [SteadyStore σ] {before after : σ} {now : Instant}

theorem retrievable_empty : Retrievable (empty : σ) where
  keyed := keyed_empty
  found hid := by
    rw [SteadyStore.trackingIds_empty] at hid
    cases hid

theorem Retrievable.store (h : Retrievable before) (cargo : Cargo) :
    Retrievable (CargoStore.store before cargo) where
  keyed := h.keyed.store cargo
  found {id reports} hid hhistory later := by
    rw [LawfulStore.history_store] at hhistory
    by_cases hself : cargo.trackingId = id
    · subst hself
      exact LawfulStore.find_store_self hhistory later
    · rw [LawfulStore.find_store_of_ne hself]
      rw [LawfulStore.mem_trackingIds_store] at hid
      exact h.found (hid.resolve_left hself) hhistory later

theorem Retrievable.append (h : Retrievable before) (event : HandlingEvent) :
    Retrievable (append before event) where
  keyed := h.keyed.append event
  found {id reports} hid hhistory later := by
    rw [LawfulStore.trackingIds_append] at hid
    obtain ⟨_, hreadable, -⟩ := SteadyStore.history_of_append hhistory
    obtain ⟨cargo, hfind⟩ := h.found hid hreadable later
    obtain ⟨delivery, hextended⟩ := SteadyStore.find_append_of_readable hfind hhistory
    exact ⟨_, hextended⟩

theorem Retrievable.extended (h : Retrievable before) (event : Option HandlingEvent) :
    Retrievable (extended before event) := by
  cases event with
  | none => exact h
  | some event => exact h.append event

theorem Retrievable.effect (h : Retrievable before) {call : Call} {told : List Notice}
    (heffect : Effect now before call after told) : Retrievable after := by
  cases heffect with
  | silent => exact h
  | booked => exact h.store _
  | planned => exact h.store _
  | inspected => exact (h.extended _).store _
  | unreadable => exact h.extended _

end Retrievable

section Coherent

variable {σ : Type} [CargoStore σ] {before after : σ} {now : Instant}

theorem Coherent.retrievable (h : Coherent before) : Retrievable before := ⟨h.keyed, h.found⟩

variable [SteadyStore σ]

theorem coherent_empty : Coherent (empty : σ) :=
  { (retrievable_empty : Retrievable (empty : σ)) with
    unhandled := fun _ => SteadyStore.history_empty _ }

theorem Coherent.store (h : Coherent before) (cargo : Cargo) :
    Coherent (CargoStore.store before cargo) :=
  { h.retrievable.store cargo with
    unhandled := fun {id} hid => by
      rw [LawfulStore.mem_trackingIds_store, not_or] at hid
      rw [LawfulStore.history_store]
      exact h.unhandled hid.2 }

theorem Coherent.append (h : Coherent before) {event : HandlingEvent}
    (howner : event.trackingId ∈ trackingIds before) : Coherent (append before event) :=
  { h.retrievable.append event with
    unhandled := fun {id} hid => by
      rw [LawfulStore.trackingIds_append] at hid
      have hne : event.trackingId ≠ id := fun heq => hid (heq ▸ howner)
      rw [SteadyStore.history_append_of_ne hne]
      exact h.unhandled hid }

theorem Coherent.extended (h : Coherent before) {call : Call} {id : TrackingId}
    {event : Option HandlingEvent} (hinspects : call.Inspects id event)
    (hid : id ∈ trackingIds before) : Coherent (extended before event) := by
  cases event with
  | none => exact h
  | some event => exact h.append (hinspects.owner ▸ hid)

theorem Coherent.effect (h : Coherent before) {call : Call} {told : List Notice}
    (heffect : Effect now before call after told) : Coherent after := by
  cases heffect with
  | silent => exact h
  | booked => exact h.store _
  | planned => exact h.store _
  | inspected hinspects hfind => exact (h.extended hinspects (mem_trackingIds_of_find hfind)).store _
  | unreadable hinspects hfind => exact h.extended hinspects (mem_trackingIds_of_find hfind)

omit [SteadyStore σ] in
/-- Only a cargo that is there has a history. -/
theorem Coherent.mem_trackingIds_of_mem (h : Coherent before) {id : TrackingId} {reports : History}
    (hhistory : history before id = .ok reports) {event : HandlingEvent}
    (hevent : event ∈ reports.events) : id ∈ trackingIds before := by
  by_cases hid : id ∈ trackingIds before
  · exact hid
  · rw [h.unhandled hid] at hhistory
    cases hhistory
    cases hevent

end Coherent

/-! ## Calls in a row -/

structure Session where
  directory : Directory
  /-- The calls in their order, each with the time at which it is made. -/
  calls : List (Instant × Call)

namespace Session

section States

variable (session : Session) (σ : Type) [CargoStore σ]

/-- The store after the first calls. -/
def state : Nat → σ
  | 0 => empty
  | k + 1 =>
    match session.calls[k]? with
    | none => state k
    | some (now, call) => call.after session.directory now (state k)

/-- What is told by the call at a position. -/
def told (k : Nat) : List Notice :=
  match session.calls[k]? with
  | none => []
  | some (now, call) => call.told session.directory now (session.state σ k)

/-- No id is booked that is in use, and no event is recorded that is none. -/
def Admissible : Prop :=
  ∀ (k : Nat) (now : Instant) (call : Call), session.calls[k]? = some (now, call) →
    call.Admissible (trackingIds (session.state σ k))

/-- No id is booked twice. -/
def BookedOnce : Prop :=
  session.calls.Pairwise fun earlier later => ∀ id ∈ earlier.2.booked?, later.2.booked? ≠ some id

/-- No id is booked twice, and no event is recorded that is none. -/
structure Distinct : Prop where
  booked : session.calls.Pairwise fun earlier later =>
    ∀ id ∈ earlier.2.booked?, later.2.booked? ≠ some id
  handled : ∀ now event, (now, .record event) ∈ session.calls →
    event.activity.kind ≠ .notHandled

end States

variable {session : Session} {σ : Type} [CargoStore σ] {k : Nat} {now : Instant} {call : Call}

theorem state_succ (h : session.calls[k]? = some (now, call)) :
    session.state σ (k + 1) = call.after session.directory now (session.state σ k) := by
  rw [state, h]

theorem state_succ_of_none (h : session.calls[k]? = none) :
    session.state σ (k + 1) = session.state σ k := by
  rw [state, h]

theorem told_eq (h : session.calls[k]? = some (now, call)) :
    session.told σ k = call.told session.directory now (session.state σ k) := by
  rw [told, h]

/-- What the empty store has and every call keeps, every store of the session has. -/
theorem state_induction {motive : σ → Prop} (start : motive empty)
    (step : ∀ k now call, session.calls[k]? = some (now, call) → motive (session.state σ k) →
      motive (session.state σ (k + 1))) (k : Nat) : motive (session.state σ k) := by
  induction k with
  | zero => exact start
  | succ k ih =>
    cases hcall : session.calls[k]? with
    | none =>
      rw [state_succ_of_none hcall]
      exact ih
    | some entry => exact step k entry.1 entry.2 hcall ih

theorem exists_call_of_told {notice : Notice} (h : notice ∈ session.told σ k) :
    ∃ now call, session.calls[k]? = some (now, call) := by
  rw [told] at h
  cases hcall : session.calls[k]? with
  | none => rw [hcall] at h; cases h
  | some entry => exact ⟨entry.1, entry.2, rfl⟩

variable [SteadyStore σ]

theorem coherent_state (session : Session) (k : Nat) : Coherent (session.state σ k) := by
  refine state_induction (motive := Coherent) coherent_empty (fun k now call hcall ih => ?_) k
  rw [state_succ hcall]
  exact ih.effect (Call.effect_serve session.directory now _ ih.keyed call)

theorem effect (h : session.calls[k]? = some (now, call)) :
    Effect now (session.state σ k) call (session.state σ (k + 1)) (session.told σ k) := by
  rw [state_succ h, told_eq h]
  exact Call.effect_serve session.directory now _ (coherent_state session k).keyed call

/-- A call that does not record what is no event applies its reply. -/
theorem state_succ_eq_applied (hcall : session.calls[k]? = some (now, call))
    (h : ∀ event, call = .record event → event.activity.kind ≠ .notHandled) :
    session.state σ (k + 1) =
      (call.reply session.directory now (session.state σ k)).applied (session.state σ k) := by
  rw [state_succ hcall, Call.after, Service.perform_eq_on,
    (Call.describes_serve session.directory now { store := session.state σ k } h).store]

theorem upToDate_state (hcalls : session.Admissible σ) (k : Nat) :
    UpToDate (session.state σ k) := by
  have hstart : UpToDate (empty : σ) := upToDate_of_empty SteadyStore.trackingIds_empty
    (SteadyStore.find_empty σ) SteadyStore.history_empty
  refine state_induction (motive := UpToDate) hstart (fun k now call hcall ih => ?_) k
  rw [state_succ hcall, Call.after, Service.perform_eq_on]
  exact Call.upToDate_serve ih (hcalls k now call hcall)

/-- An id that is in use has been booked. -/
theorem exists_booked {id : TrackingId} (hid : id ∈ trackingIds (session.state σ k)) :
    ∃ i time call, i < k ∧ session.calls[i]? = some (time, call) ∧ call.booked? = some id := by
  induction k with
  | zero =>
    rw [state, SteadyStore.trackingIds_empty] at hid
    cases hid
  | succ k ih =>
    cases hcall : session.calls[k]? with
    | none =>
      rw [state_succ_of_none hcall] at hid
      obtain ⟨i, time, call, hik, hbooks⟩ := ih hid
      exact ⟨i, time, call, Nat.lt_succ_of_lt hik, hbooks⟩
    | some entry =>
      have hkeyed := (coherent_state (σ := σ) session k).keyed
      rcases (effect hcall).mem_trackingIds hkeyed hid with hbefore | hbooked
      · obtain ⟨i, time, call, hik, hbooks⟩ := ih hbefore
        exact ⟨i, time, call, Nat.lt_succ_of_lt hik, hbooks⟩
      · exact ⟨k, entry.1, entry.2, Nat.lt_succ_self k, hcall, hbooked⟩

/-- An id that is booked once is not in use when it is booked. -/
theorem BookedOnce.not_mem {fresh : TrackingId} (h : session.BookedOnce)
    (hcall : session.calls[k]? = some (now, call)) (hfresh : call.booked? = some fresh) :
    fresh ∉ trackingIds (session.state σ k) := by
  intro hid
  obtain ⟨i, time, earlier, hik, hearlier, hbooked⟩ := exists_booked hid
  obtain ⟨hi, heq⟩ := List.getElem?_eq_some_iff.mp hearlier
  obtain ⟨hk, heq'⟩ := List.getElem?_eq_some_iff.mp hcall
  have hapart := List.pairwise_iff_getElem.mp h i k hi hk hik
  rw [heq, heq'] at hapart
  exact hapart fresh hbooked hfresh

theorem Distinct.admissible (h : session.Distinct) : session.Admissible σ := by
  intro k now call hcall
  cases call with
  | book fresh origin destination deadline => exact BookedOnce.not_mem h.booked hcall rfl
  | record event => exact h.handled now event (List.mem_of_getElem? hcall)
  | _ => trivial

end Session

end CargoTracking
