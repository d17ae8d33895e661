import CargoTracking.Proofs.Calls

/-!
# How commands end

A command that changes something calls one service, or is refused before.  It succeeds just if the
call does, whatever it tells afterwards, and leaves the store that the call leaves.
-/

namespace CargoTracking

open CargoStore Inspection

/-- What a run takes from outside: the time, and an id in case that it books. -/
structure Draw where
  now : Instant
  fresh : TrackingId

/-- The store after a call that succeeds. -/
def Reply.after? {σ : Type} [CargoStore σ] (reply : Reply) (store : σ) : Option σ :=
  match reply.result with
  | .ok _ => some (reply.applied store)
  | .error _ => none

namespace Command

/-- The commands that change something. -/
def Changes : Command → Prop
  | book .. | route .. | reroute .. | handle .. => True
  | list | locations | track .. => False

/-- What a command that changes something asks the services for, unless it is refused before. -/
def call? (draw : Draw) (ids : List TrackingId) : Command → Option Call
  | book origin destination deadline =>
    some (.book draw.fresh ⟨normalized origin⟩ ⟨normalized destination⟩ (some deadline))
  | route cargo legs => (resolve ids cargo).toOption.map fun id => .assign id ⟨legs⟩
  | reroute cargo destination =>
    (resolve ids cargo).toOption.map fun id => .changeDestination id ⟨normalized destination⟩
  | handle cargo event location voyage completed =>
    (resolve ids cargo).toOption.bind fun id =>
      let kind := EventKind.ofName event
      let voyage := normalized (voyage.getD "")
      if kind = .notHandled then none
      else if kind.requiresVoyage && voyage = "" then none
      else some <| .register
        { trackingId := id, kind, location := ⟨normalized location⟩, voyageNumber := ⟨voyage⟩
          completedAt := some (completed.getD draw.now) }
  | list | locations | track .. => none

variable {σ : Type} [CargoStore σ]

/-- The store after a command that succeeds. -/
def after? (directory : Directory) (draw : Draw) (store : σ) (command : Command) : Option σ :=
  (command.call? draw (trackingIds store)).bind fun call =>
    (call.reply directory draw.now store).after? store

end Command

/-- The script ends with the given store, or fails if there is none. -/
def Script.EndsWith {σ : Type} (script : Script σ Unit) (store : σ) (after? : Option σ) : Prop :=
  ∀ terminal : Terminal σ, terminal.world.store = store →
    match after? with
    | some after => ∃ terminal', script.on terminal = (.ok (), terminal') ∧
        terminal'.world.store = after
    | none => ∃ message terminal', script.on terminal = (.error message, terminal')

section Ends

variable {σ α : Type} [CargoStore σ] {store : σ}

/-- A script that wraps an operation ends as the call of the operation does. -/
theorem Script.Wraps.endsWith [LawfulStore σ] {directory : Directory} {now : Instant}
    {script : Script σ Unit} {service : Service σ α} {call : Call} {answer : α → Answer} (h : script.Wraps service)
    (hserve : call.serve directory now = (do return answer (← service)))
    (hcall : ∀ event, call ≠ .record event) :
    script.EndsWith store ((call.reply directory now store).after? store) := by
  rintro terminal rfl
  have hdescribes := Call.describes_serve directory now terminal.world fun event heq =>
    absurd heq (hcall event)
  rw [hserve, Service.on_map] at hdescribes
  obtain ⟨hresult, hstore, -⟩ := hdescribes
  unfold Reply.after?
  rw [← hresult, ← hstore]
  rcases hservice : service.on terminal.world with ⟨e | a, world⟩
  · obtain ⟨message, terminal', hscript, -⟩ := h.fails hservice
    exact ⟨message, terminal', hscript⟩
  · exact h.succeeds hservice

omit [CargoStore σ] in
theorem Script.endsWith_throw (message : String) :
    (throw message : Script σ Unit).EndsWith store none :=
  fun terminal _ => ⟨message, terminal, rfl⟩

theorem Script.endsWith_resolve_bind {reference : String} {next : TrackingId → Script σ Unit}
    {after : TrackingId → Option σ} (h : ∀ id, (next id).EndsWith store (after id)) :
    (resolveCargo reference >>= next).EndsWith store
      ((resolve (trackingIds store) reference).toOption.bind after) := by
  rintro terminal rfl
  rw [on_bind, on_resolveCargo]
  cases resolve (trackingIds terminal.world.store) reference with
  | error fault => exact ⟨_, _, rfl⟩
  | ok id => exact h id terminal rfl

theorem Command.run_endsWith [LawfulStore σ] (directory : Directory) (draw : Draw)
    {command : Command} (h : command.Changes) :
    (command.run directory draw.now draw.fresh : Script σ Unit).EndsWith store
      (command.after? directory draw store) := by
  cases command with
  | book origin destination deadline =>
    exact (runBook_wraps directory draw.now draw.fresh origin destination deadline).endsWith rfl
      (by rintro _ ⟨⟩)
  | route cargo legs =>
    unfold after? call?
    rw [Option.bind_map]
    exact Script.endsWith_resolve_bind fun id =>
      (runRoute_wraps draw.now id legs).endsWith rfl (by rintro _ ⟨⟩)
  | reroute cargo destination =>
    unfold after? call?
    rw [Option.bind_map]
    exact Script.endsWith_resolve_bind fun id =>
      (runReroute_wraps directory draw.now id destination).endsWith rfl (by rintro _ ⟨⟩)
  | handle cargo event location voyage completed =>
    unfold after? call?
    rw [Option.bind_assoc]
    refine Script.endsWith_resolve_bind fun id => ?_
    dsimp only
    by_cases hkind : EventKind.ofName event = .notHandled
    · rw [if_pos hkind, runHandle, if_pos hkind]
      exact Script.endsWith_throw _
    · rw [if_neg hkind]
      by_cases hvoyage : (EventKind.ofName event).requiresVoyage && normalized (voyage.getD "") = ""
      · rw [if_pos hvoyage, runHandle, if_neg hkind, if_pos hvoyage]
        exact Script.endsWith_throw _
      · rw [if_neg hvoyage]
        exact (runHandle_wraps directory draw.now id location completed hkind
          (Bool.eq_false_iff.mpr hvoyage)).endsWith rfl (by rintro _ ⟨⟩)
  | list | locations | track => cases h

end Ends

/-! ## Whole runs -/

namespace Command

/-- How a command ends that is run on a store. -/
def completion {σ : Type} [CargoStore σ] (directory : Directory) (draw : Draw) (store : σ)
    (command : Command) : Completion σ :=
  (command.run directory draw.now draw.fresh).complete store

theorem completion_eq_on {σ : Type} [CargoStore σ] (directory : Directory) (draw : Draw) (store : σ)
    (command : Command) :
    command.completion directory draw store =
      ⟨((command.run directory draw.now draw.fresh).on { world := { store } }).1,
        ((command.run directory draw.now draw.fresh).on { world := { store } }).2⟩ := rfl

/-- A command that changes something succeeds and leaves the store that it is to leave, or it fails
and leaves the store as it was. -/
theorem completion_cases {σ : Type} [CargoStore σ] [LawfulStore σ] (directory : Directory)
    (draw : Draw) (store : σ) {command : Command} (h : command.Changes) :
    (∃ terminal, command.completion directory draw store = ⟨.ok (), terminal⟩ ∧
      command.after? directory draw store = some terminal.world.store) ∨
    (∃ message terminal, command.completion directory draw store = ⟨.error message, terminal⟩ ∧
      command.after? directory draw store = none ∧ terminal.world.store = store) := by
  have hends := command.run_endsWith directory draw h { world := { store } } rfl
  rw [completion_eq_on]
  cases hafter : command.after? directory draw store with
  | some after =>
    rw [hafter] at hends
    obtain ⟨terminal, hrun, rfl⟩ := hends
    exact .inl ⟨terminal, by rw [hrun], rfl⟩
  | none =>
    rw [hafter] at hends
    obtain ⟨message, terminal, hrun⟩ := hends
    have huntouched := run_allOrNothing directory draw.now draw.fresh command _ _ _ hrun
    exact .inr ⟨message, terminal, by rw [hrun], rfl, huntouched.1⟩

end Command

end CargoTracking
