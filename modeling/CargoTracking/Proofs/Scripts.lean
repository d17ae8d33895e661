import CargoTracking.CommandLine.Run
import CargoTracking.Proofs.Operations

/-!
# What the steps of a command do

One equation for each step of a script, as for the operations.  Writing to the terminal never fails,
and that is what every command does last.
-/

namespace CargoTracking.Script

variable {σ α β : Type}

/-- The result of a script on a terminal, and the terminal after it. -/
def on (script : Script σ α) (terminal : Terminal σ) : Except String α × Terminal σ :=
  (ExceptT.run script).run terminal

theorem on_bind (script : Script σ α) (next : α → Script σ β) (terminal : Terminal σ) :
    (script >>= next).on terminal =
      match script.on terminal with
      | (.ok a, terminal) => (next a).on terminal
      | (.error message, terminal) => (.error message, terminal) := by
  rw [on, run_bind]
  unfold on
  rcases (ExceptT.run script).run terminal with ⟨_ | _, _⟩ <;> rfl

theorem on_get (terminal : Terminal σ) :
    (get : Script σ (Terminal σ)).on terminal = (.ok terminal, terminal) := rfl

theorem on_throw (message : String) (terminal : Terminal σ) :
    (throw message : Script σ α).on terminal = (.error message, terminal) := rfl

theorem on_attempt (failure : String) (service : Service σ α) (terminal : Terminal σ) :
    (attempt failure service).on terminal =
      match service.on terminal.world with
      | (.ok a, world) => (.ok a, { terminal with world })
      | (.error e, world) => (.error (failure ++ ": " ++ e.message), { terminal with world }) := by
  have hrun : (ExceptT.run service).run terminal.world = service.on terminal.world := rfl
  unfold attempt
  simp only [on_bind, on_get]
  rw [hrun]
  rcases service.on terminal.world with ⟨_ | _, _⟩ <;> rfl

theorem on_resolveCargo [CargoStore σ] (reference : String) (terminal : Terminal σ) :
    (resolveCargo reference).on terminal =
      ((resolve (CargoStore.trackingIds terminal.world.store) reference).mapError (·.message),
        terminal) := by
  unfold resolveCargo
  simp only [on_bind, on_get]
  cases resolve (CargoStore.trackingIds terminal.world.store) reference <;> rfl

/-! ## Scripts that never fail -/

def Succeeds (script : Script σ α) : Prop :=
  ∀ terminal, ∃ a terminal', script.on terminal = (.ok a, terminal')

theorem succeeds_pure (a : α) : (pure a : Script σ α).Succeeds := fun terminal => ⟨a, terminal, rfl⟩

theorem succeeds_output (line : String) : (output line : Script σ Unit).Succeeds :=
  fun terminal => ⟨(), { terminal with output := terminal.output ++ [line] }, rfl⟩

theorem succeeds_diagnose (line : String) : (diagnose line : Script σ Unit).Succeeds :=
  fun terminal => ⟨(), { terminal with diagnostics := terminal.diagnostics ++ [line] }, rfl⟩

theorem Succeeds.bind {script : Script σ α} {next : α → Script σ β} (h : script.Succeeds)
    (hnext : ∀ a, (next a).Succeeds) : (script >>= next).Succeeds := by
  intro terminal
  obtain ⟨a, terminal', hscript⟩ := h terminal
  rw [on_bind, hscript]
  exact hnext a terminal'

theorem succeeds_when {p : Prop} [Decidable p] {script : Script σ Unit} (h : script.Succeeds) :
    (if p then script else pure ()).Succeeds := by
  by_cases hp : p
  · rw [if_pos hp]
    exact h
  · rw [if_neg hp]
    exact succeeds_pure ()

theorem succeeds_forM {γ : Type} {write : γ → Script σ Unit} (h : ∀ c, (write c).Succeeds)
    (list : List γ) : (list.forM write).Succeeds := by
  induction list with
  | nil => exact succeeds_pure ()
  | cons c list ih =>
    rw [List.forM_eq_forM, List.forM_cons]
    exact (h c).bind fun _ => ih

/-! ## Scripts that leave the store alone -/

def KeepsStore (script : Script σ α) : Prop :=
  ∀ terminal, (script.on terminal).2.world.store = terminal.world.store

theorem keepsStore_pure (a : α) : (pure a : Script σ α).KeepsStore := fun _ => rfl

theorem keepsStore_output (line : String) : (output line : Script σ Unit).KeepsStore := fun _ => rfl

theorem keepsStore_diagnose (line : String) : (diagnose line : Script σ Unit).KeepsStore :=
  fun _ => rfl

theorem KeepsStore.bind {script : Script σ α} {next : α → Script σ β} (h : script.KeepsStore)
    (hnext : ∀ a, (next a).KeepsStore) : (script >>= next).KeepsStore := by
  intro terminal
  have hstore := h terminal
  rw [on_bind]
  rcases hscript : script.on terminal with ⟨_ | a, terminal'⟩
  · rw [hscript] at hstore
    exact hstore
  · rw [hscript] at hstore
    exact (hnext a terminal').trans hstore

/-- So does one that performs an operation that only reads. -/
theorem keepsStore_attempt {failure : String} {service : Service σ α}
    (h : ∀ world, (service.on world).2.store = world.store) :
    (attempt failure service).KeepsStore := by
  intro terminal
  have hstore := h terminal.world
  rw [on_attempt]
  rcases hservice : service.on terminal.world with ⟨_ | _, _⟩
  · rw [hservice] at hstore
    exact hstore
  · rw [hservice] at hstore
    exact hstore

theorem keepsStore_when {p : Prop} [Decidable p] {script : Script σ Unit} (h : script.KeepsStore) :
    (if p then script else pure ()).KeepsStore := by
  by_cases hp : p
  · rw [if_pos hp]
    exact h
  · rw [if_neg hp]
    exact keepsStore_pure ()

theorem keepsStore_forM {γ : Type} {write : γ → Script σ Unit} (h : ∀ c, (write c).KeepsStore)
    (list : List γ) : (list.forM write).KeepsStore := by
  induction list with
  | nil => exact keepsStore_pure ()
  | cons c list ih =>
    rw [List.forM_eq_forM, List.forM_cons]
    exact (h c).bind fun _ => ih

end CargoTracking.Script
