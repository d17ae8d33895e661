import CargoTracking.Proofs.CommandCase
import CargoTracking.Proofs.TwoRuns

/-!
# Runs in any letter case

Two lines that differ in the letter case of codes at most come to the same, but for the id and the
times that the runs draw, since codes are put into upper case before they are used.  The codes of legs
are not: they are kept as they were given.
-/

namespace CargoTracking

open CargoStore Inspection

/-! ## Commands that are alike -/

theorem sameTime_getD (draw draw' : Draw) (completed : Option Instant) :
    SameTime draw draw' (completed.getD draw.now) (completed.getD draw'.now) := by
  cases completed with
  | none => exact .inr ⟨rfl, rfl⟩
  | some time => exact .inl rfl

theorem normalized_getD_eq {voyage voyage' : Option String} (h : Option.Rel Recased voyage voyage') :
    normalized (voyage.getD "") = normalized (voyage'.getD "") := by
  cases h with
  | none => rfl
  | some h => exact h.normalized_eq

/-- The legs of the itinerary that a command assigns. -/
def Command.legs : Command → List Leg
  | route _ legs => legs
  | _ => []

namespace Command

section Commands

variable {command command' : Command}

/-- Apart from the legs a command that is run looks at its codes in upper case only. -/
theorem Recased.run_eq (h : command.Recased command') (hlegs : command.legs = command'.legs)
    {σ : Type} [CargoStore σ] (directory : Directory) (now : Instant) (fresh : TrackingId) :
    (command.run directory now fresh : Script σ Unit) = command'.run directory now fresh := by
  cases h with
  | book deadline horigin hdestination =>
    simp only [run, runBook, horigin.normalized_eq, hdestination.normalized_eq]
  | route cargo h =>
    cases hlegs
    rfl
  | reroute cargo h =>
    simp only [run, runReroute, h.normalized_eq]
  | handle cargo event completed hlocation hvoyage =>
    simp only [run, runHandle, hlocation.normalized_eq, normalized_getD_eq hvoyage]
  | list | locations | track => rfl

variable {R : Leg → Leg → Prop} {draw draw' : Draw} {store : RecordStore}

theorem Recased.after?_alike (h : command.Recased command')
    (hlegs : List.Forall₂ R command.legs command'.legs) (hrefl : ∀ leg, R leg leg)
    (hdraws : draw.Comparable store draw') (directory : Directory) :
    Option.Rel (Alike R draw draw') (command.after? directory draw store)
      (command'.after? directory draw' store) := by
  unfold after?
  cases h with
  | book deadline horigin hdestination =>
    simp only [call?, horigin.normalized_eq, hdestination.normalized_eq]
    exact book_alike hrefl hdraws _ _ _
  | route cargo h =>
    simp only [call?, Option.bind_map]
    refine rel_bind_same fun id => ?_
    exact assign_alike hrefl hdraws id hlegs
  | reroute cargo h =>
    simp only [call?, h.normalized_eq, Option.bind_map]
    refine rel_bind_same fun id => ?_
    exact changeDestination_alike hrefl hdraws id _
  | handle cargo event completed hlocation hvoyage =>
    simp only [call?, hlocation.normalized_eq, normalized_getD_eq hvoyage, Option.bind_assoc]
    refine rel_bind_same fun id => ?_
    by_cases hkind : EventKind.ofName event = .notHandled
    · rw [if_pos hkind, if_pos hkind]
      exact .none
    · rw [if_neg hkind, if_neg hkind]
      -- Both runs need a voyage and have none, or both register a report.
      split
      · exact .none
      · exact register_alike hrefl hdraws id _ _ _ (sameTime_getD draw draw' completed)
  | list | locations | track => exact .none

/-- A cargo that gets an itinerary was there, and is found with the legs as they were given. -/
theorem exists_legs_of_assign {directory : Directory} {now : Instant} {id : TrackingId}
    {legs : List Leg} {after : RecordStore}
    (h : ((Call.assign id ⟨legs⟩).reply directory now store).after? store = some after) :
    id ∈ trackingIds store ∧
      ∀ time, ∃ cargo, find after id time = .ok cargo ∧ cargo.itinerary.legs = legs := by
  simp only [Call.reply] at h
  split at h
  · cases h
  · rcases cases_of_lookup store id now now with
      ⟨e, hfind, -⟩ | ⟨cargo, reports, hfind, -, hreports, rfl⟩
    · rw [hfind] at h
      cases h
    · rw [hfind] at h
      cases h
      have hassigned : history store (cargo.assign ⟨legs⟩ now).trackingId = .ok reports := hreports
      exact ⟨mem_trackingIds_of_find hfind, fun time =>
        ⟨_, RecordStore.find_store_self hassigned time, rfl⟩⟩

/-- Stores that are alike in all of the legs were left by commands with the same legs. -/
theorem Recased.legs_eq (h : command.Recased command') (hdraws : draw.Comparable store draw')
    {directory : Directory} {after after' : RecordStore}
    (hafter : command.after? directory draw store = some after)
    (hafter' : command'.after? directory draw' store = some after')
    (halike : Alike Eq draw draw' after after') : command.legs = command'.legs := by
  cases h with
  | @route cargo legs legs' h =>
    simp only [after?, call?, Option.bind_map] at hafter hafter'
    obtain ⟨id, hid, hassign⟩ := Option.bind_eq_some_iff.mp hafter
    obtain ⟨_, hid', hassign'⟩ := Option.bind_eq_some_iff.mp hafter'
    cases hid.symm.trans hid'
    obtain ⟨hbooked, hlegs⟩ := exists_legs_of_assign hassign
    obtain ⟨-, hlegs'⟩ := exists_legs_of_assign hassign'
    obtain ⟨found, hfind, rfl⟩ := hlegs draw.now
    obtain ⟨found', hfind', rfl⟩ := hlegs' draw.now
    have hswap : Equiv.swap draw.fresh draw'.fresh id = id := by
      by_contra hne
      exact (hdraws.unused hne).1.unbooked hbooked
    have hcargo := (halike id).cargo draw.now
    rw [hswap, hfind, hfind'] at hcargo
    cases hcargo with
    | some hsame => exact List.forall₂_eq_eq_eq ▸ hsame.legs
  | book | reroute | handle | list | locations | track => rfl

end Commands

end Command

/-! ## Runs -/

/-- What running two commands on the same store comes to, if they differ in the letter case of codes
at most. -/
structure RunsAlike (directory : Directory) (draw draw' : Draw) (store : RecordStore)
    (command command' : Command) : Prop where
  results : (command.completion directory draw store).result.isOk =
    (command'.completion directory draw' store).result.isOk
  /-- The stores are alike, but for the letter case of the codes in legs. -/
  alike : Alike Leg.Recased draw draw' (command.completion directory draw store).terminal.world.store
    (command'.completion directory draw' store).terminal.world.store
  /-- They are alike in these as well just if no legs were assigned, or the same. -/
  alike_iff : Alike Eq draw draw' (command.completion directory draw store).terminal.world.store
      (command'.completion directory draw' store).terminal.world.store ↔
    (command.completion directory draw store).result.isOk = false ∨ command.legs = command'.legs
  /-- Then nothing but the time and the id can make a difference. -/
  same : draw = draw' → command.legs = command'.legs →
    command.completion directory draw store = command'.completion directory draw' store

theorem Command.Recased.legs_recased {command command' : Command} (h : command.Recased command') :
    List.Forall₂ Leg.Recased command.legs command'.legs := by
  cases h with
  | route cargo h => exact h
  | book | reroute | handle | list | locations | track => exact .nil

theorem Command.Recased.changes {command command' : Command} (h : command.Recased command')
    (hchanges : command.Changes) : command'.Changes := by
  cases h with
  | book | route | reroute | handle => trivial
  | list | locations | track => exact hchanges

theorem Command.Recased.runsAlike {command command' : Command} (h : command.Recased command')
    (hchanges : command.Changes) {draw draw' : Draw} {store : RecordStore}
    (hdraws : draw.Comparable store draw') (directory : Directory) :
    RunsAlike directory draw draw' store command command' := by
  have hrecased := h.after?_alike h.legs_recased Leg.recased_refl hdraws directory
  have hsame : draw = draw' → command.legs = command'.legs →
      command.completion directory draw store = command'.completion directory draw' store := by
    rintro rfl hlegs
    rw [completion, completion, h.run_eq hlegs]
  rcases completion_cases directory draw store hchanges with
    ⟨terminal, hrun, hafter⟩ | ⟨message, terminal, hrun, hafter, hstore⟩
  · rcases completion_cases directory draw' store (h.changes hchanges) with
      ⟨terminal', hrun', hafter'⟩ | ⟨_, _, _, hafter', _⟩
    · rw [hafter, hafter', Option.rel_some_some] at hrecased
      refine ⟨?results, ?alike, ?alike_iff, hsame⟩
      case results => rw [hrun, hrun']
      case alike =>
        rw [hrun, hrun']
        exact hrecased
      case alike_iff =>
        rw [hrun, hrun']
        refine ⟨fun halike => .inr (h.legs_eq hdraws hafter hafter' halike), ?_⟩
        rintro (hfail | hlegs)
        · cases hfail
        · have hequal : List.Forall₂ Eq command.legs command'.legs := by
            rw [hlegs, List.forall₂_eq_eq_eq]
          have hexact := h.after?_alike hequal (fun _ => rfl) hdraws directory
          rw [hafter, hafter', Option.rel_some_some] at hexact
          exact hexact
    · -- One cannot fail where the other succeeds.
      rw [hafter, hafter'] at hrecased
      cases hrecased
  · rcases completion_cases directory draw' store (h.changes hchanges) with
      ⟨_, _, hafter'⟩ | ⟨message', terminal', hrun', hafter', hstore'⟩
    · rw [hafter, hafter'] at hrecased
      cases hrecased
    · -- Both leave the store as it was.
      refine ⟨?results, ?alike, ?alike_iff, hsame⟩
      case results =>
        rw [hrun, hrun']
        rfl
      case alike =>
        rw [hrun, hrun', hstore, hstore']
        exact alike_self Leg.recased_refl hdraws
      case alike_iff =>
        rw [hrun, hrun', hstore, hstore']
        exact iff_of_true (alike_self (fun _ => rfl) hdraws) (.inl rfl)

/-- **Codes in any letter case.**  Whatever the records hold, two lines that differ in the letter
case of location and voyage codes at most are refused both, or are commands that differ in it at
most.  Those that change something both succeed or both fail, and they leave the same cargos,
itineraries, routing statuses and histories, up to the ids and times that the runs have drawn, if and
only if they assign no legs in another letter case. -/
theorem codes_in_any_case (directory : Directory) {draw draw' : Draw} {store : RecordStore}
    (hdraws : draw.Comparable store draw') {words words' : List String}
    (h : CommandLine.RecasedLine words words') :
    Option.Rel (fun invocation invocation' => invocation.Recased invocation' ∧
        (invocation.command.Changes →
          RunsAlike directory draw draw' store invocation.command invocation'.command))
      (CommandLine.parse words).toOption (CommandLine.parse words').toOption := by
  have hparse := (CommandLine.parse_alike h).rel (CommandLine.parse_alike h.symm)
  refine rel_imp hparse fun invocation invocation' hrecased => ⟨hrecased, ?_⟩
  exact fun hchanges => hrecased.command.runsAlike hchanges hdraws directory

/-- Records of a cargo that is booked. -/
def bookedRecords : RecordStore :=
  store empty (.book ⟨"3F2A9C1B"⟩ sampleSpecification (sampleDay 1))

def sampleDraw : Draw := ⟨sampleDay 4, ⟨"5D07E4A2"⟩⟩

def otherDraw : Draw := ⟨sampleDay 5, ⟨"77B1D0E3"⟩⟩

/-- A loading is registered in either letter case, and leaves stores that are alike. -/
theorem loaded_in_any_case :
    ∃ command command',
      CommandLine.parse ["handle", "--cargo", "3F2A9C1B", "--event", "load", "--location", "CNHKG",
        "--voyage=V100"] = .ok ⟨none, false, command⟩ ∧
      CommandLine.parse ["handle", "--cargo", "3F2A9C1B", "--event", "load", "--location", "cnhkg",
        "--voyage=v100"] = .ok ⟨none, false, command'⟩ ∧
      (command.completion .sample sampleDraw bookedRecords).result.isOk ∧
      (command'.completion .sample otherDraw bookedRecords).result.isOk ∧
      Alike Eq sampleDraw otherDraw
        (command.completion .sample sampleDraw bookedRecords).terminal.world.store
        (command'.completion .sample otherDraw bookedRecords).terminal.world.store := by
  have hdraws : sampleDraw.Comparable bookedRecords otherDraw :=
    .inr ⟨⟨by decide +kernel, ok_of_toOption (by decide +kernel)⟩,
      ⟨by decide +kernel, ok_of_toOption (by decide +kernel)⟩⟩
  have hline : CommandLine.RecasedLine
      ["handle", "--cargo", "3F2A9C1B", "--event", "load", "--location", "CNHKG", "--voyage=V100"]
      ["handle", "--cargo", "3F2A9C1B", "--event", "load", "--location", "cnhkg",
        "--voyage=v100"] := by
    have hlocation : CommandLine.RecasedValue "location" "CNHKG" "cnhkg" :=
      .code (by decide) (by decide)
    have hvoyage : CommandLine.RecasedValue "voyage" "V100" "v100" := .code (by decide) (by decide)
    iterate 5 apply CommandLine.RecasedLine.same (by decide)
    exact .separate hlocation (.joined hvoyage .nil)
  obtain ⟨-, hruns⟩ := Option.rel_some_some.mp (codes_in_any_case .sample hdraws hline)
  exact ⟨_, _, rfl, rfl, by decide +kernel, by decide +kernel,
    (hruns trivial).alike_iff.mpr (.inr rfl)⟩

/-- The routing status that a line leaves the cargo with, if it succeeds. -/
def statusAfter (words : List String) : Option RoutingStatus :=
  match CommandLine.parse words with
  | .error _ => none
  | .ok invocation =>
    let completion := invocation.command.completion .sample sampleDraw bookedRecords
    match completion.result, find completion.terminal.world.store ⟨"3F2A9C1B"⟩ (sampleDay 6) with
    | .ok (), .ok cargo => some cargo.delivery.routingStatus
    | _, _ => none

/-- Codes in legs are kept in the letter case that they are given in, and what is compared with them
is in upper case. -/
theorem misrouted_in_lower_case :
    CommandLine.RecasedLine
        ["route", "--cargo", "3F2A9C1B", "--leg",
          "V100,CNHKG,SESTO,2009-03-03T00:00:00Z,2009-03-09T00:00:00Z"]
        ["route", "--cargo", "3F2A9C1B", "--leg",
          "v100,cnhkg,sesto,2009-03-03T00:00:00Z,2009-03-09T00:00:00Z"] ∧
      statusAfter ["route", "--cargo", "3F2A9C1B", "--leg",
        "V100,CNHKG,SESTO,2009-03-03T00:00:00Z,2009-03-09T00:00:00Z"] = some .routed ∧
      statusAfter ["route", "--cargo", "3F2A9C1B", "--leg",
        "v100,cnhkg,sesto,2009-03-03T00:00:00Z,2009-03-09T00:00:00Z"] = some .misrouted := by
  refine ⟨?_, by decide +kernel, by decide +kernel⟩
  have hleg : Leg.RecasedText "V100,CNHKG,SESTO,2009-03-03T00:00:00Z,2009-03-09T00:00:00Z"
      "v100,cnhkg,sesto,2009-03-03T00:00:00Z,2009-03-09T00:00:00Z" :=
    ⟨by decide +kernel, by decide +kernel⟩
  iterate 3 apply CommandLine.RecasedLine.same (by decide)
  exact .separate (.leg hleg) .nil

end CargoTracking
