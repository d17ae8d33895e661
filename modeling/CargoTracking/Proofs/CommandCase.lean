import CargoTracking.CommandLine.Command
import CargoTracking.Proofs.Scanning

/-!
# Commands in any letter case

Two lines that differ in the letter case of codes at most are refused both, or they stand for
commands that differ in the letter case of codes at most.
-/

namespace CargoTracking

/-! ## Commands -/

/-- The commands differ in the letter case of codes at most. -/
inductive Command.Recased : Command → Command → Prop
  | book {origin origin' destination destination' : String} (deadline : Instant)
    (horigin : CargoTracking.Recased origin origin')
    (hdestination : CargoTracking.Recased destination destination') :
    Recased (.book origin destination deadline) (.book origin' destination' deadline)
  | route (cargo : String) {legs legs' : List Leg} (h : List.Forall₂ Leg.Recased legs legs') :
    Recased (.route cargo legs) (.route cargo legs')
  | reroute (cargo : String) {destination destination' : String}
    (h : CargoTracking.Recased destination destination') :
    Recased (.reroute cargo destination) (.reroute cargo destination')
  | handle (cargo event : String) {location location' : String} {voyage voyage' : Option String}
    (completed : Option Instant) (hlocation : CargoTracking.Recased location location')
    (hvoyage : Option.Rel CargoTracking.Recased voyage voyage') :
    Recased (.handle cargo event location voyage completed)
      (.handle cargo event location' voyage' completed)
  | list : Recased .list .list
  | locations : Recased .locations .locations
  | track (cargo : String) (json : Bool) : Recased (.track cargo json) (.track cargo json)

structure Invocation.Recased (invocation invocation' : Invocation) : Prop where
  database : invocation.database = invocation'.database
  verbose : invocation.verbose = invocation'.verbose
  command : invocation.command.Recased invocation'.command

namespace CommandLine

section Values

variable {name value value' : String}

theorem SameValue.symm (h : SameValue name value value') : SameValue name value' value :=
  h.imp Eq.symm RecasedValue.symm

theorem SameValue.recased (h : SameValue name value value') : Recased value value' := by
  rcases h with rfl | h
  · exact recased_refl value
  · exact h.recased

theorem SameValue.eq (h : SameValue name value value') (hname : name ∉ caselessOptions) :
    value = value' :=
  h.resolve_right fun h => hname h.name_mem

theorem Taken.Alike.value?_eq {taken taken' : Taken} (h : taken.Alike taken')
    (hname : name ∉ caselessOptions) : taken.value? name = taken'.value? name := by
  have hvalue := h.value? name
  generalize taken.value? name = value, taken'.value? name = value' at hvalue ⊢
  cases hvalue with
  | none => rfl
  | some hvalue => rw [hvalue.eq hname]

end Values

theorem SameValue.ofText {text text' : String} (h : SameValue "leg" text text') :
    Option.Rel Leg.Recased (Leg.ofText text).toOption (Leg.ofText text').toOption := by
  have hread : ∀ {text text'}, SameValue "leg" text text' →
      Mirrors Leg.Recased (Leg.ofText text) (Leg.ofText text') := by
    rintro text _ (rfl | h) leg hleg
    · exact ⟨leg, hleg, leg.recased_refl⟩
    · exact Leg.ofText_recased h.legText hleg
  exact Mirrors.rel (hread h) (hread h.symm)

/-! ### Levels -/

theorem caseless_of_not_mem {option : OptionSpec} (h : option.name ∉ caselessOptions) :
    option.Caseless :=
  ⟨fun _ _ hvalue => absurd hvalue.name_mem h, fun hname => absurd hname h⟩

theorem caseless_valueOption (name : String) : (valueOption name).Caseless :=
  ⟨fun _ _ _ _ => rfl, fun _ => .inl rfl⟩

theorem caseless_commonOptions : ∀ option ∈ commonOptions, option.Caseless := by
  have hnames : ∀ option ∈ commonOptions, option.name ∉ caselessOptions := by decide
  exact fun option hoption => caseless_of_not_mem (hnames option hoption)

theorem caseless_topLevel : topLevel.Caseless where
  options := List.forall_mem_cons.mpr ⟨caseless_of_not_mem (by decide), caseless_commonOptions⟩
  operand := nofun

theorem acceptLeg_eq_ok_iff {text : String} :
    acceptLeg text = .ok () ↔ ∃ leg, Leg.ofText text = .ok leg := by
  unfold acceptLeg
  cases Leg.ofText text with
  | ok leg => simp
  | error fault => simp

theorem caseless_legOption :
    OptionSpec.Caseless { name := "leg", shape := .values, accept := acceptLeg } where
  accepts text text' h hok := by
    obtain ⟨leg, hleg⟩ := acceptLeg_eq_ok_iff.1 hok
    obtain ⟨leg', hleg', -⟩ := Leg.ofText_recased h.legText hleg
    exact acceptLeg_eq_ok_iff.2 ⟨leg', hleg'⟩
  takes _ := .inr rfl

theorem caseless_options : ∀ spec ∈ commands, ∀ option ∈ spec.options, option.Caseless := by
  simp only [commands, List.forall_mem_cons, List.not_mem_nil, false_implies, implies_true, and_true,
    true_and]
  refine ⟨?book, ?route, ?reroute, ?handle, ?track⟩
  case book =>
    exact ⟨caseless_valueOption _, caseless_valueOption _, caseless_of_not_mem (by decide)⟩
  case route => exact ⟨caseless_valueOption _, caseless_legOption⟩
  case reroute => exact ⟨caseless_valueOption _, caseless_valueOption _⟩
  case handle =>
    exact ⟨caseless_valueOption _, caseless_valueOption _, caseless_valueOption _,
      caseless_valueOption _, caseless_of_not_mem (by decide)⟩
  case track => exact caseless_of_not_mem (by decide)

theorem caseless_operand : ∀ spec ∈ commands, ∀ option ∈ spec.operand, option.Caseless := by
  have hoperand : ∀ spec ∈ commands, spec.operand = none ∨ spec.operand = some (valueOption "cargo") := by
    simp [commands]
  intro spec hspec option hoption
  rcases hoperand spec hspec with hnone | hcargo
  · rw [hnone] at hoption
    cases hoption
  · rw [hcargo] at hoption
    cases hoption
    exact caseless_valueOption _

theorem caseless_level {spec : CommandSpec} (h : spec ∈ commands) : spec.level.Caseless where
  options := List.forall_mem_append.mpr ⟨caseless_options spec h, caseless_commonOptions⟩
  operand := caseless_operand spec h

/-! ### Putting a command together -/

theorem build_alike {taken taken' : Taken} (h : taken.Alike taken') :
    ∀ spec ∈ commands, Option.Rel Command.Recased (spec.build taken) (spec.build taken') := by
  have hcargo : taken.value? "cargo" = taken'.value? "cargo" := h.value?_eq (by decide)
  simp only [commands, List.forall_mem_cons, List.not_mem_nil, false_implies, implies_true, and_true]
  refine ⟨?book, ?list, ?locations, ?route, ?reroute, ?handle, ?track⟩
  case book =>
    rw [h.value?_eq (show "deadline" ∉ caselessOptions by decide)]
    refine rel_bind (h.value? "origin") fun _ _ horigin => ?_
    refine rel_bind (h.value? "destination") fun _ _ hdestination => ?_
    refine rel_bind_same fun text => ?_
    refine rel_bind_same fun deadline => ?_
    exact .some (.book deadline horigin.recased hdestination.recased)
  case list => exact .some .list
  case locations => exact .some .locations
  case route =>
    have hread : ∀ text text', SameValue "leg" text text' →
        Option.Rel Leg.Recased (Leg.ofText text).toOption (Leg.ofText text').toOption :=
      fun _ _ => SameValue.ofText
    rw [hcargo]
    refine rel_bind (rel_mapM (h.allValues "leg") hread) fun legs legs' hlegs => ?_
    cases hlegs with
    | nil => exact .none
    | cons hfirst hrest =>
      refine rel_bind_same fun cargo => ?_
      exact .some (.route cargo (.cons hfirst hrest))
  case reroute =>
    rw [hcargo]
    refine rel_bind_same fun cargo => ?_
    refine rel_bind (h.value? "destination") fun _ _ hdestination => ?_
    exact .some (.reroute cargo hdestination.recased)
  case handle =>
    have hvoyage : Option.Rel Recased (taken.value? "voyage") (taken'.value? "voyage") :=
      rel_imp (h.value? "voyage") fun _ _ => SameValue.recased
    rw [hcargo, h.value?_eq (show "event" ∉ caselessOptions by decide),
      h.value?_eq (show "completed" ∉ caselessOptions by decide)]
    refine rel_bind_same fun cargo => ?_
    refine rel_bind_same fun event => ?_
    refine rel_bind (h.value? "location") fun _ _ hlocation => ?_
    exact .some (.handle cargo event _ hlocation.recased hvoyage)
  case track =>
    rw [hcargo, h.has]
    refine rel_bind_same fun cargo => ?_
    exact .some (.track cargo _)

/-! ## The whole line -/

theorem parse_alike {words words' : List String} (h : RecasedLine words words') :
    Mirrors Invocation.Recased (parse words) (parse words') := by
  have hempty : Taken.Alike {} {} := ⟨.nil, .none, rfl⟩
  unfold parse
  refine (Level.scan_alike caseless_topLevel h hempty).bind ?_
  rintro ⟨top, command?⟩ ⟨top', command?'⟩ ⟨htop, hrest⟩
  dsimp only at htop hrest ⊢
  cases hrest with
  | none => exact mirrors_error _
  | @some rest rest' hrest =>
    obtain ⟨name, words⟩ := rest
    obtain ⟨_, words'⟩ := rest'
    obtain ⟨rfl, hline⟩ := hrest
    dsimp only
    by_cases hhelp : name = helpCommand
    · rw [if_pos hhelp, if_pos hhelp]
      exact mirrors_error _
    · rw [if_neg hhelp, if_neg hhelp]
      cases hfind : commands.find? (·.name == name) with
      | none => exact mirrors_error _
      | some spec =>
        have hspec := List.mem_of_find?_eq_some hfind
        refine (Level.scan_alike (caseless_level hspec) hline hempty).bind ?_
        rintro ⟨taken, _⟩ ⟨taken', _⟩ ⟨htaken, -⟩
        dsimp only at htaken ⊢
        have hbuild := build_alike htaken spec hspec
        generalize spec.build taken = command?, spec.build taken' = command?' at hbuild ⊢
        cases hbuild with
        | none => exact mirrors_error _
        | some hcommand =>
          refine htop.settle.bind fun settled settled' hsettled => mirrors_pure ?_
          have hdatabase : "database" ∉ caselessOptions := by decide
          refine ⟨?_, ?_, hcommand⟩
          · dsimp only
            rw [htaken.value?_eq hdatabase, hsettled.value?_eq hdatabase]
          · dsimp only
            rw [htaken.has, hsettled.has]

end CommandLine

end CargoTracking
