import CargoTracking.CommandLine.Options
import CargoTracking.Proofs.LetterCase

/-!
# Scanning in any letter case

Two lines that differ in the letter case of codes at most are taken up alike.  Each step of the scan
keeps the two alike, or refuses both, and so does the whole scan.
-/

namespace CargoTracking

/-! ## Results that are alike -/

/-- The second one succeeds whenever the first does, with a related result. -/
def Mirrors {ε α β : Type} (R : α → β → Prop) (x : Except ε α) (y : Except ε β) : Prop :=
  ∀ a, x = .ok a → ∃ b, y = .ok b ∧ R a b

section Mirrors

variable {ε α β γ δ : Type} {R : α → β → Prop} {S : γ → δ → Prop} {x : Except ε α} {y : Except ε β}

theorem mirrors_pure {a : α} {b : β} (h : R a b) :
    Mirrors R (pure a : Except ε α) (pure b : Except ε β) := by
  rintro _ ⟨⟩
  exact ⟨b, rfl, h⟩

theorem mirrors_error (e : ε) : Mirrors R (.error e) y := nofun

theorem Mirrors.and_left {P : α → Prop} (h : Mirrors R x y) (hP : ∀ a, x = .ok a → P a) :
    Mirrors (fun a b => R a b ∧ P a) x y := by
  intro a ha
  obtain ⟨b, hb, hab⟩ := h a ha
  exact ⟨b, hb, hab, hP a ha⟩

theorem Mirrors.bind (h : Mirrors R x y) {f : α → Except ε γ} {g : β → Except ε δ}
    (hnext : ∀ a b, R a b → Mirrors S (f a) (g b)) : Mirrors S (x >>= f) (y >>= g) := by
  intro c hc
  cases x with
  | error e => cases hc
  | ok a =>
    obtain ⟨b, rfl, hab⟩ := h a rfl
    exact hnext a b hab c hc

/-- What mirrors each other succeeds on both sides or on neither. -/
theorem Mirrors.rel {T : β → α → Prop} (h : Mirrors R x y) (h' : Mirrors T y x) :
    Option.Rel R x.toOption y.toOption := by
  cases x with
  | ok a =>
    obtain ⟨b, rfl, hab⟩ := h a rfl
    exact .some hab
  | error e =>
    cases y with
    | error e' => exact .none
    | ok b =>
      obtain ⟨_, hok, -⟩ := h' b rfl
      cases hok

end Mirrors

section Options

variable {α β γ δ : Type} {R : α → β → Prop} {S : γ → δ → Prop}

theorem rel_bind {x : Option α} {y : Option β} (h : Option.Rel R x y) {f : α → Option γ}
    {g : β → Option δ} (hnext : ∀ a b, R a b → Option.Rel S (f a) (g b)) :
    Option.Rel S (x >>= f) (y >>= g) := by
  cases h with
  | none => exact .none
  | some h => exact hnext _ _ h

theorem rel_bind_same {x : Option α} {f : α → Option γ} {g : α → Option δ}
    (hnext : ∀ a, Option.Rel S (f a) (g a)) : Option.Rel S (x >>= f) (x >>= g) := by
  cases x with
  | none => exact .none
  | some a => exact hnext a

theorem rel_refl {T : α → α → Prop} (h : ∀ a, T a a) (x : Option α) : Option.Rel T x x := by
  cases x with
  | none => exact .none
  | some a => exact .some (h a)

theorem rel_imp {T : α → β → Prop} {x : Option α} {y : Option β} (h : Option.Rel R x y)
    (himp : ∀ a b, R a b → T a b) : Option.Rel T x y := by
  cases h with
  | none => exact .none
  | some h => exact .some (himp _ _ h)

theorem rel_mapM {l : List α} {l' : List β} (h : List.Forall₂ R l l') {f : α → Option γ}
    {g : β → Option δ} (hnext : ∀ a b, R a b → Option.Rel S (f a) (g b)) :
    Option.Rel (List.Forall₂ S) (l.mapM f) (l'.mapM g) := by
  induction h with
  | nil => exact .some .nil
  | cons hab _ ih =>
    rw [List.mapM_cons, List.mapM_cons]
    exact rel_bind (hnext _ _ hab) fun _ _ hhead => rel_bind ih fun _ _ htail =>
      .some (.cons hhead htail)

end Options

namespace CommandLine

/-! ## What has been taken up -/

/-- Values of the option that are the same up to the letter case of codes. -/
def SameValue (name value value' : String) : Prop := value = value' ∨ RecasedValue name value value'

/-- The option takes codes in any letter case, as values of its own. -/
structure OptionSpec.Caseless (option : OptionSpec) : Prop where
  accepts : ∀ value value', RecasedValue option.name value value' →
    option.accept value = .ok () → option.accept value' = .ok ()
  takes : option.name ∈ caselessOptions → option.shape = .value ∨ option.shape = .values

/-- The same options have been taken up, with the same values up to the letter case of codes. -/
structure Taken.Alike (taken taken' : Taken) : Prop where
  values : List.Forall₂ (fun e e' => e.1 = e'.1 ∧ SameValue e.1 e.2 e'.2) taken.values taken'.values
  pending : Option.Rel (fun p p' => p.1 = p'.1 ∧ p.1.Caseless ∧
    Option.Rel (SameValue p.1.name) p.2 p'.2) taken.pending taken'.pending
  operandTaken : taken.operandTaken = taken'.operandTaken

structure Level.Caseless (level : Level) : Prop where
  options : ∀ option ∈ level.options, option.Caseless
  operand : ∀ option ∈ level.operand, option.Caseless

namespace Taken

variable {taken taken' : Taken} {option : OptionSpec} {value value' : String}

theorem Alike.any (h : taken.Alike taken') (name : String) :
    (taken.values.any (·.1 == name)) = taken'.values.any (·.1 == name) := by
  have hvalues := h.values
  generalize taken.values = values, taken'.values = values' at hvalues
  induction hvalues with
  | nil => rfl
  | cons he _ ih => rw [List.any_cons, List.any_cons, he.1, ih]

theorem Alike.accept (h : taken.Alike taken') (hoption : option.Caseless)
    (hvalue : SameValue option.name value value') :
    Mirrors Alike (taken.accept option value) (taken'.accept option value') := by
  have haccept : Mirrors (fun _ _ => True) (option.accept value) (option.accept value') := by
    intro _ hok
    rcases hvalue with rfl | hvalue
    · exact ⟨(), hok, trivial⟩
    · exact ⟨(), hoption.accepts _ _ hvalue hok, trivial⟩
  have hadd : Mirrors Alike
      (do option.accept value
          return { taken with values := taken.values ++ [(option.name, value)] })
      (do option.accept value'
          return { taken' with values := taken'.values ++ [(option.name, value')] }) :=
    haccept.bind fun _ _ _ => mirrors_pure
      { h with values := List.rel_append h.values (.cons ⟨rfl, hvalue⟩ .nil) }
  unfold Taken.accept
  rw [h.any]
  -- Whether the option may come again does not depend on values.
  cases option.shape with
  | values => exact hadd
  | flag | value | answer =>
    dsimp only
    split
    · exact mirrors_error _
    · exact hadd

theorem Alike.settle (h : taken.Alike taken') : Mirrors Alike taken.settle taken'.settle := by
  obtain ⟨values, pending, operandTaken⟩ := taken
  obtain ⟨values', pending', operandTaken'⟩ := taken'
  obtain ⟨hvalues, hpending, hoperand⟩ := h
  cases hpending with
  | none => exact mirrors_pure ⟨hvalues, .none, hoperand⟩
  | @some p p' hpending =>
    obtain ⟨option, value⟩ := p
    obtain ⟨option', value'⟩ := p'
    obtain ⟨rfl, hoption, hvalue⟩ := hpending
    cases hvalue with
    | none => exact mirrors_error _
    | some hvalue =>
      have halike : Alike ⟨values, none, operandTaken⟩ ⟨values', none, operandTaken'⟩ :=
        ⟨hvalues, .none, hoperand⟩
      exact halike.accept hoption hvalue

theorem Alike.await (h : taken.Alike taken') (hoption : option.Caseless) {value value' : Option String}
    (hvalue : Option.Rel (SameValue option.name) value value') :
    (taken.await option value).Alike (taken'.await option value') :=
  { h with pending := .some ⟨rfl, hoption, hvalue⟩ }

theorem Alike.awaiting?_eq (h : taken.Alike taken') : taken.awaiting? = taken'.awaiting? := by
  obtain ⟨values, pending, operandTaken⟩ := taken
  obtain ⟨values', pending', operandTaken'⟩ := taken'
  obtain ⟨-, hpending, -⟩ := h
  cases hpending with
  | none => rfl
  | @some p p' hpending =>
    obtain ⟨option, value⟩ := p
    obtain ⟨option', value'⟩ := p'
    obtain ⟨rfl, -, hvalue⟩ := hpending
    cases hvalue <;> rfl

/-- The option that waits for a value is one that takes codes in any letter case. -/
theorem Alike.caseless_of_awaiting (h : taken.Alike taken') (hawaiting : taken.awaiting? = some option) :
    option.Caseless := by
  obtain ⟨values, pending, operandTaken⟩ := taken
  obtain ⟨values', pending', operandTaken'⟩ := taken'
  obtain ⟨-, hpending, -⟩ := h
  cases hpending with
  | none => cases hawaiting
  | @some p p' hpending =>
    obtain ⟨option', value⟩ := p
    obtain ⟨-, hoption, -⟩ := hpending
    cases value with
    | none => cases hawaiting; exact hoption
    | some value => cases hawaiting

theorem settle_of_awaiting (h : taken.awaiting? = some option) :
    taken.settle = .error .missingValue := by
  obtain ⟨values, pending, operandTaken⟩ := taken
  unfold awaiting? at h
  unfold settle
  dsimp only at h ⊢
  split at h
  · rfl
  · cases h

/-! ### Values -/

theorem Alike.value? (h : taken.Alike taken') (name : String) :
    Option.Rel (SameValue name) (taken.value? name) (taken'.value? name) := by
  obtain ⟨hvalues, -, -⟩ := h
  unfold Taken.value?
  generalize taken.values = values, taken'.values = values' at hvalues
  induction hvalues with
  | nil => exact .none
  | @cons e e' _ _ he _ ih =>
    rw [List.lookup_cons, List.lookup_cons, ← he.1]
    cases hname : name == e.1 with
    | true =>
      rw [eq_of_beq hname]
      exact .some he.2
    | false => exact ih

theorem Alike.has (h : taken.Alike taken') (name : String) : taken.has name = taken'.has name := by
  have hvalue := h.value? name
  unfold Taken.has
  generalize taken.value? name = value, taken'.value? name = value' at hvalue ⊢
  cases hvalue <;> rfl

theorem Alike.allValues (h : taken.Alike taken') (name : String) :
    List.Forall₂ (SameValue name) (taken.allValues name) (taken'.allValues name) := by
  obtain ⟨hvalues, -, -⟩ := h
  unfold Taken.allValues
  generalize taken.values = values, taken'.values = values' at hvalues
  induction hvalues with
  | nil => exact .nil
  | @cons e e' _ _ he _ ih =>
    rw [List.filter_cons, List.filter_cons, ← he.1]
    cases hname : e.1 == name with
    | true => exact .cons (eq_of_beq hname ▸ he.2) ih
    | false => exact ih

end Taken

/-! ## Scanning -/

namespace Level

variable {level : Level} {taken taken' : Taken} {option : OptionSpec}

theorem takeSwitch_alike (h : taken.Alike taken') (hoption : option.Caseless) :
    Mirrors Taken.Alike (takeSwitch taken option) (takeSwitch taken' option) := by
  unfold takeSwitch
  refine h.settle.bind fun settled settled' hsettled => ?_
  cases option.shape with
  | answer fault => exact mirrors_error fault
  | flag | value | values => exact hsettled.accept hoption (.inl rfl)

theorem Caseless.of_find? (hlevel : level.Caseless) {p : OptionSpec → Bool}
    (h : level.options.find? p = some option) : option.Caseless :=
  hlevel.options option (List.mem_of_find?_eq_some h)

theorem takeShort_alike (hlevel : level.Caseless) (h : taken.Alike taken') (letter : Char) :
    Mirrors Taken.Alike (level.takeShort taken letter) (level.takeShort taken' letter) := by
  unfold takeShort
  cases hfind : level.options.find? (·.short == some letter) with
  | none => exact mirrors_error _
  | some option => exact takeSwitch_alike h (hlevel.of_find? hfind)

theorem takeShorts_alike (hlevel : level.Caseless) (h : taken.Alike taken') (letters : List Char) :
    Mirrors Taken.Alike (letters.foldlM level.takeShort taken)
      (letters.foldlM level.takeShort taken') := by
  induction letters generalizing taken taken' with
  | nil => exact mirrors_pure h
  | cons letter letters ih =>
    rw [List.foldlM_cons, List.foldlM_cons]
    exact (takeShort_alike hlevel h letter).bind fun _ _ hshort => ih hshort

theorem takeLong_alike (hlevel : level.Caseless) (h : taken.Alike taken') {name : String}
    {value value' : Option String} (hvalue : Option.Rel (SameValue name) value value') :
    Mirrors Taken.Alike (level.takeLong taken name value) (level.takeLong taken' name value') := by
  unfold takeLong
  cases hfind : level.options.find? (·.name == name) with
  | none => exact mirrors_error _
  | some option =>
    have hoption := hlevel.of_find? hfind
    have hname := List.find?_some hfind
    rw [← eq_of_beq hname] at hvalue
    dsimp only
    cases hvalue with
    | none =>
      cases option.shape with
      | value | values => exact h.settle.bind fun _ _ hsettled => mirrors_pure (hsettled.await hoption .none)
      | flag | answer => exact takeSwitch_alike h hoption
    | some hvalue =>
      cases option.shape with
      | value | values => exact h.settle.bind fun _ _ hsettled => hsettled.accept hoption hvalue
      | flag | answer => exact mirrors_error _

theorem takeOperand_alike (hlevel : level.Caseless) (h : taken.Alike taken') (trailing : Bool)
    (word : String) :
    Mirrors Taken.Alike (level.takeOperand taken trailing word)
      (level.takeOperand taken' trailing word) := by
  unfold takeOperand
  cases hoperand : level.operand with
  | none =>
    dsimp only
    split <;> exact mirrors_error _
  | some operand =>
    have hcaseless := hlevel.operand operand hoperand
    rw [h.operandTaken]
    dsimp only
    split
    · exact mirrors_error _
    · refine h.settle.bind fun _ _ hsettled => mirrors_pure ?_
      exact { hsettled.await hcaseless (.some (.inl rfl)) with operandTaken := rfl }

/-! ### Word by word -/

section Words

variable {word : String}

theorem scan_nil (level : Level) (trailing : Bool) (taken : Taken) :
    level.scan trailing taken [] = (do return (← taken.settle, none)) := rfl

theorem scan_trailing (level : Level) (taken : Taken) (word : String) (words : List String) :
    level.scan true taken (word :: words) = (do
      level.scan true (← level.takeOperand taken true word) words) := rfl

theorem scan_word (level : Level) (taken : Taken) (word : String) (words : List String) :
    level.scan false taken (word :: words) =
      match Word.of word with
      | .terminator => level.scan true taken words
      | .long name value => (do level.scan false (← level.takeLong taken name value) words)
      | .shorts letters => (do level.scan false (← letters.foldlM level.takeShort taken) words)
      | .plain =>
        match taken.awaiting? with
        | some option => level.scan false (taken.await option (some word)) words
        | none =>
          if level.commands.contains word then .ok (taken, some (word, words))
          else (do level.scan false (← level.takeOperand taken false word) words) := rfl

theorem scan_terminator (h : Word.of word = .terminator) (words : List String) :
    level.scan false taken (word :: words) = level.scan true taken words := by
  rw [scan_word, h]

theorem scan_long {name : String} {value : Option String} (h : Word.of word = .long name value)
    (words : List String) :
    level.scan false taken (word :: words) = (do
      level.scan false (← level.takeLong taken name value) words) := by
  rw [scan_word, h]

theorem scan_shorts {letters : List Char} (h : Word.of word = .shorts letters)
    (words : List String) :
    level.scan false taken (word :: words) = (do
      level.scan false (← letters.foldlM level.takeShort taken) words) := by
  rw [scan_word, h]

theorem scan_value (h : Word.of word = .plain) (hawaiting : taken.awaiting? = some option)
    (words : List String) :
    level.scan false taken (word :: words) =
      level.scan false (taken.await option (some word)) words := by
  rw [scan_word, h, hawaiting]

theorem scan_plain (h : Word.of word = .plain) (hawaiting : taken.awaiting? = none)
    (words : List String) :
    level.scan false taken (word :: words) =
      if level.commands.contains word then .ok (taken, some (word, words))
      else (do level.scan false (← level.takeOperand taken false word) words) := by
  rw [scan_word, h, hawaiting]

end Words

/-! ### An option that waits for a value -/

theorem takeSwitch_of_awaiting (h : taken.awaiting? = some option) (switch : OptionSpec) :
    takeSwitch taken switch = .error .missingValue := by
  unfold takeSwitch
  rw [Taken.settle_of_awaiting h]
  rfl

theorem takeLong_of_awaiting (level : Level) (h : taken.awaiting? = some option) (name : String)
    (value : Option String) : ∃ fault, level.takeLong taken name value = .error fault := by
  unfold takeLong
  rw [Taken.settle_of_awaiting h]
  split
  · exact ⟨_, rfl⟩
  · split
    all_goals first | exact ⟨_, rfl⟩ | exact ⟨_, takeSwitch_of_awaiting h _⟩

theorem takeShort_of_awaiting (level : Level) (h : taken.awaiting? = some option) (letter : Char) :
    ∃ fault, level.takeShort taken letter = .error fault := by
  unfold takeShort
  split
  · exact ⟨_, rfl⟩
  · exact ⟨_, takeSwitch_of_awaiting h _⟩

theorem takeOperand_of_awaiting (level : Level) (h : taken.awaiting? = some option) (trailing : Bool)
    (word : String) : ∃ fault, level.takeOperand taken trailing word = .error fault := by
  unfold takeOperand
  rw [Taken.settle_of_awaiting h]
  split
  · split <;> exact ⟨_, rfl⟩
  · split <;> exact ⟨_, rfl⟩

/-- An option that waits for a value is not content with a word of another form. -/
theorem scan_of_awaiting (level : Level) (h : taken.awaiting? = some option) {word : String}
    (hword : Word.of word ≠ .plain) (words : List String) :
    ∃ fault, level.scan false taken (word :: words) = .error fault := by
  cases hof : Word.of word with
  | terminator =>
    rw [scan_terminator hof]
    cases words with
    | nil => exact ⟨.missingValue, by rw [scan_nil, Taken.settle_of_awaiting h]; rfl⟩
    | cons word words =>
      obtain ⟨fault, hfault⟩ := takeOperand_of_awaiting level h true word
      exact ⟨fault, by rw [scan_trailing, hfault]; rfl⟩
  | long name value =>
    obtain ⟨fault, hfault⟩ := takeLong_of_awaiting level h name value
    exact ⟨fault, by rw [scan_long hof, hfault]; rfl⟩
  | shorts letters =>
    obtain ⟨letter, letters, rfl⟩ := List.exists_cons_of_ne_nil (Word.shorts_ne_nil hof)
    obtain ⟨fault, hfault⟩ := takeShort_of_awaiting level h letter
    exact ⟨fault, by rw [scan_shorts hof, List.foldlM_cons, hfault]; rfl⟩
  | plain => exact absurd hof hword

/-- An option for codes waits for its value, if the value is not part of its word. -/
theorem awaiting_of_takeLong (hlevel : level.Caseless) {name : String} (hname : name ∈ caselessOptions)
    (h : level.takeLong taken name none = .ok taken') :
    ∃ option, taken'.awaiting? = some option ∧ option.name = name := by
  unfold takeLong at h
  split at h
  · cases h
  · rename_i option hfind
    have hname' := List.find?_some hfind
    have hoption : option.name = name := eq_of_beq hname'
    have hshape := (hlevel.of_find? hfind).takes (hoption ▸ hname)
    cases hsettle : taken.settle with
    | error fault =>
      rw [hsettle] at h
      rcases hshape with hshape | hshape <;> rw [hshape] at h <;> cases h
    | ok settled =>
      rw [hsettle] at h
      rcases hshape with hshape | hshape <;> rw [hshape] at h <;> cases h <;>
        exact ⟨option, rfl, hoption⟩

end Level

/-! ### The whole scan -/

/-- What is left of the words at the command: nothing, or the command and the words after it. -/
def RestAlike : Option (String × List String) → Option (String × List String) → Prop :=
  Option.Rel fun rest rest' => rest.1 = rest'.1 ∧ RecasedLine rest.2 rest'.2

def ScannedAlike (r r' : Taken × Option (String × List String)) : Prop :=
  r.1.Alike r'.1 ∧ RestAlike r.2 r'.2

namespace Level

variable {level : Level} {taken taken' : Taken}

theorem scan_trailing_alike (hlevel : level.Caseless) (h : taken.Alike taken') (words : List String) :
    Mirrors ScannedAlike (level.scan true taken words) (level.scan true taken' words) := by
  induction words generalizing taken taken' with
  | nil =>
    rw [scan_nil, scan_nil]
    exact h.settle.bind fun _ _ hsettled => mirrors_pure ⟨hsettled, .none⟩
  | cons word words ih =>
    rw [scan_trailing, scan_trailing]
    exact (takeOperand_alike hlevel h true word).bind fun _ _ htaken => ih htaken

theorem scan_alike (hlevel : level.Caseless) {words words' : List String}
    (hline : RecasedLine words words') (h : taken.Alike taken') :
    Mirrors ScannedAlike (level.scan false taken words) (level.scan false taken' words') := by
  induction hline generalizing taken taken' with
  | nil =>
    rw [scan_nil, scan_nil]
    exact h.settle.bind fun _ _ hsettled => mirrors_pure ⟨hsettled, .none⟩
  | terminator words =>
    have hof : Word.of "--" = .terminator := rfl
    rw [scan_terminator hof, scan_terminator hof]
    exact scan_trailing_alike hlevel h words
  | @same word words words' hword hline ih =>
    cases hof : Word.of word with
    | terminator => exact absurd (Word.of_eq_terminator hof) hword
    | long name value =>
      have hvalue : Option.Rel (SameValue name) value value := by
        cases value with
        | none => exact .none
        | some value => exact .some (.inl rfl)
      rw [scan_long hof, scan_long hof]
      exact (takeLong_alike hlevel h hvalue).bind fun _ _ htaken => ih htaken
    | shorts letters =>
      rw [scan_shorts hof, scan_shorts hof]
      exact (takeShorts_alike hlevel h letters).bind fun _ _ htaken => ih htaken
    | plain =>
      cases hawaiting : taken.awaiting? with
      | some option =>
        rw [scan_value hof hawaiting, scan_value hof (h.awaiting?_eq ▸ hawaiting)]
        exact ih (h.await (h.caseless_of_awaiting hawaiting) (.some (.inl rfl)))
      | none =>
        rw [scan_plain hof hawaiting, scan_plain hof (h.awaiting?_eq ▸ hawaiting)]
        split
        · exact mirrors_pure ⟨h, .some ⟨rfl, hline⟩⟩
        · exact (takeOperand_alike hlevel h false word).bind fun _ _ htaken => ih htaken
  | @separate name value value' words words' hvalue hline ih =>
    obtain ⟨hne, hmark⟩ := nonempty_of_caseless name hvalue.name_mem
    have hof := Word.of_separate hne hmark
    rw [scan_long hof, scan_long hof]
    -- From here on an option for codes waits for its value.
    refine ((takeLong_alike hlevel h .none).and_left fun _ hlong =>
      awaiting_of_takeLong hlevel hvalue.name_mem hlong).bind ?_
    rintro awaiting awaiting' ⟨halike, option, hawaiting, rfl⟩
    by_cases hplain : Word.of value = .plain
    · rw [scan_value hplain hawaiting,
        scan_value (Word.of_plain hvalue.recased hplain) (halike.awaiting?_eq ▸ hawaiting)]
      exact ih (halike.await (halike.caseless_of_awaiting hawaiting) (.some (.inr hvalue)))
    · obtain ⟨fault, hfault⟩ := scan_of_awaiting level hawaiting hplain words
      rw [hfault]
      exact mirrors_error fault
  | @joined name value value' words words' hvalue hline ih =>
    obtain ⟨-, hmark⟩ := nonempty_of_caseless name hvalue.name_mem
    rw [scan_long (Word.of_joined hmark value), scan_long (Word.of_joined hmark value')]
    exact (takeLong_alike hlevel h (.some (.inr hvalue))).bind fun _ _ htaken => ih htaken

end Level

end CommandLine

end CargoTracking
