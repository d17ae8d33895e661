import CargoTracking.CommandLine.Options
import CargoTracking.Proofs.LegText
import CargoTracking.Proofs.Resolution

/-!
# Command lines in another letter case

Codes are words of their own on a command line, parts of an option's word, or fields of a leg.  A
line in another letter case of its codes has words of the same forms, and legs that are read alike.
-/

namespace CargoTracking

/-! ## Texts in another letter case -/

/-- The texts differ in the case of letters at most. -/
def Recased (text text' : String) : Prop :=
  text.toList.map Char.toUpper = text'.toList.map Char.toUpper

instance (text text' : String) : Decidable (Recased text text') := inferInstanceAs (Decidable (_ = _))

section Texts

variable {text text' : String}

theorem recased_refl (text : String) : Recased text text := rfl

theorem Recased.symm (h : Recased text text') : Recased text' text := Eq.symm h

theorem Recased.normalized_eq (h : Recased text text') : normalized text = normalized text' := by
  apply String.toList_inj.mp
  rw [toList_normalized, toList_normalized, h]

theorem Recased.ne_empty (h : Recased text text') (hne : text ≠ "") : text' ≠ "" := by
  rintro rfl
  exact hne (String.toList_eq_nil_iff.mp (List.map_eq_nil_iff.mp h))

end Texts

namespace Leg

/-- The legs differ in the letter case of the three codes at most. -/
structure Recased (leg leg' : Leg) : Prop where
  voyage : CargoTracking.Recased leg.voyageNumber.text leg'.voyageNumber.text
  load : CargoTracking.Recased leg.loadLocation.text leg'.loadLocation.text
  unload : CargoTracking.Recased leg.unloadLocation.text leg'.unloadLocation.text
  loadTime : leg.loadTime = leg'.loadTime
  unloadTime : leg.unloadTime = leg'.unloadTime

/-- The texts differ in the letter case of the first three fields at most, which are the codes. -/
structure RecasedText (text text' : String) : Prop where
  codes : ((text.toList.splitOn ',').take 3).map (List.map Char.toUpper) =
    ((text'.toList.splitOn ',').take 3).map (List.map Char.toUpper)
  rest : (text.toList.splitOn ',').drop 3 = (text'.toList.splitOn ',').drop 3

theorem recased_refl (leg : Leg) : leg.Recased leg := ⟨rfl, rfl, rfl, rfl, rfl⟩

theorem map_intercalate_comma (parts : List (List Char)) :
    ([','].intercalate parts).map Char.toUpper =
      [','].intercalate (parts.map (List.map Char.toUpper)) := by
  have hcomma : Char.toUpper ',' = ',' := by decide
  simp only [List.intercalate]
  induction parts using List.twoStepInduction with
  | nil => rfl
  | singleton part => simp only [List.map_cons, List.map_nil, List.intersperse_singleton,
      List.flatten_cons, List.flatten_nil, List.append_nil]
  | cons_cons part next parts _ ih =>
    simp only [List.map_cons, List.intersperse_cons_cons, List.flatten_cons, List.map_append,
      List.map_nil, hcomma] at ih ⊢
    rw [ih]

namespace RecasedText

variable {text text' : String}

theorem symm (h : RecasedText text text') : RecasedText text' text := ⟨h.codes.symm, h.rest.symm⟩

theorem recased (h : RecasedText text text') : CargoTracking.Recased text text' := by
  have hparts : (text.toList.splitOn ',').map (List.map Char.toUpper) =
      (text'.toList.splitOn ',').map (List.map Char.toUpper) := by
    rw [← List.take_append_drop 3 (text.toList.splitOn ','), List.map_append, h.codes, h.rest,
      ← List.map_append, List.take_append_drop]
  have hjoined := congrArg [','].intercalate hparts
  rwa [← map_intercalate_comma, ← map_intercalate_comma, List.intercalate_splitOn,
    List.intercalate_splitOn] at hjoined

/-- The fields of the texts are alike as their parts between commas are. -/
theorem textFields (h : RecasedText text text') :
    ((textFields text).take 3).map (fun field => field.toList.map Char.toUpper) =
        ((textFields text').take 3).map (fun field => field.toList.map Char.toUpper) ∧
      (Leg.textFields text).drop 3 = (Leg.textFields text').drop 3 := by
  have hupper : ∀ parts : List (List Char), (parts.map fun part => String.ofList (Text.trimmed part)).map
      (fun field => field.toList.map Char.toUpper) =
        (parts.map (List.map Char.toUpper)).map Text.trimmed := by
    intro parts
    simp only [List.map_map]
    refine List.map_congr_left fun part _ => ?_
    simp only [Function.comp, String.toList_ofList, Text.trimmed_map_toUpper]
  simp only [Leg.textFields, ← List.map_take, ← List.map_drop, hupper, h.codes, h.rest, and_self]

end RecasedText

/-- A text in another letter case is read if the text is, as a leg in another letter case. -/
theorem ofText_recased {text text' : String} {leg : Leg} (h : RecasedText text text')
    (hread : ofText text = .ok leg) : ∃ leg', ofText text' = .ok leg' ∧ leg.Recased leg' := by
  obtain ⟨loads, unloads, hfields, hne, hloads, hunloads, hordered⟩ := ofText_eq_ok_iff.1 hread
  obtain ⟨hcodes, hrest⟩ := h.textFields
  rw [hfields] at hcodes hrest
  -- The other text has three codes and the same times.
  obtain ⟨voyage, codes, htake, hvoyage', hcodes⟩ := List.map_eq_cons_iff.mp hcodes.symm
  obtain ⟨load, codes, rfl, hload', hcodes⟩ := List.map_eq_cons_iff.mp hcodes
  obtain ⟨unload, codes, rfl, hunload', hcodes⟩ := List.map_eq_cons_iff.mp hcodes
  cases List.map_eq_nil_iff.mp hcodes
  have hfields' : Leg.textFields text' = [voyage, load, unload, loads, unloads] := by
    rw [← List.take_append_drop 3 (Leg.textFields text'), htake, ← hrest]
    rfl
  have hvoyage : CargoTracking.Recased leg.voyageNumber.text voyage := hvoyage'.symm
  have hload : CargoTracking.Recased leg.loadLocation.text load := hload'.symm
  have hunload : CargoTracking.Recased leg.unloadLocation.text unload := hunload'.symm
  refine ⟨⟨⟨voyage⟩, ⟨load⟩, ⟨unload⟩, leg.loadTime, leg.unloadTime⟩,
    ofText_eq_ok_iff.2 ⟨loads, unloads, hfields', ?_, hloads, hunloads, hordered⟩,
    ⟨hvoyage, hload, hunload, rfl, rfl⟩⟩
  exact ⟨hvoyage.ne_empty hne.1, hload.ne_empty hne.2.1, hunload.ne_empty hne.2.2⟩

end Leg

namespace CommandLine

/-! ## Lines in another letter case -/

/-- The options whose values are codes. -/
def codeOptions : List String := ["origin", "destination", "location", "voyage"]

/-- The options in whose values there are codes. -/
def caselessOptions : List String := "leg" :: codeOptions

/-- A value of the option, and the value in another letter case of its codes. -/
inductive RecasedValue : String → String → String → Prop
  | code {name value value' : String} (hname : name ∈ codeOptions) (h : Recased value value') :
    RecasedValue name value value'
  | leg {text text' : String} (h : Leg.RecasedText text text') : RecasedValue "leg" text text'

/-- The words of a line, and the words in another letter case of the codes that are values of
options.  A value is a word of its own or part of the option's word; behind the terminator there are
no options. -/
inductive RecasedLine : List String → List String → Prop
  | nil : RecasedLine [] []
  | terminator (words : List String) : RecasedLine ("--" :: words) ("--" :: words)
  | same {word : String} {words words' : List String} (hword : word ≠ "--")
    (h : RecasedLine words words') : RecasedLine (word :: words) (word :: words')
  | separate {name value value' : String} {words words' : List String}
    (hvalue : RecasedValue name value value') (h : RecasedLine words words') :
    RecasedLine (("--" ++ name) :: value :: words) (("--" ++ name) :: value' :: words')
  | joined {name value value' : String} {words words' : List String}
    (hvalue : RecasedValue name value value') (h : RecasedLine words words') :
    RecasedLine (("--" ++ name ++ "=" ++ value) :: words) (("--" ++ name ++ "=" ++ value') :: words')

theorem nonempty_of_caseless : ∀ name ∈ caselessOptions, name ≠ "" ∧ '=' ∉ name.toList := by decide

namespace RecasedValue

variable {name value value' : String}

theorem symm (h : RecasedValue name value value') : RecasedValue name value' value := by
  cases h with
  | code hname h => exact .code hname h.symm
  | leg h => exact .leg h.symm

theorem recased (h : RecasedValue name value value') : Recased value value' := by
  cases h with
  | code _ h => exact h
  | leg h => exact h.recased

theorem legText (h : RecasedValue "leg" value value') : Leg.RecasedText value value' := by
  cases h with
  | code hname _ => exact absurd hname (by decide)
  | leg h => exact h

theorem name_mem (h : RecasedValue name value value') : name ∈ caselessOptions := by
  cases h with
  | code hname _ => exact List.mem_cons_of_mem _ hname
  | leg _ => exact List.mem_cons_self

end RecasedValue

theorem RecasedLine.symm {words words' : List String} (h : RecasedLine words words') :
    RecasedLine words' words := by
  induction h with
  | nil => exact .nil
  | terminator words => exact .terminator words
  | same hword _ ih => exact .same hword ih
  | separate hvalue _ ih => exact .separate hvalue.symm ih
  | joined hvalue _ ih => exact .joined hvalue.symm ih

/-! ## Words -/

namespace Word

variable {name word word' : String}

theorem of_eq_terminator (h : of word = .terminator) : word = "--" := by
  unfold of at h
  split at h
  · rename_i hword
    exact String.toList_inj.mp hword
  · dsimp only at h
    split at h <;> cases h
  · cases h
  · cases h

theorem of_eq_plain_iff : of word = .plain ↔ word.toList.head? ≠ some '-' ∨ word.toList = ['-'] := by
  unfold of
  split
  · rename_i hword
    simp [hword]
  · rename_i hword
    dsimp only
    split <;> simp [hword]
  · rename_i hword
    simp [hword]
  · rename_i hshorts
    refine iff_of_true rfl ?_
    by_cases hhead : word.toList.head? = some '-'
    · -- More characters after the hyphen would be letters of options.
      obtain ⟨cs, hcs⟩ := List.head?_eq_some_iff.mp hhead
      cases cs with
      | nil => exact .inr hcs
      | cons c cs => exact absurd hcs (hshorts c cs)
    · exact .inl hhead

theorem of_plain (hrecased : Recased word word') (h : of word = .plain) : of word' = .plain := by
  rw [of_eq_plain_iff] at h ⊢
  have hupper : word'.toList.map Char.toUpper = word.toList.map Char.toUpper := hrecased.symm
  rcases h with hhead | hword
  · refine .inl fun hhyphen => hhead ?_
    obtain ⟨cs, hcs⟩ := List.head?_eq_some_iff.mp hhyphen
    rw [hcs] at hupper
    obtain ⟨c, cs', hword, hc, -⟩ := List.map_eq_cons_iff.mp hupper.symm
    rw [hword, List.head?_cons, Text.toUpper_eq_hyphen.mp hc]
  · rw [hword] at hupper
    obtain ⟨c, cs', hword', hc, hcs'⟩ := List.map_eq_cons_iff.mp hupper
    right
    rw [hword', Text.toUpper_eq_hyphen.mp hc, List.map_eq_nil_iff.mp hcs']

theorem shorts_ne_nil {letters : List Char} (h : of word = .shorts letters) : letters ≠ [] := by
  unfold of at h
  split at h
  · cases h
  · dsimp only at h
    split at h <;> cases h
  · cases h
    exact List.cons_ne_nil _ _
  · cases h

theorem of_hyphens {cs : List Char} (hne : cs ≠ []) (hword : word.toList = '-' :: '-' :: cs) :
    of word =
      match cs.drop (cs.takeWhile (· != '=')).length with
      | [] => long (String.ofList (cs.takeWhile (· != '='))) none
      | _ :: value => long (String.ofList (cs.takeWhile (· != '='))) (some (String.ofList value)) := by
  obtain ⟨c, cs, rfl⟩ := List.exists_cons_of_ne_nil hne
  unfold of
  rw [hword]
  rfl

theorem takeWhile_ne_append {c : Char} {cs : List Char} (h : c ∉ cs) (rest : List Char) :
    (cs ++ c :: rest).takeWhile (· != c) = cs := by
  rw [List.takeWhile_append_of_pos fun d hd => bne_iff_ne.mpr (ne_of_mem_of_not_mem hd h),
    List.takeWhile_cons_of_neg (by simp), List.append_nil]

theorem of_separate (hname : name ≠ "") (hmark : '=' ∉ name.toList) :
    of ("--" ++ name) = .long name none := by
  have hword : ("--" ++ name).toList = '-' :: '-' :: name.toList := by
    rw [String.toList_append]
    rfl
  have htake : name.toList.takeWhile (· != '=') = name.toList :=
    List.takeWhile_eq_self_iff.mpr fun c hc => bne_iff_ne.mpr (ne_of_mem_of_not_mem hc hmark)
  rw [of_hyphens (mt String.toList_eq_nil_iff.mp hname) hword, htake, List.drop_length,
    String.ofList_toList]

theorem of_joined (hmark : '=' ∉ name.toList) (value : String) :
    of ("--" ++ name ++ "=" ++ value) = .long name (some value) := by
  have hword : ("--" ++ name ++ "=" ++ value).toList =
      '-' :: '-' :: (name.toList ++ '=' :: value.toList) := by
    simp only [String.toList_append, List.append_assoc]
    rfl
  have hne : name.toList ++ '=' :: value.toList ≠ [] :=
    List.append_ne_nil_of_right_ne_nil _ (List.cons_ne_nil _ _)
  rw [of_hyphens hne hword, takeWhile_ne_append hmark, List.drop_left, String.ofList_toList]
  dsimp only
  rw [String.ofList_toList]

end Word

end CommandLine

end CargoTracking
