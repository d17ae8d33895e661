import CargoTracking.CommandLine.LegText
import CargoTracking.Network
import CargoTracking.Proofs.Instant
import CargoTracking.Proofs.Normalization
import Mathlib.Data.List.Forall2

/-!
# Legs read from a text

A leg is read from a text if and only if its codes can stand between commas and it does not unload
before it loads, and it is read from every text that writes it, whatever blanks there are around the
fields.  Nothing else is ever read, so what was read can be written and reads back.
-/

namespace CargoTracking

open Text

/-- Something that can stand between commas, with nothing at its ends that would be cut off. -/
structure IsField (field : String) : Prop where
  nonempty : field ≠ ""
  no_comma : ',' ∉ field.toList
  first : ∀ c ∈ field.toList.head?, isBlank c = false
  last : ∀ c ∈ field.toList.getLast?, isBlank c = false

/-- The field with blanks around it. -/
def Padded (field : String) (part : List Char) : Prop :=
  ∃ before after, part = before ++ field.toList ++ after ∧
    (∀ c ∈ before, isBlank c = true) ∧ ∀ c ∈ after, isBlank c = true

namespace Leg

/-- The leg can be given as a text. -/
structure WellFormed (leg : Leg) : Prop where
  voyage : IsField leg.voyageNumber.text
  load : IsField leg.loadLocation.text
  unload : IsField leg.unloadLocation.text
  ordered : leg.loadTime ≤ leg.unloadTime

def fields (leg : Leg) : List String :=
  [leg.voyageNumber.text, leg.loadLocation.text, leg.unloadLocation.text, leg.loadTime.text,
    leg.unloadTime.text]

/-- The text has the fields of the leg between commas, with blanks around them. -/
def WrittenAs (leg : Leg) (text : String) : Prop :=
  ∃ parts, List.Forall₂ Padded leg.fields parts ∧ text.toList = [','].intercalate parts

end Leg

/-! ## Parts between commas -/

namespace Text

/-- Between two separators there is none. -/
theorem not_mem_of_mem_splitOn {separator : Char} {cs part : List Char}
    (h : part ∈ cs.splitOn separator) : separator ∉ part := by
  induction cs generalizing part with
  | nil =>
    rw [List.splitOn_nil, List.mem_singleton] at h
    rw [h]
    exact List.not_mem_nil
  | cons c cs ih =>
    obtain ⟨first, rest, hsplit⟩ := List.exists_cons_of_ne_nil (List.splitOn_ne_nil separator cs)
    rw [List.splitOn_cons_eq_if_modifyHead, hsplit] at h
    rw [hsplit] at ih
    by_cases hc : (c == separator) = true
    · rw [if_pos hc] at h
      rcases List.mem_cons.mp h with rfl | h
      · exact List.not_mem_nil
      · exact ih h
    · -- The character becomes the first one of the first part.
      rw [if_neg hc, List.modifyHead_cons] at h
      rcases List.mem_cons.mp h with rfl | h
      · intro hmem
        rcases List.mem_cons.mp hmem with rfl | hmem
        · exact hc (beq_self_eq_true _)
        · exact ih List.mem_cons_self hmem
      · exact ih (List.mem_cons_of_mem first h)

end Text

section Parts

variable {field : String} {part : List Char}

theorem not_comma_of_isBlank {c : Char} (h : isBlank c = true) : c ≠ ',' := by
  rintro rfl
  exact absurd h (by decide)

theorem Padded.no_comma (h : Padded field part) (hfield : IsField field) : ',' ∉ part := by
  obtain ⟨before, after, rfl, hbefore, hafter⟩ := h
  simp only [List.mem_append, not_or]
  exact ⟨⟨fun hmem => not_comma_of_isBlank (hbefore _ hmem) rfl, hfield.no_comma⟩,
    fun hmem => not_comma_of_isBlank (hafter _ hmem) rfl⟩

theorem Padded.trimmed_eq (h : Padded field part) (hfield : IsField field) :
    String.ofList (trimmed part) = field := by
  obtain ⟨before, after, rfl, hbefore, hafter⟩ := h
  rw [trimmed_padded hbefore hafter, trimmed_of_ends hfield.first hfield.last,
    String.ofList_toList]

variable {fields : List String} {parts : List (List Char)}

theorem no_comma_of_padded (hfields : ∀ field ∈ fields, IsField field)
    (hparts : List.Forall₂ Padded fields parts) : ∀ part ∈ parts, ',' ∉ part := by
  induction hparts with
  | nil => exact fun _ hmem => absurd hmem List.not_mem_nil
  | cons hpadded _ ih =>
    rw [List.forall_mem_cons] at hfields ⊢
    exact ⟨hpadded.no_comma hfields.1, ih hfields.2⟩

theorem map_trimmed_of_padded (hfields : ∀ field ∈ fields, IsField field)
    (hparts : List.Forall₂ Padded fields parts) :
    parts.map (fun part => String.ofList (trimmed part)) = fields := by
  induction hparts with
  | nil => rfl
  | cons hpadded _ ih =>
    rw [List.forall_mem_cons] at hfields
    rw [List.map_cons, hpadded.trimmed_eq hfields.1, ih hfields.2]

theorem isField_of_plain {field : String} (hne : field ≠ "")
    (h : ∀ c ∈ field.toList, isBlank c = false ∧ c ≠ ',') : IsField field where
  nonempty := hne
  no_comma hmem := (h _ hmem).2 rfl
  first c hc := (h c (List.mem_of_mem_head? hc)).1
  last c hc := (h c (List.mem_of_mem_getLast? hc)).1

theorem padded_self (field : String) : Padded field field.toList :=
  ⟨[], [], by simp, by simp, by simp⟩

end Parts

/-! ## Written times -/

namespace Instant

theorem bounds_of_isDigit {c : Char} (h : isDigit c = true) :
    48 ≤ c.val.toNat ∧ c.val.toNat ≤ 57 := by
  unfold isDigit digitValue? at h
  split at h
  · rename_i hdigit
    exact hdigit
  · cases h

theorem of_mem_writeFraction {nanos : Nat} {c : Char} (h : c ∈ writeFraction nanos) :
    isDigit c = true ∨ c = '.' := by
  unfold writeFraction at h
  split at h
  · cases h
  · rcases List.mem_cons.mp h with rfl | h
    · exact .inr rfl
    · have hdropped := List.mem_reverse.mp h
      have hwritten := List.mem_reverse.mp ((List.dropWhile_sublist _).subset hdropped)
      exact .inl (isDigit_of_mem_writeDigits 9 nanos hwritten)

/-- A written time is of digits and of a few marks. -/
theorem of_mem_write {t : Instant} {c : Char} (h : c ∈ t.write) :
    isDigit c = true ∨ c ∈ ['-', 'T', ':', '.', 'Z'] := by
  have hdigit : ∀ {width n}, c ∈ writeDigits width n →
      isDigit c = true ∨ c ∈ ['-', 'T', ':', '.', 'Z'] :=
    fun hmem => .inl (isDigit_of_mem_writeDigits _ _ hmem)
  have hfraction : ∀ {n}, c ∈ writeFraction n →
      isDigit c = true ∨ c ∈ ['-', 'T', ':', '.', 'Z'] :=
    fun hmem => (of_mem_writeFraction hmem).imp_right fun hc => by simp [hc]
  have hyear : ∀ {year : Int}, c ∈ (if year < 0 then '-' :: writeDigits 6 year.natAbs
      else writeDigits 4 year.natAbs) → isDigit c = true ∨ c ∈ ['-', 'T', ':', '.', 'Z'] := by
    intro year hmem
    split at hmem
    · rcases List.mem_cons.mp hmem with rfl | hmem
      · exact .inr (by simp)
      · exact hdigit hmem
    · exact hdigit hmem
  simp only [write, Date.write, writeClock, List.mem_append, List.mem_cons, List.not_mem_nil,
    or_false] at h
  grind

theorem isBlank_of_mem_write {t : Instant} {c : Char} (h : c ∈ t.write) :
    isBlank c = false ∧ c ≠ ',' := by
  rcases of_mem_write h with hdigit | hmark
  · obtain ⟨hfirst, hlast⟩ := bounds_of_isDigit hdigit
    refine ⟨isBlank_of_le (by omega) (by omega), ?_⟩
    rintro rfl
    exact absurd hfirst (by decide)
  · simp only [List.mem_cons, List.not_mem_nil, or_false] at hmark
    rcases hmark with rfl | rfl | rfl | rfl | rfl <;> decide

theorem isField_text (t : Instant) : IsField t.text := by
  refine isField_of_plain (fun hempty => ?_) fun c hc => ?_
  · -- The empty text is not read as a time.
    have hread := ofString?_text t
    rw [hempty] at hread
    cases hread
  · rw [text, String.toList_ofList] at hc
    exact isBlank_of_mem_write hc

end Instant

/-! ## Reading -/

namespace Leg

variable {text : String} {leg : Leg}

/-- What is read of a text: two codes and a number as they are in its fields, and two times. -/
theorem ofText_eq_ok_iff :
    ofText text = .ok leg ↔ ∃ loads unloads,
      textFields text = [leg.voyageNumber.text, leg.loadLocation.text, leg.unloadLocation.text,
        loads, unloads] ∧
      (leg.voyageNumber.text ≠ "" ∧ leg.loadLocation.text ≠ "" ∧ leg.unloadLocation.text ≠ "") ∧
      Instant.ofString? loads = some leg.loadTime ∧
      Instant.ofString? unloads = some leg.unloadTime ∧ leg.loadTime ≤ leg.unloadTime := by
  unfold ofText
  constructor
  · intro h
    split at h
    · rename_i voyage load unload loads unloads hfields
      split at h
      · cases h
      · rename_i hnonempty
        split at h
        · cases h
        · rename_i loadTime hloads
          split at h
          · cases h
          · rename_i unloadTime hunloads
            split at h
            · cases h
            · rename_i hordered
              cases h
              rw [not_or, not_or] at hnonempty
              exact ⟨loads, unloads, hfields, hnonempty, hloads, hunloads,
                Int.not_lt.mp hordered⟩
    · cases h
  · rintro ⟨loads, unloads, hfields, ⟨hvoyage, hload, hunload⟩, hloads, hunloads, hordered⟩
    rw [hfields]
    dsimp only
    rw [if_neg (by simp [hvoyage, hload, hunload]), hloads, hunloads]
    dsimp only
    have hnotBefore : ¬leg.unloadTime < leg.loadTime := Int.not_lt.mpr hordered
    rw [if_neg hnotBefore]

/-- A field that was read is one, unless there is nothing in it. -/
theorem isField_of_mem_textFields {field : String} (h : field ∈ textFields text) (hne : field ≠ "") :
    IsField field := by
  obtain ⟨part, hpart, rfl⟩ := List.mem_map.mp h
  refine ⟨hne, ?_, ?_, ?_⟩
  · rw [String.toList_ofList]
    exact fun hmem => not_mem_of_mem_splitOn hpart (mem_of_mem_trimmed hmem)
  · rw [String.toList_ofList]
    exact fun c hc => head?_trimmed hc
  · rw [String.toList_ofList]
    exact fun c hc => getLast?_trimmed hc

theorem WellFormed.isField (h : leg.WellFormed) : ∀ field ∈ leg.fields, IsField field := by
  intro field hfield
  simp only [fields, List.mem_cons, List.not_mem_nil, or_false] at hfield
  rcases hfield with rfl | rfl | rfl | rfl | rfl
  · exact h.voyage
  · exact h.load
  · exact h.unload
  · exact leg.loadTime.isField_text
  · exact leg.unloadTime.isField_text

/-- The blanks and the commas go, and the fields stay. -/
theorem textFields_of_writtenAs (h : leg.WellFormed) (hwritten : leg.WrittenAs text) :
    textFields text = leg.fields := by
  obtain ⟨parts, hparts, htext⟩ := hwritten
  have hsplit : text.toList.splitOn ',' = parts := by
    rw [htext]
    refine List.splitOn_intercalate ',' (no_comma_of_padded h.isField hparts) ?_
    rintro rfl
    cases hparts
  rw [textFields, hsplit, map_trimmed_of_padded h.isField hparts]

theorem ofText_of_writtenAs (h : leg.WellFormed) (hwritten : leg.WrittenAs text) :
    ofText text = .ok leg := by
  refine ofText_eq_ok_iff.2 ⟨leg.loadTime.text, leg.unloadTime.text,
    textFields_of_writtenAs h hwritten, ?_, Instant.ofString?_text _, Instant.ofString?_text _,
    h.ordered⟩
  exact ⟨h.voyage.nonempty, h.load.nonempty, h.unload.nonempty⟩

theorem wellFormed_of_ofText (h : ofText text = .ok leg) : leg.WellFormed := by
  obtain ⟨loads, unloads, hfields, ⟨hvoyage, hload, hunload⟩, -, -, hordered⟩ :=
    ofText_eq_ok_iff.1 h
  have hread : ∀ field ∈ textFields text, field ≠ "" → IsField field :=
    fun field => isField_of_mem_textFields
  rw [hfields] at hread
  exact ⟨hread _ (by simp) hvoyage, hread _ (by simp) hload, hread _ (by simp) hunload, hordered⟩

theorem writtenAs_toText (leg : Leg) : leg.WrittenAs leg.toText := by
  refine ⟨leg.fields.map String.toList, ?_, ?_⟩
  · rw [List.forall₂_map_right_iff, List.forall₂_same]
    exact fun field _ => padded_self field
  · rw [toText, String.toList_intercalate]
    rfl

end Leg

/-- The legs that have a text are read from all their texts, and only they are read. -/
theorem legs_read_from_texts :
    (∀ leg : Leg, leg.WellFormed → ∀ text, leg.WrittenAs text → Leg.ofText text = .ok leg) ∧
    ∀ text leg, Leg.ofText text = .ok leg →
      leg.WellFormed ∧ leg.WrittenAs leg.toText ∧ Leg.ofText leg.toText = .ok leg := by
  refine ⟨fun leg hleg text => Leg.ofText_of_writtenAs hleg, fun text leg hread => ?_⟩
  have hleg := Leg.wellFormed_of_ofText hread
  have hwritten := leg.writtenAs_toText
  exact ⟨hleg, hwritten, Leg.ofText_of_writtenAs hleg hwritten⟩

/-- From Hong Kong to New York, with blanks around the fields, an ideographic one among them. -/
theorem leg_read_between_blanks :
    let text := " V100,CNHKG\u3000,\tUSNYC,2009-03-03T00:00:00Z ,2009-03-09T00:00:00Z"
    let leg : Leg := ⟨⟨"V100"⟩, ⟨"CNHKG"⟩, ⟨"USNYC"⟩, march2009 3, march2009 9⟩
    leg.WellFormed ∧ leg.WrittenAs text ∧ Leg.ofText text = .ok leg ∧
      Leg.ofText leg.toText = .ok leg := by
  intro text leg
  have hcode : ∀ code : String, code ≠ "" →
      (code.toList.all fun c => !isBlank c && c != ',') = true → IsField code :=
    fun code hne hall => isField_of_plain hne (by simpa using hall)
  have hleg : leg.WellFormed :=
    { voyage := hcode "V100" (by decide) (by decide)
      load := hcode "CNHKG" (by decide) (by decide)
      unload := hcode "USNYC" (by decide) (by decide)
      ordered := by decide }
  have hload : (march2009 3).text = "2009-03-03T00:00:00Z" := by decide +kernel
  have hunload : (march2009 9).text = "2009-03-09T00:00:00Z" := by decide +kernel
  have hwritten : leg.WrittenAs text := by
    refine ⟨text.toList.splitOn ',', ?_, by decide +kernel⟩
    have hblanks : ∀ {cs : List Char}, cs.all isBlank = true → ∀ c ∈ cs, isBlank c = true :=
      List.all_eq_true.mp
    have hsplit : text.toList.splitOn ',' = [' ' :: "V100".toList, "CNHKG\u3000".toList,
        '\t' :: "USNYC".toList, "2009-03-03T00:00:00Z ".toList,
        "2009-03-09T00:00:00Z".toList] := by decide +kernel
    rw [hsplit, Leg.fields]
    simp only [leg, hload, hunload, List.forall₂_cons, List.Forall₂.nil, and_true]
    exact ⟨⟨[' '], [], by decide +kernel, hblanks rfl, hblanks rfl⟩,
      ⟨[], ['\u3000'], by decide +kernel, hblanks rfl, hblanks rfl⟩,
      ⟨['\t'], [], by decide +kernel, hblanks rfl, hblanks rfl⟩,
      ⟨[], [' '], by decide +kernel, hblanks rfl, hblanks rfl⟩,
      ⟨[], [], by decide +kernel, hblanks rfl, hblanks rfl⟩⟩
  have hread := legs_read_from_texts.1 leg hleg text hwritten
  exact ⟨hleg, hwritten, hread, (legs_read_from_texts.2 text leg hread).2.2⟩

end CargoTracking
