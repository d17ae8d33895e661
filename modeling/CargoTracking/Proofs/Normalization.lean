import CargoTracking.CommandLine.Reference
import Mathlib.Data.List.DropRight

/-!
# Texts as they are compared

What is typed is compared in upper case and without the blanks around it.  The two do not get in
each other's way, since no letter becomes a blank or stops being one, and the beginning of a text
becomes the beginning of what the text becomes.
-/

namespace CargoTracking

namespace Text

variable {cs ds before after : List Char}

/-! ## Blanks at the ends -/

theorem trimmed_eq (cs : List Char) : trimmed cs = (cs.dropWhile isBlank).rdropWhile isBlank := rfl

/-- Blanks around a text do not count. -/
theorem trimmed_padded (hbefore : ∀ c ∈ before, isBlank c = true)
    (hafter : ∀ c ∈ after, isBlank c = true) : trimmed (before ++ cs ++ after) = trimmed cs := by
  have hstart : (before ++ cs ++ after).dropWhile isBlank = (cs ++ after).dropWhile isBlank := by
    rw [List.append_assoc, List.dropWhile_append_of_pos hbefore]
  rw [trimmed_eq, trimmed_eq, hstart, List.dropWhile_append]
  split
  · -- Without anything between them all is blank.
    rename_i hblank
    rw [List.dropWhile_eq_nil_iff.mpr hafter, List.isEmpty_iff.mp hblank]
  · have hend : ∀ c ∈ after.reverse, isBlank c = true := fun c hc => hafter c (List.mem_reverse.mp hc)
    rw [List.rdropWhile, List.reverse_append, List.dropWhile_append_of_pos hend]
    rfl

theorem trimmed_of_ends (hfirst : ∀ c ∈ cs.head?, isBlank c = false)
    (hlast : ∀ c ∈ cs.getLast?, isBlank c = false) : trimmed cs = cs := by
  have hstart : cs.dropWhile isBlank = cs := List.dropWhile_eq_self_iff.mpr fun hl =>
    Bool.eq_false_iff.mp (hfirst _ (List.head?_eq_getElem? ▸ List.getElem?_eq_getElem hl))
  have hend : cs.rdropWhile isBlank = cs := List.rdropWhile_eq_self_iff.mpr fun hne =>
    Bool.eq_false_iff.mp (hlast _ (List.getLast?_eq_some_getLast hne))
  rw [trimmed_eq, hstart, hend]

theorem trimmed_of_forall_not_blank (h : ∀ c ∈ cs, isBlank c = false) : trimmed cs = cs :=
  trimmed_of_ends (fun c hc => h c (List.mem_of_mem_head? hc))
    fun c hc => h c (List.mem_of_mem_getLast? hc)

theorem mem_of_mem_trimmed {c : Char} (h : c ∈ trimmed cs) : c ∈ cs :=
  (List.dropWhile_sublist isBlank).subset ((List.rdropWhile_prefix isBlank _).subset h)

/-- What is left is not blank at its start. -/
theorem head?_trimmed {c : Char} (h : c ∈ (trimmed cs).head?) : isBlank c = false := by
  have hprefix : trimmed cs <+: cs.dropWhile isBlank := List.rdropWhile_prefix isBlank _
  have hne : trimmed cs ≠ [] := by
    intro hnil
    rw [hnil] at h
    cases h
  obtain ⟨rest, hrest⟩ := hprefix
  have hhead : c ∈ (cs.dropWhile isBlank).head? := by
    rw [← hrest, List.head?_append_of_ne_nil _ hne]
    exact h
  have hnot := List.head?_dropWhile_not isBlank cs
  rw [Option.mem_def.mp hhead] at hnot
  exact hnot

/-- Nor is it at its end. -/
theorem getLast?_trimmed {c : Char} (h : c ∈ (trimmed cs).getLast?) : isBlank c = false := by
  have hne : trimmed cs ≠ [] := by
    intro hnil
    rw [hnil] at h
    cases h
  have hlast := List.rdropWhile_last_not isBlank (cs.dropWhile isBlank) hne
  rw [List.getLast?_eq_some_getLast hne] at h
  cases h
  exact Bool.eq_false_iff.mpr hlast

theorem rdropWhile_prefix_append (p : Char → Bool) (cs ds : List Char) :
    cs.rdropWhile p <+: (cs ++ ds).rdropWhile p := by
  have hcases : (cs ++ ds).rdropWhile p = cs.rdropWhile p ∨
      (cs ++ ds).rdropWhile p = cs ++ ds.rdropWhile p := by
    rw [List.rdropWhile, List.reverse_append, List.dropWhile_append]
    split
    · exact .inl rfl
    · rw [List.reverse_append, List.reverse_reverse]
      exact .inr rfl
  rcases hcases with h | h
  · exact h ▸ List.prefix_refl _
  · exact h ▸ (List.rdropWhile_prefix p cs).trans (List.prefix_append cs _)

/-- A text that begins with another one still does so without the blanks around them. -/
theorem trimmed_prefix (h : cs <+: ds) : trimmed cs <+: trimmed ds := by
  obtain ⟨rest, rfl⟩ := h
  rw [trimmed_eq, trimmed_eq, List.dropWhile_append]
  split
  · rename_i hblank
    rw [List.isEmpty_iff.mp hblank]
    exact List.nil_prefix
  · exact rdropWhile_prefix_append isBlank _ rest

/-! ## Upper case -/

/-- A character that is printed is not blank. -/
theorem isBlank_of_le {c : Char} (hfirst : 33 ≤ c.val.toNat) (hlast : c.val.toNat ≤ 126) :
    isBlank c = false := by
  simp only [isBlank, Char.toNat, Bool.or_eq_false_iff, Bool.and_eq_false_iff,
    decide_eq_false_iff_not, beq_eq_false_iff_ne]
  omega

/-- A character in upper case is the character, or it was a letter in lower case. -/
theorem toUpper_cases (c : Char) : c.toUpper = c ∨
    97 ≤ c.val.toNat ∧ c.val.toNat ≤ 122 ∧ c.toUpper.val.toNat = c.val.toNat - 32 := by
  unfold Char.toUpper
  split
  · rename_i hlower
    have hfirst : 97 ≤ c.val.toNat := hlower.1
    have hlast : c.val.toNat ≤ 122 := hlower.2
    -- The distance to the upper case is negative, and wraps around.
    have hdistance : ('A'.val - 'a'.val).toNat = 4294967264 := by decide
    refine .inr ⟨hfirst, hlast, ?_⟩
    rw [UInt32.toNat_add, hdistance]
    omega
  · exact .inl rfl

/-- A letter is not blank, in lower or in upper case. -/
theorem isBlank_toUpper (c : Char) : isBlank c.toUpper = isBlank c := by
  rcases toUpper_cases c with hsame | ⟨hfirst, hlast, hupper⟩
  · rw [hsame]
  · have hletter : isBlank c = false := isBlank_of_le (by omega) (by omega)
    rw [hletter]
    exact isBlank_of_le (by omega) (by omega)

/-- Only a hyphen becomes a hyphen. -/
theorem toUpper_eq_hyphen {c : Char} : c.toUpper = '-' ↔ c = '-' := by
  constructor
  · intro h
    rcases toUpper_cases c with hsame | ⟨hfirst, -, hupper⟩
    · rwa [hsame] at h
    · -- The letters in upper case come after the hyphen.
      have hhyphen : '-'.val.toNat = 45 := by decide
      rw [h, hhyphen] at hupper
      omega
  · rintro rfl
    decide

theorem trimmed_map_toUpper (cs : List Char) :
    trimmed (cs.map Char.toUpper) = (trimmed cs).map Char.toUpper := by
  have hblank : isBlank ∘ Char.toUpper = isBlank := funext isBlank_toUpper
  simp only [trimmed, List.dropWhile_map, ← List.map_reverse, hblank]

end Text

end CargoTracking
