import CargoTracking.Instant.Printer
import CargoTracking.Instant.Reader

/-!
# Written instants read back

The main statement, `Instant.ofString?_text`, says that the written form of every instant is read as
that instant.  It rests on the calendar (`Date.toDays_ofDays`), on fields of a fixed width
(`readDigits_writeDigits`), and on the fraction, whose zeros at the end are left out.
-/

namespace CargoTracking

/-! ## The year of a day -/

namespace Date

theorem day_le_of_exists {d : Date} (h : d.Exists) :
    1 ≤ d.month ∧ d.month ≤ 12 ∧ 1 ≤ d.day ∧ d.day ≤ 31 := by
  obtain ⟨hday, hlast⟩ := h
  simp only [daysInMonth] at hlast
  split at hlast
  · split at hlast <;> omega
  · split at hlast
    · omega
    · split at hlast <;> omega

theorem toDays_lower {d : Date} (h : d.Exists) (hyear : 10000 ≤ d.year) : 2932897 ≤ d.toDays := by
  obtain ⟨hmonth, hmonth', hday, -⟩ := day_le_of_exists h
  simp only [toDays, daysBeforeYear, daysBeforeMonth, epochOffset, cycleDays]
  split <;> omega

theorem toDays_upper {d : Date} (h : d.Exists) (hyear : d.year ≤ -10000) : d.toDays ≤ -4371588 := by
  obtain ⟨hmonth, hmonth', -, hday⟩ := day_le_of_exists h
  simp only [toDays, daysBeforeYear, daysBeforeMonth, epochOffset, cycleDays]
  split <;> omega

/-- The days on which instants fall are of years with at most four digits. -/
theorem natAbs_year_ofDays {days : Int} (h : -4371588 < days) (h' : days < 2932897) :
    (ofDays days).year.natAbs ≤ 9999 := by
  have hexists := exists_ofDays days
  -- A year with five digits would lie outside these days, on one side or the other.
  have hlower := fun hyear => toDays_lower hexists hyear
  have hupper := fun hyear => toDays_upper hexists hyear
  rw [toDays_ofDays] at hlower hupper
  omega

end Date

/-! ## Digits -/

namespace Text

theorem isDigit_digitChar (n : Nat) : isDigit (digitChar n) = true := by
  rw [isDigit, digitValue?_digitChar]
  rfl

theorem isDigit_of_mem_writeDigits (width n : Nat) {c : Char} (h : c ∈ writeDigits width n) :
    isDigit c = true := by
  induction width with
  | zero => cases h
  | succ width ih =>
    rcases List.mem_cons.mp h with rfl | h
    · exact isDigit_digitChar _
    · exact ih h

theorem readDigitsFrom_length (acc : Nat) (cs rest : List Char) :
    readDigitsFrom acc cs.length (cs ++ rest) =
      (cs.foldlM (fun acc c => (digitValue? c).map (10 * acc + ·)) acc).map (·, rest) := by
  induction cs generalizing acc with
  | nil => rfl
  | cons c cs ih =>
    simp only [List.length_cons, List.cons_append, readDigitsFrom, List.foldlM_cons]
    cases digitValue? c with
    | none => rfl
    | some d =>
      simp only [Option.bind_eq_bind, Option.bind_some, Option.map_some]
      exact ih (10 * acc + d)

theorem digitsValue?_writeDigits {width n : Nat} (h : n < powerOfTen width) :
    digitsValue? (writeDigits width n) = some n := by
  -- Reading exactly as many digits as there are is reading all of them.
  have hread := readDigits_writeDigits h []
  rw [readDigits] at hread
  have hlength := readDigitsFrom_length 0 (writeDigits width n) []
  rw [length_writeDigits, hread] at hlength
  obtain ⟨m, hm, heq⟩ := Option.map_eq_some_iff.mp hlength.symm
  rw [digitsValue?, hm, (Prod.mk.inj heq).1]

/-- Zeros at the end multiply by powers of ten. -/
theorem digitsValue?_append_zeros (cs : List Char) (k : Nat) :
    digitsValue? (cs ++ List.replicate k '0') = (digitsValue? cs).map (· * powerOfTen k) := by
  induction k with
  | zero => simp [powerOfTen]
  | succ k ih =>
    -- One zero more at the end multiplies by ten.
    have hsnoc : digitsValue? (cs ++ List.replicate (k + 1) '0') =
        (digitsValue? (cs ++ List.replicate k '0')).map (10 * ·) := by
      rw [List.replicate_succ', ← List.append_assoc, digitsValue?, List.foldlM_append]
      cases h : digitsValue? (cs ++ List.replicate k '0') with
      | none => rw [digitsValue?] at h; rw [h]; rfl
      | some n => rw [digitsValue?] at h; rw [h]; rfl
    rw [hsnoc, ih, Option.map_map]
    congr 1
    funext n
    simp only [Function.comp_apply, powerOfTen_succ]
    rw [Nat.mul_left_comm, Nat.mul_comm 10]

/-- A list without its zeros at the end, and then these zeros. -/
theorem append_zeros_of_trim (cs : List Char) :
    ∃ k, (cs.reverse.dropWhile (· == '0')).reverse ++ List.replicate k '0' = cs := by
  refine ⟨(cs.reverse.takeWhile (· == '0')).length, ?_⟩
  have hzeros : cs.reverse.takeWhile (· == '0') =
      List.replicate (cs.reverse.takeWhile (· == '0')).length '0' := by
    apply List.eq_replicate_of_mem
    intro c hc
    have := List.all_eq_true.mp List.all_takeWhile c hc
    simpa using this
  rw [← List.reverse_replicate, ← hzeros, ← List.reverse_append, List.takeWhile_append_dropWhile,
    List.reverse_reverse]

end Text

/-! ## Reading what was written -/

namespace Instant

open Text

theorem readField_writeDigits (width bound n : Nat) (h : bound < powerOfTen width)
    (hbound : n ≤ bound) (rest : List Char) :
    readField width bound (writeDigits width n ++ rest) = some (n, rest) := by
  simp only [readField, readDigits_writeDigits (Nat.lt_of_le_of_lt hbound h), Option.bind_eq_bind,
    Option.bind_some]
  rw [if_pos hbound]

theorem readYear_write {year : Int} (h : year.natAbs ≤ 9999) (rest : List Char) :
    readYear ((if year < 0 then '-' :: writeDigits 6 year.natAbs else writeDigits 4 year.natAbs) ++
      rest) = some (year, rest) := by
  by_cases hneg : year < 0
  · have hfield := readField_writeDigits 6 9999 year.natAbs (by decide) h rest
    rw [if_pos hneg, List.cons_append, readYear, hfield, Option.bind_eq_bind, Option.bind_some]
    dsimp only
    rw [if_neg (by omega), show -(year.natAbs : Int) = year by omega]
  · have hfield := readField_writeDigits 4 9999 year.natAbs (by decide) h rest
    rw [if_neg hneg]
    obtain ⟨c, cs, hcs, hc⟩ : ∃ c cs, writeDigits 4 year.natAbs ++ rest = c :: cs ∧
        isDigit c = true := ⟨_, _, rfl, isDigit_digitChar _⟩
    rw [hcs] at hfield ⊢
    -- The year begins with a digit, so it is not read as one with a sign.
    have hplus : c ≠ '+' := fun h => by rw [h] at hc; exact absurd hc (by decide)
    have hminus : c ≠ '-' := fun h => by rw [h] at hc; exact absurd hc (by decide)
    rw [readYear.eq_3 _ (by simpa using hplus) (by simpa using hminus), hfield,
      Option.bind_eq_bind, Option.bind_some]
    dsimp only
    rw [show (year.natAbs : Int) = year by omega]

theorem readDate_write {date : Date} (h : date.Exists) (hyear : date.year.natAbs ≤ 9999)
    (rest : List Char) : readDate (date.write ++ rest) = some (date, rest) := by
  obtain ⟨-, hmonth, -, hday⟩ := Date.day_le_of_exists h
  have hmonthWidth : date.month < powerOfTen 2 := Nat.lt_of_le_of_lt hmonth (by decide)
  have hdayWidth : date.day < powerOfTen 2 := Nat.lt_of_le_of_lt hday (by decide)
  simp only [Date.write, List.append_assoc, List.cons_append, readDate, readYear_write hyear,
    Option.bind_eq_bind, Option.bind_some, List.head?_cons, beq_self_eq_true, skipDash,
    readDigits_writeDigits hmonthWidth, readDigits_writeDigits hdayWidth]
  rw [if_pos h]

theorem readFraction_write {nanos : Nat} (h : nanos < 1000000000) :
    readFraction (writeFraction nanos ++ ['Z']) = some (nanos, ['Z']) := by
  unfold writeFraction
  by_cases hzero : nanos = 0
  · rw [if_pos hzero, hzero]
    rfl
  · rw [if_neg hzero]
    obtain ⟨k, hk⟩ := append_zeros_of_trim (writeDigits 9 nanos)
    generalize hdigits : ((writeDigits 9 nanos).reverse.dropWhile (· == '0')).reverse = digits at hk ⊢
    have hlength : digits.length + k = 9 := by
      have := congrArg List.length hk
      rwa [List.length_append, List.length_replicate, length_writeDigits] at this
    -- The digits that are left stand for the nanoseconds without their last `k` zeros.
    have hvalue : (digitsValue? digits).map (· * powerOfTen k) = some nanos := by
      rw [← digitsValue?_append_zeros, hk, digitsValue?_writeDigits h]
    obtain ⟨v, hv, hmul⟩ := Option.map_eq_some_iff.mp hvalue
    have hall : ∀ c ∈ digits, isDigit c = true := fun c hc =>
      isDigit_of_mem_writeDigits 9 nanos (by
        rw [← hk]
        exact List.mem_append_left _ hc)
    have hne : digits ≠ [] := by
      rintro rfl
      cases hv
      omega
    -- No digit follows them, so the reader stops where they end.
    have htaken : ((digits ++ ['Z']).take 9).takeWhile isDigit = digits := by
      rw [List.take_append, List.take_of_length_le (by omega), List.takeWhile_append_of_pos hall]
      cases 9 - digits.length <;> simp [isDigit, digitValue?]
    have hempty : digits.isEmpty = false := by simpa using hne
    simp only [List.cons_append, readFraction, htaken, hempty, hv, beq_self_eq_true, Bool.true_or,
      if_true, Bool.false_eq_true, if_false, Option.bind_eq_bind, Option.bind_some,
      List.drop_left]
    rw [show 9 - digits.length = k by omega, hmul]

/-- The time of day in nanoseconds is read from its clock and its fraction. -/
theorem readTime_write (second nanos : Nat) (hsecond : second < 86400) (hnanos : nanos < 1000000000) :
    readTime (writeClock second ++ writeFraction nanos ++ ['Z']) =
      some (second * 1000000000 + nanos, ['Z']) := by
  simp only [writeClock, List.append_assoc, List.cons_append, readTime,
    readField_writeDigits 2 23 (second / 3600) (by decide) (by omega),
    readField_writeDigits 2 59 (second / 60 % 60) (by decide) (by omega),
    readField_writeDigits 2 60 (second % 60) (by decide) (by omega),
    Option.bind_eq_bind, Option.bind_some, List.head?_cons, beq_self_eq_true, nextPart?,
    readFraction_write hnanos]
  -- What is written is no leap second, so the cut at 59 does nothing.
  rw [show second / 3600 * 3600 + second / 60 % 60 * 60 + min (second % 60) 59 = second by omega]

theorem read_write (t : Instant) : read t.write = some t := by
  have hfirst := t.first_le
  have hlast := t.le_last
  simp only [firstNanos, lastNanos] at hfirst hlast
  -- The bounds of an instant keep its year within four digits.
  have hyear : (Date.ofDays (t.nanos / 1000000000 / 86400)).year.natAbs ≤ 9999 :=
    Date.natAbs_year_ofDays (by omega) (by omega)
  have hdate := readDate_write (Date.exists_ofDays (t.nanos / 1000000000 / 86400)) hyear
  have htime := readTime_write (t.nanos / 1000000000 % 86400).toNat (t.nanos % 1000000000).toNat
    (by omega) (by omega)
  simp only [write, List.append_assoc, List.cons_append] at htime ⊢
  simp only [read, hdate, htime, Option.bind_eq_bind, Option.bind_some, beq_self_eq_true,
    Bool.true_or, if_true, readOffset, areAnnotations, bracketed, Date.toDays_ofDays]
  -- What remains is that days, seconds and the fraction add up to the nanoseconds.
  rw [← ofNanos?_nanos t]
  congr 1
  omega

/-- Every instant is read back from its text. -/
theorem ofString?_text (t : Instant) : ofString? t.text = some t := by
  rw [ofString?, text, String.toList_ofList, read_write]

end Instant

end CargoTracking
