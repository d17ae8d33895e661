/-!
# The calendar

Days of the proleptic Gregorian calendar, counted from 1970-01-01.  A year is counted from March,
so that the leap day is its last day, and years are grouped by the 400-year cycle after which the
calendar repeats.  `Date.toDays_ofDays` says that every day has a date that counts back to it, and
`Date.exists_ofDays` that this date is one of the calendar.
-/

namespace CargoTracking

/-- A day by its year, month (from 1) and day of the month (from 1). -/
structure Date where
  year : Int
  month : Nat
  day : Nat
  deriving DecidableEq, Repr

namespace Date

def isLeapYear (year : Int) : Bool :=
  year % 4 = 0 && (year % 100 ≠ 0 || year % 400 = 0)

/-- The number of days of a month; a month that does not exist has none. -/
def daysInMonth (year : Int) (month : Nat) : Nat :=
  if month = 2 then if isLeapYear year then 29 else 28
  else if month = 4 ∨ month = 6 ∨ month = 9 ∨ month = 11 then 30
  else if 1 ≤ month ∧ month ≤ 12 then 31
  else 0

/-- The date is one of the calendar. -/
def Exists (d : Date) : Prop :=
  1 ≤ d.day ∧ d.day ≤ daysInMonth d.year d.month

instance (d : Date) : Decidable d.Exists := inferInstanceAs (Decidable (_ ∧ _))

/-- From 0000-03-01, the first day of a 400-year cycle, to 1970-01-01. -/
def epochOffset : Int := 719468

/-- The days of a cycle of 400 years. -/
def cycleDays : Nat := 146097

/-- The days of a cycle before its year `y`, which begins in March. -/
def daysBeforeYear (y : Nat) : Nat := 365 * y + y / 4 - y / 100

/-- The year of the cycle that a day of the cycle falls in. -/
def yearOfCycle (day : Nat) : Nat :=
  -- The last day of the cycle is a leap day, one more than four centuries have.
  let century := min (day / 36524) 3
  let dayOfCentury := day - century * 36524
  -- In the same way a leap day ends four years.
  century * 100 + dayOfCentury / 1461 * 4 + min (dayOfCentury % 1461 / 365) 3

/-- The days of a year before its month `m`, both counted from March. -/
def daysBeforeMonth (m : Nat) : Nat := (153 * m + 2) / 5

/-- The month, counted from March, that a day of the year falls in. -/
def monthOfYear (day : Nat) : Nat := (5 * day + 2) / 153

/-- Days from 1970-01-01 to the date. -/
def toDays (d : Date) : Int :=
  -- January and February belong to the year that began in the March before.
  let year := if d.month ≤ 2 then d.year - 1 else d.year
  let month := if d.month ≤ 2 then d.month + 9 else d.month - 3
  year / 400 * cycleDays + daysBeforeYear (year % 400).toNat + daysBeforeMonth month + d.day - 1 -
    epochOffset

/-- The date of the day that is `days` after 1970-01-01. -/
def ofDays (days : Int) : Date :=
  let shifted := days + epochOffset
  let day := (shifted % cycleDays).toNat
  let year := yearOfCycle day
  let dayOfYear := day - daysBeforeYear year
  let month := monthOfYear dayOfYear
  { year := shifted / cycleDays * 400 + year + if month < 10 then 0 else 1
    month := if month < 10 then month + 3 else month - 9
    day := dayOfYear - daysBeforeMonth month + 1 }

theorem yearOfCycle_lt {day : Nat} (h : day < cycleDays) : yearOfCycle day < 400 := by
  simp only [yearOfCycle, cycleDays] at *
  omega

/-- A day falls between the beginnings of its year and of the next; only a leap year, whose
February is in the next calendar year, has a day 365. -/
theorem yearOfCycle_spec {day : Nat} (h : day < cycleDays) :
    daysBeforeYear (yearOfCycle day) ≤ day ∧ day - daysBeforeYear (yearOfCycle day) ≤ 365 ∧
      (day - daysBeforeYear (yearOfCycle day) = 365 → isLeapYear (yearOfCycle day + 1 : Nat)) := by
  -- The century `c`, its day `e`, the group of four years `q`, and the year `y` of the group.
  obtain ⟨c, hc⟩ : ∃ c, c = min (day / 36524) 3 := ⟨_, rfl⟩
  obtain ⟨e, he⟩ : ∃ e, e = day - c * 36524 := ⟨_, rfl⟩
  obtain ⟨q, hq⟩ : ∃ q, q = e / 1461 := ⟨_, rfl⟩
  obtain ⟨y, hy⟩ : ∃ y, y = min (e % 1461 / 365) 3 := ⟨_, rfl⟩
  have hyear : yearOfCycle day = c * 100 + q * 4 + y := by simp only [yearOfCycle, hc, he, hq, hy]
  have hcycle : cycleDays = 146097 := rfl
  have hc3 : c ≤ 3 := by omega
  have he' : day = c * 36524 + e ∧ e ≤ 36524 ∧ (e = 36524 → c = 3) := by omega
  have hq24 : q ≤ 24 := by omega
  have hy3 : y ≤ 3 := by omega
  have hbefore : daysBeforeYear (c * 100 + q * 4 + y) = 36524 * c + 1461 * q + 365 * y := by
    simp only [daysBeforeYear]
    omega
  rw [hyear, hbefore]
  have heq : e = 1461 * q + e % 1461 := by omega
  have hylast : e % 1461 - 365 * y ≤ 365 ∧ 365 * y ≤ e % 1461 ∧
      (e % 1461 - 365 * y = 365 → y = 3) := by omega
  clear hbefore hyear hcycle hc h he hq hy hq24
  obtain ⟨hday, he, hec⟩ := he'
  subst hday
  generalize e % 1461 = r at *
  subst heq
  refine ⟨by omega, by omega, fun hlast => ?_⟩
  -- Day 365 ends a group of four years, and not the last group of a century but the fourth.
  have h4 : y = 3 := by omega
  have hr : r = 1460 := by omega
  have hq' : q < 24 ∨ c = 3 ∧ q = 24 := by omega
  subst h4
  clear he hec hlast hylast
  rcases hq' with hq' | ⟨rfl, rfl⟩
  · have h100 : ((c * 100 + q * 4 + 3 + 1 : Nat) : Int) % 100 ≠ 0 := by omega
    have h4 : ((c * 100 + q * 4 + 3 + 1 : Nat) : Int) % 4 = 0 := by omega
    simp only [isLeapYear, h4, h100, ne_eq, not_false_eq_true, decide_true, Bool.true_or,
      Bool.and_self]
  · decide

theorem monthOfYear_spec {day : Nat} (h : day ≤ 365) :
    monthOfYear day < 12 ∧ daysBeforeMonth (monthOfYear day) ≤ day ∧
      day < daysBeforeMonth (monthOfYear day + 1) := by
  simp only [monthOfYear, daysBeforeMonth]
  omega

theorem toDays_ofDays (days : Int) : (ofDays days).toDays = days := by
  have hcycle : (cycleDays : Int) = 146097 := rfl
  obtain ⟨day, hday⟩ : ∃ day, day = ((days + epochOffset) % cycleDays).toNat := ⟨_, rfl⟩
  simp only [hcycle] at hday
  have hlt : day < cycleDays := by omega
  obtain ⟨hbefore, hyear, -⟩ := yearOfCycle_spec hlt
  have hy400 := yearOfCycle_lt hlt
  obtain ⟨hm12, hmonth, -⟩ := monthOfYear_spec hyear
  simp only [ofDays, toDays, hcycle, ← hday]
  generalize hy : yearOfCycle day = year at *
  generalize hm : monthOfYear (day - daysBeforeYear year) = month at *
  by_cases h10 : month < 10
  · have hmod : ((days + epochOffset) / 146097 * 400 + (year : Int) + 0) % 400 = year := by omega
    have hdiv : ((days + epochOffset) / 146097 * 400 + (year : Int) + 0) / 400 =
        (days + epochOffset) / 146097 := by omega
    simp only [h10, if_true, show ¬ month + 3 ≤ 2 by omega, if_false, hmod, hdiv,
      Nat.add_sub_cancel, Int.toNat_natCast]
    omega
  · have hmod : ((days + epochOffset) / 146097 * 400 + (year : Int) + 1 - 1) % 400 = year := by
      omega
    have hdiv : ((days + epochOffset) / 146097 * 400 + (year : Int) + 1 - 1) / 400 =
        (days + epochOffset) / 146097 := by omega
    simp only [h10, if_false, show month - 9 ≤ 2 by omega, if_true, hmod, hdiv,
      show month - 9 + 9 = month by omega, Int.toNat_natCast]
    omega

theorem exists_ofDays (days : Int) : (ofDays days).Exists := by
  have hcycle : (cycleDays : Int) = 146097 := rfl
  obtain ⟨day, hday⟩ : ∃ day, day = ((days + epochOffset) % cycleDays).toNat := ⟨_, rfl⟩
  simp only [hcycle] at hday
  have hlt : day < cycleDays := by omega
  obtain ⟨hbefore, hyear, hleap⟩ := yearOfCycle_spec hlt
  have hy400 := yearOfCycle_lt hlt
  obtain ⟨hm12, hmonth, hnext⟩ := monthOfYear_spec hyear
  simp only [ofDays, Exists, hcycle, ← hday]
  generalize hy : yearOfCycle day = year at *
  generalize hd : day - daysBeforeYear year = dayOfYear at *
  generalize hm : monthOfYear dayOfYear = month at *
  refine ⟨by omega, ?_⟩
  simp only [daysBeforeMonth] at hmonth hnext ⊢
  by_cases h10 : month < 10
  · simp only [h10, if_true, daysInMonth]
    split <;> rename_i h2
    · omega
    split <;> rename_i h30
    · omega
    rw [if_pos (by omega)]
    omega
  · simp only [h10, if_false, daysInMonth]
    split <;> rename_i h2
    · have h11 : month = 11 := by omega
      subst h11
      by_cases hlast : dayOfYear = 365
      · have := hleap hlast
        simp only [isLeapYear, Bool.and_eq_true, Bool.or_eq_true, decide_eq_true_eq] at this
        rw [if_pos]
        · omega
        · simp only [isLeapYear, Bool.and_eq_true, Bool.or_eq_true, decide_eq_true_eq]
          omega
      · split <;> omega
    rw [if_neg (by omega), if_pos (by omega)]
    omega

end Date

end CargoTracking
