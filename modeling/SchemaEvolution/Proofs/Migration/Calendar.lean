import Mathlib.Tactic.IntervalCases
import SchemaEvolution.Migration.Version

/-!
# The proleptic Gregorian calendar

The date of a day is found by arithmetic on eras of 400 years that start in March. It is the date
of the calendar: day 0 is the first of January 1970, and the date of the next day is the next date,
in both directions of time (`dateOfDays_zero`, `dateOfDays_succ`).
-/

namespace SchemaEvolution.Moment

/-- The date behind a date, given as year, month and day. -/
def nextDate : Int × Nat × Nat → Int × Nat × Nat
  | (year, month, day) =>
    if day < daysInMonth year month then (year, month, day + 1)
    else if month < 12 then (year, month + 1, 1)
    else (year + 1, 1, 1)

/-- The month is one of twelve, and the day is one of it. -/
def IsDate : Int × Nat × Nat → Prop
  | (year, month, day) => 1 ≤ month ∧ month ≤ 12 ∧ 1 ≤ day ∧ day ≤ daysInMonth year month

/-! ### Years of an era -/

/-- The days of an era in front of the March that starts one of its years. -/
def startOfYear (year : Nat) : Nat := 365 * year + year / 4 - year / 100

/-- The days of a year that starts in March. The leap day ends it: it is that of the next year's
February. -/
def lengthOfYear (year : Int) : Nat := if isLeapYear (year + 1) then 366 else 365

theorem lengthOfYear_le (year : Int) : lengthOfYear year ≤ 366 := by
  rw [lengthOfYear]
  split <;> decide

theorem le_lengthOfYear (year : Int) : 365 ≤ lengthOfYear year := by
  rw [lengthOfYear]
  split <;> decide

theorem lengthOfYear_pos (year : Int) : 0 < lengthOfYear year :=
  Nat.lt_of_lt_of_le (by decide) (le_lengthOfYear year)

/-- The year of an era that a day of the era falls in. -/
def yearOfEra (day : Nat) : Nat := (day - day / 1460 + day / 36524 - day / 146096) / 365

theorem lengthOfYear_add_era (year era : Int) :
    lengthOfYear (400 * era + year) = lengthOfYear year := by
  have h4 : (400 * era + year + 1) % 4 = (year + 1) % 4 := by omega
  have h100 : (400 * era + year + 1) % 100 = (year + 1) % 100 := by omega
  have h400 : (400 * era + year + 1) % 400 = (year + 1) % 400 := by omega
  rw [lengthOfYear, lengthOfYear, isLeapYear, isLeapYear, h4, h100, h400]

theorem lengthOfYear_cases {year : Nat} (h : year < 400) :
    lengthOfYear year = 365 ∨
      lengthOfYear year = 366 ∧ year % 4 = 3 ∧ (year % 100 ≠ 99 ∨ year = 399) := by
  rw [lengthOfYear]
  split
  · next hleap =>
    simp [isLeapYear] at hleap
    omega
  · exact .inl rfl

theorem startOfYear_succ {year : Nat} (h : year < 399) :
    startOfYear (year + 1) = startOfYear year + lengthOfYear year := by
  rw [lengthOfYear, startOfYear, startOfYear, isLeapYear]
  split
  · next hleap =>
    simp at hleap
    omega
  · next hleap =>
    simp at hleap
    omega

theorem startOfYear_last : startOfYear 399 + lengthOfYear (399 : Nat) = 146097 := by decide

/-- An era is four centuries of 24 or 25 cycles of four years. -/
theorem startOfYear_eq {c q r : Nat} (hq : q < 25) (hr : r < 4) :
    startOfYear (100 * c + 4 * q + r) = 36524 * c + 1461 * q + 365 * r := by
  rw [startOfYear]
  omega

/-- A day is found in the year that it is counted in. -/
theorem yearOfEra_eq {year day : Nat} (hyear : year < 400) (hday : day < lengthOfYear year) :
    yearOfEra (startOfYear year + day) = year := by
  have hlength := lengthOfYear_cases hyear
  obtain ⟨c, q, r, hc, hq, hr, rfl⟩ : ∃ c q r, c < 4 ∧ q < 25 ∧ r < 4 ∧
      year = 100 * c + 4 * q + r :=
    ⟨year / 100, year % 100 / 4, year % 4, by omega, by omega, by omega, by omega⟩
  have hleap : day < 365 ∨ day = 365 ∧ r = 3 ∧ (q < 24 ∨ c = 3) := by omega
  rw [yearOfEra, startOfYear_eq hq hr]
  by_cases hlast : c = 3 ∧ q = 24 ∧ r = 3 ∧ day = 365
  · -- The last day of an era would be the first one of a fifth century.
    obtain ⟨rfl, rfl, rfl, rfl⟩ := hlast
    rfl
  · have hcentury : 1461 * q + 365 * r + day < 36524 := by omega
    have hcenturies : (36524 * c + 1461 * q + 365 * r + day) / 36524 = c := by omega
    have heras : (36524 * c + 1461 * q + 365 * r + day) / 146096 = 0 := by omega
    -- The leap days in front of the year, and one more on its own leap day.
    have hleaps : (36524 * c + 1461 * q + 365 * r + day) / 1460 =
        25 * c + q + (24 * c + q + 365 * r + day) / 1460 := by omega
    rw [hcenturies, heras, hleaps]
    omega

theorem startOfYear_add_lt {year day : Nat} (hyear : year < 400) (hday : day < lengthOfYear year) :
    startOfYear year + day < 146097 := by
  have hlength := lengthOfYear_cases hyear
  rw [startOfYear]
  omega

/-- The days of an era are those of its years. -/
theorem exists_startOfYear_add : ∀ dayOfEra : Nat, dayOfEra < 146097 →
    ∃ year day : Nat, year < 400 ∧ day < lengthOfYear year ∧ startOfYear year + day = dayOfEra
  | 0, _ => ⟨0, 0, by decide, by decide, rfl⟩
  | dayOfEra + 1, h => by
    obtain ⟨year, day, hyear, hday, rfl⟩ := exists_startOfYear_add dayOfEra (by omega)
    by_cases hlast : day + 1 < lengthOfYear year
    · exact ⟨year, day + 1, hyear, hlast, rfl⟩
    · have hnext : year < 399 := by
        by_contra hnot
        obtain rfl : year = 399 := by omega
        have := startOfYear_last
        omega
      refine ⟨year + 1, 0, by omega, ?_, ?_⟩
      · have := lengthOfYear_cases (show year + 1 < 400 by omega)
        omega
      · rw [startOfYear_succ hnext]
        omega

/-! ### Months of a year -/

/-- The days in front of a month, counted from March. Five months have 153 days. -/
def startOfMonth (month : Nat) : Nat := (153 * month + 2) / 5

/-- The month of a year that a day of the year falls in. -/
def monthOfYear (day : Nat) : Nat := (5 * day + 2) / 153

/-- The date of a day of a month, both counted from 0, in a year that starts in March. -/
def dateOfMonth (year : Int) (month day : Nat) : Int × Nat × Nat :=
  if month < 10 then (year, month + 3, day + 1) else (year + 1, month - 9, day + 1)

/-- The days of a month that ends with the start of the next one, or with the year. -/
def lengthOfMonth (year : Int) (month : Nat) : Nat :=
  if month < 11 then startOfMonth (month + 1) - startOfMonth month
  else lengthOfYear year - startOfMonth 11

/-- The months have the lengths of the calendar. -/
theorem lengthOfMonth_eq {year : Int} {month : Nat} (hmonth : month < 12) :
    lengthOfMonth year month =
      daysInMonth (dateOfMonth year month 0).1 (dateOfMonth year month 0).2.1 := by
  by_cases hlast : month < 11
  · interval_cases month <;> rfl
  · obtain rfl : month = 11 := by omega
    rw [lengthOfMonth, lengthOfYear, dateOfMonth, daysInMonth]
    simp
    split <;> rfl

theorem startOfMonth_add_length (year : Int) {month : Nat} (hmonth : month < 11) :
    startOfMonth month + lengthOfMonth year month = startOfMonth (month + 1) := by
  rw [lengthOfMonth, if_pos hmonth]
  simp only [startOfMonth]
  omega

theorem startOfMonth_add_length_last (year : Int) :
    startOfMonth 11 + lengthOfMonth year 11 = lengthOfYear year := by
  have hyear := le_lengthOfYear year
  rw [lengthOfMonth, if_neg (by decide)]
  simp only [startOfMonth]
  omega

theorem startOfMonth_add_length_le (year : Int) {month : Nat} (hmonth : month < 12) :
    startOfMonth month + lengthOfMonth year month ≤ startOfMonth (month + 1) := by
  obtain hlast | rfl : month < 11 ∨ month = 11 := by omega
  · exact (startOfMonth_add_length year hlast).le
  · rw [startOfMonth_add_length_last]
    exact (lengthOfYear_le year).trans (by decide)

theorem lengthOfMonth_pos (year : Int) {month : Nat} (hmonth : month < 12) :
    0 < lengthOfMonth year month := by
  rw [lengthOfMonth_eq hmonth, daysInMonth]
  split_ifs <;> decide

/-- The days of a year are those of its months. -/
theorem exists_startOfMonth_add {year : Int} {dayOfYear : Nat} (h : dayOfYear < lengthOfYear year) :
    ∃ month day : Nat, month < 12 ∧ day < lengthOfMonth year month ∧
      startOfMonth month + day = dayOfYear := by
  have hyear := lengthOfYear_le year
  refine ⟨monthOfYear dayOfYear, dayOfYear - startOfMonth (monthOfYear dayOfYear), ?_, ?_, ?_⟩
  · rw [monthOfYear]
    omega
  · rw [lengthOfMonth]
    split
    · simp only [startOfMonth, monthOfYear]
      omega
    · simp only [startOfMonth, monthOfYear] at *
      omega
  · simp only [startOfMonth, monthOfYear]
    omega

/-- The date of a day of a year that starts in March. -/
def dateInYear (year : Int) (day : Nat) : Int × Nat × Nat :=
  dateOfMonth year (monthOfYear day) (day - startOfMonth (monthOfYear day))

/-- A day is found in the month that it is counted in. -/
theorem dateInYear_eq {year : Int} {month day : Nat} (hmonth : month < 12)
    (hday : day < lengthOfMonth year month) :
    dateInYear year (startOfMonth month + day) = dateOfMonth year month day := by
  have hnext := startOfMonth_add_length_le year hmonth
  have hfound : monthOfYear (startOfMonth month + day) = month := by
    simp only [startOfMonth, monthOfYear] at *
    omega
  rw [dateInYear, hfound, Nat.add_sub_cancel_left]

/-- Days of a month follow each other. -/
theorem nextDate_dateOfMonth {year : Int} {month day : Nat} (hmonth : month < 12)
    (hday : day + 1 < lengthOfMonth year month) :
    nextDate (dateOfMonth year month day) = dateOfMonth year month (day + 1) := by
  rw [lengthOfMonth_eq hmonth] at hday
  unfold dateOfMonth at *
  split at hday
  · next h => rw [if_pos h, if_pos h, nextDate, if_pos hday]
  · next h => rw [if_neg h, if_neg h, nextDate, if_pos hday]

/-- The first of a month follows the last day of the month in front of it. -/
theorem nextDate_dateOfMonth_last {year : Int} {month day : Nat} (hmonth : month < 12)
    (hday : day + 1 = lengthOfMonth year month) :
    nextDate (dateOfMonth year month day) =
      if month < 11 then dateOfMonth year (month + 1) 0 else dateOfMonth (year + 1) 0 0 := by
  rw [lengthOfMonth_eq hmonth] at hday
  unfold dateOfMonth at hday
  interval_cases month <;> simp at hday <;> simp [dateOfMonth, nextDate, hday]

/-- Days of a year follow each other. -/
theorem nextDate_dateInYear {year : Int} {day : Nat} (hday : day + 1 < lengthOfYear year) :
    nextDate (dateInYear year day) = dateInYear year (day + 1) := by
  obtain ⟨month, day, hmonth, hlength, rfl⟩ := exists_startOfMonth_add (Nat.lt_of_succ_lt hday)
  rw [dateInYear_eq hmonth hlength]
  obtain hnext | hlast := Nat.lt_or_eq_of_le (Nat.succ_le_of_lt hlength)
  · rw [nextDate_dateOfMonth hmonth hnext, Nat.add_assoc, dateInYear_eq hmonth hnext]
  · have hinner : month < 11 := by
      by_contra hnot
      obtain rfl : month = 11 := by omega
      have := startOfMonth_add_length_last year
      omega
    have hstart : startOfMonth month + day + 1 = startOfMonth (month + 1) + 0 := by
      have := startOfMonth_add_length year hinner
      omega
    have hfollows : month + 1 < 12 := Nat.succ_lt_succ hinner
    rw [nextDate_dateOfMonth_last hmonth hlast, if_pos hinner, hstart,
      dateInYear_eq hfollows (lengthOfMonth_pos year hfollows)]

/-- The first of March of the next year follows the last day of a year. -/
theorem nextDate_dateInYear_last {year : Int} {day : Nat} (hday : day + 1 = lengthOfYear year) :
    nextDate (dateInYear year day) = dateInYear (year + 1) 0 := by
  have hend := startOfMonth_add_length_last year
  obtain ⟨last, rfl⟩ : ∃ last, day = startOfMonth 11 + last := by
    refine Nat.exists_eq_add_of_le ?_
    have := le_lengthOfYear year
    simp only [startOfMonth]
    omega
  have hlast : last + 1 = lengthOfMonth year 11 := by omega
  rw [dateInYear_eq (by decide) (Nat.lt_of_succ_le hlast.le),
    nextDate_dateOfMonth_last (by decide) hlast]
  rfl

theorem isDate_dateInYear {year : Int} {day : Nat} (hday : day < lengthOfYear year) :
    IsDate (dateInYear year day) := by
  obtain ⟨month, day, hmonth, hlength, rfl⟩ := exists_startOfMonth_add hday
  rw [dateInYear_eq hmonth hlength]
  rw [lengthOfMonth_eq hmonth] at hlength
  unfold dateOfMonth at *
  split at hlength
  · next h =>
    rw [if_pos h]
    exact ⟨by omega, by omega, by omega, hlength⟩
  · next h =>
    rw [if_neg h]
    exact ⟨by omega, by omega, by omega, hlength⟩

/-! ### Days -/

/-- Every day is a day of a year of an era. -/
theorem exists_dateOfDays_eq (days : Int) :
    ∃ (era : Int) (year day : Nat), year < 400 ∧ day < lengthOfYear year ∧
      days = 146097 * era + startOfYear year + day - 719468 := by
  obtain ⟨year, day, hyear, hday, h⟩ :=
    exists_startOfYear_add ((days + 719468) % 146097).toNat (by omega)
  refine ⟨(days + 719468) / 146097, year, day, hyear, hday, ?_⟩
  omega

/-- The date of a day is that of the day of its year. -/
theorem dateOfDays_eq {era : Int} {year day : Nat} (hyear : year < 400)
    (hday : day < lengthOfYear year) :
    dateOfDays (146097 * era + startOfYear year + day - 719468) =
      dateInYear (400 * era + year) day := by
  have hlt := startOfYear_add_lt hyear hday
  have hfound := yearOfEra_eq hyear hday
  have hera : Int.fdiv (146097 * era + startOfYear year + day - 719468 + 719468) 146097 = era := by
    rw [Int.fdiv_eq_ediv_of_nonneg _ (by decide)]
    omega
  have hdayOfEra :
      (Int.fmod (146097 * era + startOfYear year + day - 719468 + 719468) 146097).toNat =
        startOfYear year + day := by
    rw [Int.fmod_eq_emod_of_nonneg _ (by decide)]
    omega
  have hdayOfYear : startOfYear year + day - (365 * year + year / 4 - year / 100) = day :=
    Nat.add_sub_cancel_left ..
  have hmonth : (5 * day + 2) / 153 < 12 := by
    have := lengthOfYear_le year
    omega
  rw [yearOfEra] at hfound
  simp only [dateOfDays, hera, hdayOfEra, hfound, hdayOfYear]
  rw [dateInYear, dateOfMonth, startOfMonth, monthOfYear, Int.mul_comm]
  split
  · next h => rw [if_neg (by omega), Int.add_zero]
  · next h => rw [if_pos (by omega)]

/-- Day 0 is the first of January 1970. -/
theorem dateOfDays_zero : dateOfDays 0 = (1970, 1, 1) := by decide

/-- The date of the next day is the next date. -/
theorem dateOfDays_succ (days : Int) : dateOfDays (days + 1) = nextDate (dateOfDays days) := by
  obtain ⟨era, year, day, hyear, hday, rfl⟩ := exists_dateOfDays_eq days
  rw [dateOfDays_eq hyear hday]
  -- The next day is in the same year, starts the next one, or starts the next era.
  obtain hnext | hlast := Nat.lt_or_eq_of_le (Nat.succ_le_of_lt hday)
  · have hdays : 146097 * era + startOfYear year + day - 719468 + 1 =
        146097 * era + startOfYear year + (day + 1 : Nat) - 719468 := by omega
    rw [hdays, dateOfDays_eq hyear hnext]
    rw [← lengthOfYear_add_era year era] at hnext
    exact (nextDate_dateInYear hnext).symm
  · have hend : day + 1 = lengthOfYear (400 * era + year) := by
      rw [lengthOfYear_add_era]
      exact hlast
    rw [nextDate_dateInYear_last hend]
    obtain hinner | rfl : year < 399 ∨ year = 399 := by omega
    · have hdays : 146097 * era + startOfYear year + day - 719468 + 1 =
          146097 * era + startOfYear (year + 1) + (0 : Nat) - 719468 := by
        have := startOfYear_succ hinner
        omega
      have hnext : year + 1 < 400 := Nat.succ_lt_succ hinner
      rw [hdays, dateOfDays_eq hnext (lengthOfYear_pos _), Int.add_assoc]
      rfl
    · have hdays : 146097 * era + startOfYear 399 + day - 719468 + 1 =
          146097 * (era + 1) + startOfYear 0 + (0 : Nat) - 719468 := by
        have := startOfYear_last
        have : startOfYear 0 = 0 := rfl
        omega
      have hfirst : 0 < 400 := by decide
      rw [hdays, dateOfDays_eq hfirst (lengthOfYear_pos _)]
      congr 1
      omega

/-- The date of a day is a date of the calendar. -/
theorem isDate_dateOfDays (days : Int) : IsDate (dateOfDays days) := by
  obtain ⟨era, year, day, hyear, hday, rfl⟩ := exists_dateOfDays_eq days
  rw [dateOfDays_eq hyear hday]
  rw [← lengthOfYear_add_era year era] at hday
  exact isDate_dateInYear hday

end SchemaEvolution.Moment
