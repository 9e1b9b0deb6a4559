import Automation.Time.Calendar

/-!
# Dates and day numbers

The date of a day number exists, and its day number is the one that it was made from. Day numbers of
dates in the years that can be written with four digits lie between two bounds, and the dates of all
day numbers between the bounds are in these years.

## Main definitions

* `Date.yearOfEra`, `Date.dayOfYear` — the year of a day in a period of four hundred years, and the
  day in that year.

## Main statements

* `Date.toDays_ofDays` — a day number is that of its date.
* `Date.isValid_ofDays` — the date of a day number exists.
* `Date.year_ofDays`, `Date.toDays_bounds` — the years from 1 to 9999 in day numbers.
-/

namespace Automation.Date

/-- The year, from March on, of a day in a period of four hundred years. -/
def yearOfEra (day : Int) : Int := (day - day / 1460 + day / 36524 - day / 146096) / 365

/-- The day in its year from March on. -/
def dayOfYear (day : Int) : Int :=
  day - (365 * yearOfEra day + yearOfEra day / 4 - yearOfEra day / 100)

/-- A day of a period lies in a year of one of its four centuries, unless it is the last one. The
last day of a leap year ends a fourth year, though not the last one of a century. -/
theorem exists_century {day : Int} (hpos : 0 ≤ day) (hlt : day < 146096) :
    ∃ century year : Int, 0 ≤ century ∧ century ≤ 3 ∧ 0 ≤ year ∧ year ≤ 99 ∧
      yearOfEra day = 100 * century + year ∧ 0 ≤ dayOfYear day ∧ dayOfYear day ≤ 365 ∧
      (dayOfYear day = 365 → year % 4 = 3 ∧ year ≠ 99) := by
  let century := day / 36524
  let rest := day % 36524
  let leaps := (24 * century + rest) / 1460
  let year := (rest - leaps) / 365
  have hday : day = 36524 * century + rest := by omega
  have hcentury : 0 ≤ century ∧ century ≤ 3 := by omega
  have hrest : 0 ≤ rest ∧ rest ≤ 36523 := by omega
  have hleaps : day / 1460 = 25 * century + leaps := by omega
  have hyear : yearOfEra day = 100 * century + year := by
    rw [yearOfEra]
    omega
  -- there are as many leap days in front of a year as fourth years, or one more at its end
  have hlow : year / 4 ≤ leaps := by omega
  have hhigh : leaps ≤ year / 4 + 1 := by omega
  have hbounds : 0 ≤ year ∧ year ≤ 99 := by omega
  have hdayOfYear : dayOfYear day = rest - 365 * year - year / 4 := by
    have hfourths : (100 * century + year) / 4 = 25 * century + year / 4 := by omega
    have hcenturies : (100 * century + year) / 100 = century := by omega
    rw [dayOfYear, hyear, hfourths, hcenturies]
    omega
  refine ⟨century, year, hcentury.1, hcentury.2, hbounds.1, hbounds.2, hyear, ?_, ?_, ?_⟩
  · omega
  · omega
  · omega

/-- The year and the day of the year of a day of a period. -/
theorem yearOfEra_bounds {day : Int} (hpos : 0 ≤ day) (hlt : day < 146097) :
    (0 ≤ yearOfEra day ∧ yearOfEra day ≤ 399) ∧ (0 ≤ dayOfYear day ∧ dayOfYear day ≤ 365) ∧
      (dayOfYear day = 365 → ∀ era, isLeapYear (yearOfEra day + 400 * era + 1) = true) := by
  rcases (by omega : day < 146096 ∨ day = 146096) with hlt | rfl
  · obtain ⟨century, year, hcentury, hcentury', hyear, hyear', heq, hlow, hhigh, hleap⟩ :=
      exists_century hpos hlt
    refine ⟨by omega, ⟨hlow, hhigh⟩, fun hlast era => ?_⟩
    obtain ⟨hfourth, hcenturial⟩ := hleap hlast
    have h4 : (yearOfEra day + 400 * era + 1) % 4 = 0 := by omega
    have h100 : (yearOfEra day + 400 * era + 1) % 100 ≠ 0 := by omega
    simp [isLeapYear, h4, h100]
  · refine ⟨by decide, by decide, fun _ era => ?_⟩
    have hyear : yearOfEra 146096 = 399 := by decide
    have h4 : (399 + 400 * era + 1) % 4 = 0 := by omega
    have h400 : (399 + 400 * era + 1) % 400 = 0 := by omega
    simp [isLeapYear, hyear, h4, h400]

/-- The parts of a day number: a period, a year of it from March on, a day of that year, a month from
March on, and the days in front of that month. -/
structure Parts (days era year dayOfYear month front : Int) : Prop where
  days_eq : days + epochShift = 146097 * era + (365 * year + year / 4 - year / 100) + dayOfYear
  year_bounds : 0 ≤ year ∧ year ≤ 399
  dayOfYear_bounds : 0 ≤ dayOfYear ∧ dayOfYear ≤ 365
  leap : dayOfYear = 365 → isLeapYear (year + 400 * era + 1) = true
  month_bounds : 0 ≤ month ∧ month ≤ 11
  front_eq : front = (153 * month + 2) / 5
  behind : front ≤ dayOfYear ∧ dayOfYear < (153 * month + 155) / 5
  date : ofDays days = ⟨if month < 10 then year + 400 * era else year + 400 * era + 1,
    (if month < 10 then month + 3 else month - 9).toNat, (dayOfYear - front + 1).toNat⟩

theorem exists_parts (days : Int) :
    ∃ era year dayOfYear month front, Parts days era year dayOfYear month front := by
  let era := (days + epochShift) / 146097
  let day := (days + epochShift) % 146097
  let month := (5 * dayOfYear day + 2) / 153
  obtain ⟨hyear, hdayOfYear, hleap⟩ := @yearOfEra_bounds day (by omega) (by omega)
  have hmonth : 0 ≤ month ∧ month ≤ 11 := by omega
  refine ⟨era, yearOfEra day, dayOfYear day, month, (153 * month + 2) / 5, {
    days_eq := ?_
    year_bounds := hyear
    dayOfYear_bounds := hdayOfYear
    leap := fun hlast => hleap hlast era
    month_bounds := hmonth
    front_eq := rfl
    behind := ?_
    date := ?_ }⟩
  · have hday : dayOfYear day = day - (365 * yearOfEra day + yearOfEra day / 4 -
        yearOfEra day / 100) := rfl
    omega
  · omega
  · have hdate : ofDays days = ⟨if (if month < 10 then month + 3 else month - 9) ≤ 2
        then yearOfEra day + era * 400 + 1 else yearOfEra day + era * 400,
        (if month < 10 then month + 3 else month - 9).toNat,
        (dayOfYear day - (153 * month + 2) / 5 + 1).toNat⟩ := rfl
    rw [hdate, Int.mul_comm era 400]
    split
    · rw [if_neg (by omega)]
    · rw [if_pos (by omega)]

/-- A day number is that of its date. -/
theorem toDays_ofDays (days : Int) : (ofDays days).toDays = days := by
  obtain ⟨era, year, dayOfYear, month, front, h⟩ := exists_parts days
  obtain ⟨hdays, hyear, hdayOfYear, -, hmonth, rfl, hbehind, hdate⟩ := h
  have hyears : (year + 400 * era) * 365 + (year + 400 * era) / 4 - (year + 400 * era) / 100 +
      (year + 400 * era) / 400 = 146097 * era + (365 * year + year / 4 - year / 100) := by
    omega
  rw [hdate]
  by_cases hearly : month < 10
  · have hmonth' : ¬ (month + 3).toNat ≤ 2 := by omega
    simp only [toDays, hearly, if_true, hmonth', if_false]
    omega
  · have hmonth' : (month - 9).toNat ≤ 2 := by omega
    simp only [toDays, hearly, if_false, hmonth', if_true]
    omega

/-- The date of a day number exists. -/
theorem isValid_ofDays (days : Int) : (ofDays days).isValid = true := by
  obtain ⟨era, year, dayOfYear, month, front, h⟩ := exists_parts days
  obtain ⟨-, hyear, hdayOfYear, hleap, hmonth, rfl, hbehind, hdate⟩ := h
  rw [hdate]
  simp only [isValid, Bool.and_eq_true, decide_eq_true_eq]
  refine ⟨⟨⟨?_, ?_⟩, ?_⟩, ?_⟩
  · split <;> omega
  · split <;> omega
  · omega
  · by_cases hfebruary : month = 11
    · subst hfebruary
      have hfront : (153 * 11 + 2) / 5 = (337 : Int) := by decide
      rw [if_neg (by decide), hfront]
      change _ ≤ if isLeapYear (year + 400 * era + 1) = true then 29 else 28
      split
      · omega
      next hcommon =>
        have hlast : dayOfYear ≠ 365 := fun h => hcommon (hleap h)
        omega
    · have hmonths : month = 0 ∨ month = 1 ∨ month = 2 ∨ month = 3 ∨ month = 4 ∨ month = 5 ∨
          month = 6 ∨ month = 7 ∨ month = 8 ∨ month = 9 ∨ month = 10 := by omega
      rcases hmonths with rfl | rfl | rfl | rfl | rfl | rfl | rfl | rfl | rfl | rfl | rfl <;>
        simp [daysInMonth] <;> omega

/-- The dates of the day numbers from 1 January 1 to 31 December 9999. -/
theorem year_ofDays {days : Int} (hlow : -719162 ≤ days) (hhigh : days ≤ 2932896) :
    1 ≤ (ofDays days).year ∧ (ofDays days).year ≤ 9999 := by
  obtain ⟨era, year, dayOfYear, month, front, h⟩ := exists_parts days
  obtain ⟨hdays, hyear, hdayOfYear, -, hmonth, rfl, hbehind, hdate⟩ := h
  have hspan : 0 ≤ 365 * year + year / 4 - year / 100 ∧
      365 * year + year / 4 - year / 100 ≤ 145731 := by omega
  rw [epochShift] at hdays
  have hera : 0 ≤ era ∧ era ≤ 24 := by omega
  rw [hdate]
  by_cases hearly : month < 10
  · simp only [hearly, if_true]
    refine ⟨?_, by omega⟩
    by_cases hzero : era = 0 ∧ year = 0
    · obtain ⟨rfl, rfl⟩ := hzero
      omega
    · omega
  · simp only [hearly, if_false]
    refine ⟨by omega, ?_⟩
    by_cases hlast : era = 24 ∧ year = 399
    · obtain ⟨rfl, rfl⟩ := hlast
      omega
    · omega

theorem daysInMonth_le (year : Int) (month : Nat) : daysInMonth year month ≤ 31 := by
  unfold daysInMonth
  split
  · split <;> decide
  · split <;> decide

/-- The day numbers of the dates in the years from 1 to 9999. -/
theorem toDays_bounds {date : Date} (hvalid : date.isValid = true) (hlow : 1 ≤ date.year)
    (hhigh : date.year ≤ 9999) : -719162 ≤ date.toDays ∧ date.toDays ≤ 2932896 := by
  obtain ⟨year, month, day⟩ := date
  simp only [isValid, Bool.and_eq_true, decide_eq_true_eq] at hvalid
  obtain ⟨⟨⟨hmonth, hmonth'⟩, hday⟩, hday'⟩ := hvalid
  have hlong := daysInMonth_le year month
  simp only [toDays, epochShift]
  simp only at hlow hhigh hmonth hmonth' hday hday'
  split
  · omega
  · omega

end Automation.Date
