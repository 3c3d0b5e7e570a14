import Mathlib
import LiveText.Date.Civil

/-!
# Dates and their numbers

The numbers of dates and the dates of numbers are inverse: `ofDayNumber_dayNumber` and
`dayNumber_ofDayNumber`. Both go through the place of a day in the reckoning whose years begin in
March: an era, a century in it, a group of four years, a single year and a day of that year.
-/

namespace LiveText.CivilDate

theorem isLeap_iff (year : Int) :
    isLeap year = true ↔ year % 4 = 0 ∧ (year % 100 ≠ 0 ∨ year % 400 = 0) := by
  simp [isLeap]

theorem isValid_iff (d : CivilDate) : d.isValid = true ↔
    1 ≤ d.month ∧ d.month ≤ 12 ∧ 1 ≤ d.day ∧ d.day ≤ daysInMonth d.year d.month := by
  simp [isValid, and_assoc]

theorem daysInMonth_le (year : Int) (month : Nat) : daysInMonth year month ≤ 31 := by
  rw [daysInMonth]
  split_ifs <;> omega

/-- The month of a date, counted from March. -/
def marchMonth (d : CivilDate) : Nat := if d.month ≤ 2 then d.month + 9 else d.month - 3

/-- The year of a date in which March begins the year. -/
def marchYear (d : CivilDate) : Int := if d.month ≤ 2 then d.year - 1 else d.year

/-- The day of a date in its year lies in its month. -/
private theorem month_of_isValid {d : CivilDate} (h : d.isValid = true) :
    (5 * (daysBeforeMonth (marchMonth d) + d.day - 1) + 2) / 153 = marchMonth d ∧
    (365 ≤ daysBeforeMonth (marchMonth d) + d.day - 1 →
      daysBeforeMonth (marchMonth d) + d.day - 1 = 365 ∧ d.month = 2 ∧ isLeap d.year = true) := by
  obtain ⟨hmonth, hmonthEnd, hday, hdayEnd⟩ := (isValid_iff d).mp h
  obtain ⟨year, month, day⟩ := d
  simp only [marchMonth, daysBeforeMonth, daysInMonth] at *
  interval_cases month
  case «2» =>
    cases hleap : isLeap year <;> simp [hleap] at * <;> omega
  all_goals
    simp at *
    omega

/-- The place of a day: the 29th of February ends only the last year of a group, and not of a
century's last group unless the century is the era's last. -/
structure Place where
  era : Int
  century : Nat
  group : Nat
  single : Nat
  day : Nat
  century_le : century ≤ 3
  group_le : group ≤ 24
  single_le : single ≤ 3
  day_le : day ≤ 365
  leap : day = 365 → single = 3 ∧ (group ≤ 23 ∨ century = 3)

namespace Place

/-- The number of the day at a place. -/
def number (p : Place) : Int :=
  146097 * p.era + 36524 * p.century + 1461 * p.group + 365 * p.single + p.day - epochDay

/-- The year, which begins in March, at a place. -/
def year (p : Place) : Int := 400 * p.era + 100 * p.century + 4 * p.group + p.single

/-- The month at a place, counted from March. -/
def month (p : Place) : Nat := (5 * p.day + 2) / 153

/-- The date at a place. -/
def date (p : Place) : CivilDate :=
  if p.month < 10 then ⟨p.year, p.month + 3, p.day - daysBeforeMonth p.month + 1⟩
  else ⟨p.year + 1, p.month - 9, p.day - daysBeforeMonth p.month + 1⟩

/-- A day is found at its place. -/
theorem ofDayNumber_number (p : Place) : ofDayNumber p.number = p.date := by
  obtain ⟨era, century, group, single, day, hcentury, hgroup, hsingle, hday, hleap⟩ := p
  have hera : (146097 * era + 36524 * century + 1461 * group + 365 * single + day) / 146097 =
      era := by
    omega
  have hdayOfEra :
      ((146097 * era + 36524 * century + 1461 * group + 365 * single + day) % 146097).toNat =
      36524 * century + 1461 * group + 365 * single + day := by
    omega
  have hcenturyOf : min ((36524 * century + 1461 * group + 365 * single + day) / 36524) 3 =
      century := by
    omega
  have hgroupOf : (1461 * group + 365 * single + day) / 1461 = group := by omega
  have hdayOfGroup : (1461 * group + 365 * single + day) % 1461 = 365 * single + day := by omega
  have hsingleOf : min ((365 * single + day) / 365) 3 = single := by omega
  have hdayOfCentury : 36524 * century + 1461 * group + 365 * single + day - 36524 * century =
      1461 * group + 365 * single + day := by omega
  have hdayOfYear : 365 * single + day - 365 * single = day := by omega
  simp only [ofDayNumber, number, Int.sub_add_cancel, hera, hdayOfEra, hcenturyOf, hdayOfCentury,
    hgroupOf, hdayOfGroup, hsingleOf, hdayOfYear]
  rfl

/-- Every day has a place. -/
theorem exists_number_eq (n : Int) : ∃ p : Place, p.number = n := by
  have hdayOfEra := Int.emod_nonneg (n + epochDay) (by decide : (146097 : Int) ≠ 0)
  have hlt := Int.emod_lt_of_pos (n + epochDay) (by decide : (0 : Int) < 146097)
  have hera := Int.mul_ediv_add_emod (n + epochDay) 146097
  generalize (n + epochDay) / 146097 = era at hera
  generalize hdays : ((n + epochDay) % 146097).toNat = days
  have hcast : (n + epochDay) % 146097 = days := by omega
  rw [hcast] at hera hlt
  let century := min (days / 36524) 3
  let group := (days - 36524 * century) / 1461
  let single := min ((days - 36524 * century) % 1461 / 365) 3
  let day := (days - 36524 * century) % 1461 - 365 * single
  refine ⟨⟨era, century, group, single, day, ?_, ?_, ?_, ?_, ?_⟩, ?_⟩
  · omega
  · omega
  · omega
  · omega
  · omega
  · simp only [number]
    omega

private theorem month_le (p : Place) : p.month ≤ 11 := by
  have hday := p.day_le
  rw [month]
  omega

/-- The days of a month begin behind those before it. -/
theorem daysBeforeMonth_le (p : Place) : daysBeforeMonth p.month ≤ p.day := by
  rw [month, daysBeforeMonth]
  omega

private theorem day_lt_daysBeforeMonth (p : Place) : p.day < daysBeforeMonth (p.month + 1) := by
  rw [month, daysBeforeMonth]
  omega

private theorem date_of_month_lt (p : Place) (h : p.month < 10) :
    p.date = ⟨p.year, p.month + 3, p.day - daysBeforeMonth p.month + 1⟩ := if_pos h

private theorem date_of_le_month (p : Place) (h : 10 ≤ p.month) :
    p.date = ⟨p.year + 1, p.month - 9, p.day - daysBeforeMonth p.month + 1⟩ :=
  if_neg (Nat.not_lt.mpr h)

/-- The days before a year in the reckoning of eras. -/
theorem days_year (p : Place) : 365 * p.year + p.year / 4 - p.year / 100 + p.year / 400 =
    146097 * p.era + 36524 * p.century + 1461 * p.group + 365 * p.single := by
  have hcentury := p.century_le
  have hgroup := p.group_le
  have hsingle := p.single_le
  rw [year]
  omega

/-- The number of the date at a place is that of the place. -/
theorem dayNumber_date (p : Place) : p.date.dayNumber = p.number := by
  have hmonth := p.month_le
  have hbefore := p.daysBeforeMonth_le
  have hdays := p.days_year
  rw [number, ← hdays]
  by_cases hmarch : p.month < 10
  · have hlate : ¬ p.month + 3 ≤ 2 := by omega
    rw [date_of_month_lt p hmarch, dayNumber]
    simp only [hlate, if_false, Nat.add_sub_cancel]
    omega
  · have hearly : p.month - 9 ≤ 2 := by omega
    have hback : p.month - 9 + 9 = p.month := by omega
    rw [date_of_le_month p (by omega), dayNumber]
    simp only [hearly, if_true, hback, Int.add_sub_cancel]
    omega

/-- The February at the end of the year has a leap day if there is a place for it. -/
theorem isLeap_year (p : Place) :
    isLeap (p.year + 1) = true ↔ p.single = 3 ∧ (p.group ≤ 23 ∨ p.century = 3) := by
  have hcentury := p.century_le
  have hgroup := p.group_le
  have hsingle := p.single_le
  rw [isLeap_iff, year]
  omega

/-- There is a date at every place. -/
theorem isValid_date (p : Place) : p.date.isValid = true := by
  have hbefore := p.daysBeforeMonth_le
  have hafter := p.day_lt_daysBeforeMonth
  have hday := p.day_le
  have hmonth := p.month_le
  have hleap := p.leap
  rw [← isLeap_year] at hleap
  have hdate : p.date = if p.month < 10
      then ⟨p.year, p.month + 3, p.day - daysBeforeMonth p.month + 1⟩
      else ⟨p.year + 1, p.month - 9, p.day - daysBeforeMonth p.month + 1⟩ := rfl
  rw [isValid_iff, hdate]
  generalize p.month = month at *
  simp only [daysBeforeMonth] at *
  -- only the length of February depends on the year
  interval_cases month
  case «11» =>
    have hfebruary : p.day - 337 + 1 ≤ if isLeap (p.year + 1) then 29 else 28 := by
      split_ifs with hyear
      · omega
      · have hcommon : p.day ≠ 365 := fun h => hyear (hleap h)
        omega
    simpa [daysInMonth] using hfebruary
  all_goals
    simp [daysInMonth]
    omega

/-- Every date has a place. -/
theorem exists_date_eq {d : CivilDate} (h : d.isValid = true) : ∃ p : Place, p.date = d := by
  obtain ⟨hmonth, hmonthEnd, hday, -⟩ := (isValid_iff d).mp h
  obtain ⟨hmonthOf, hlast⟩ := month_of_isValid h
  generalize hdayOfYear : daysBeforeMonth (marchMonth d) + d.day - 1 = day at hmonthOf hlast
  have hyear : 400 * (marchYear d / 400) + 100 * ((marchYear d % 400).toNat / 100 : Nat) +
      4 * ((marchYear d % 400).toNat % 100 / 4 : Nat) + ((marchYear d % 400).toNat % 4 : Nat) =
      marchYear d := by
    omega
  have hleap : day = 365 → (marchYear d % 400).toNat % 4 = 3 ∧
      ((marchYear d % 400).toNat % 100 / 4 ≤ 23 ∨ (marchYear d % 400).toNat / 100 = 3) := by
    intro hend
    obtain ⟨-, hfebruary, hleap⟩ := hlast (Nat.le_of_eq hend.symm)
    have hbefore : marchYear d = d.year - 1 := if_pos (Nat.le_of_eq hfebruary)
    have hyears := (isLeap_iff d.year).mp hleap
    omega
  refine ⟨⟨marchYear d / 400, (marchYear d % 400).toNat / 100,
    (marchYear d % 400).toNat % 100 / 4, (marchYear d % 400).toNat % 4, day, ?_, ?_, ?_, ?_,
    hleap⟩, ?_⟩
  · omega
  · omega
  · omega
  · by_contra hover
    exact hover (Nat.le_of_eq (hlast (by omega)).1)
  · have hdayOf : day - daysBeforeMonth (marchMonth d) + 1 = d.day := by omega
    have hdate : ∀ p : Place, p.year = marchYear d → p.month = marchMonth d → p.day = day →
        p.date = d := by
      intro p hyearAt hmonthAt hdayAt
      rw [date, hyearAt, hmonthAt, hdayAt, hdayOf]
      by_cases hwinter : d.month ≤ 2
      · have hmonthOf : marchMonth d = d.month + 9 := if_pos hwinter
        have hyearOf : marchYear d = d.year - 1 := if_pos hwinter
        rw [hmonthOf, hyearOf, if_neg (by omega), Nat.add_sub_cancel, Int.sub_add_cancel]
      · have hmonthOf : marchMonth d = d.month - 3 := if_neg hwinter
        have hyearOf : marchYear d = d.year := if_neg hwinter
        rw [hmonthOf, hyearOf, if_pos (by omega), Nat.sub_add_cancel (by omega)]
    exact hdate _ hyear hmonthOf rfl

end Place

/-- The date of the number of a date is the date. -/
theorem ofDayNumber_dayNumber {d : CivilDate} (h : d.isValid = true) :
    ofDayNumber d.dayNumber = d := by
  obtain ⟨p, rfl⟩ := Place.exists_date_eq h
  rw [p.dayNumber_date, p.ofDayNumber_number]

/-- The number of the date of a number is the number. -/
theorem dayNumber_ofDayNumber (n : Int) : (ofDayNumber n).dayNumber = n := by
  obtain ⟨p, rfl⟩ := Place.exists_number_eq n
  rw [p.ofDayNumber_number, p.dayNumber_date]

/-- There is a date for every number. -/
theorem isValid_ofDayNumber (n : Int) : (ofDayNumber n).isValid = true := by
  obtain ⟨p, rfl⟩ := Place.exists_number_eq n
  rw [p.ofDayNumber_number]
  exact p.isValid_date

/-- The years of four places lie well between the first and the last date of an instant. -/
theorem dayNumber_bounds {d : CivilDate} (h : d.isValid = true) (hyear : 0 ≤ d.year)
    (hyearEnd : d.year ≤ 9999) : -800000 ≤ d.dayNumber ∧ d.dayNumber ≤ 3000000 := by
  obtain ⟨hmonth, hmonthEnd, hday, hdayEnd⟩ := (isValid_iff d).mp h
  have hlength := daysInMonth_le d.year d.month
  simp only [dayNumber, daysBeforeMonth, epochDay]
  split_ifs <;> omega

end LiveText.CivilDate
