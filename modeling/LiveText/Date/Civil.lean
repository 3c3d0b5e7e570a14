/-!
# Civil dates

Dates of the Gregorian calendar, extended without limit in both directions, and their numbers in a
row of days that begins at 1970-01-01. In the reckoning, years begin in March, so that a leap day is
the last of its year; they fall into eras of 400 years, centuries, groups of four, and single years.
-/

namespace LiveText

/-- A date. Months and days count from one. -/
structure CivilDate where
  year : Int
  month : Nat
  day : Nat
deriving DecidableEq, Repr

namespace CivilDate

/-- Whether a year has a leap day. -/
def isLeap (year : Int) : Bool := year % 4 = 0 && (year % 100 ≠ 0 || year % 400 = 0)

/-- The number of days of a month. -/
def daysInMonth (year : Int) (month : Nat) : Nat :=
  if month = 2 then if isLeap year then 29 else 28
  else if month = 4 ∨ month = 6 ∨ month = 9 ∨ month = 11 then 30
  else 31

/-- Whether there is such a date. -/
def isValid (d : CivilDate) : Bool :=
  1 ≤ d.month && d.month ≤ 12 && 1 ≤ d.day && d.day ≤ daysInMonth d.year d.month

/-- The days before a month in a year that begins in March, whose months count from zero. -/
def daysBeforeMonth (month : Nat) : Nat := (153 * month + 2) / 5

/-- The days from the first of March of year zero to 1970-01-01. -/
def epochDay : Int := 719468

/-- The number of a date in the row of days. -/
def dayNumber (d : CivilDate) : Int :=
  let year : Int := if d.month ≤ 2 then d.year - 1 else d.year
  let month := if d.month ≤ 2 then d.month + 9 else d.month - 3
  365 * year + year / 4 - year / 100 + year / 400 + daysBeforeMonth month + d.day - 1 - epochDay

/-- The date with a number in the row of days. -/
def ofDayNumber (n : Int) : CivilDate :=
  let era := (n + epochDay) / 146097
  let dayOfEra := ((n + epochDay) % 146097).toNat
  let century := min (dayOfEra / 36524) 3
  let dayOfCentury := dayOfEra - 36524 * century
  let group := dayOfCentury / 1461
  let dayOfGroup := dayOfCentury % 1461
  let single := min (dayOfGroup / 365) 3
  let dayOfYear := dayOfGroup - 365 * single
  let month := (5 * dayOfYear + 2) / 153
  let day := dayOfYear - daysBeforeMonth month + 1
  let year : Int := 400 * era + 100 * century + 4 * group + single
  if month < 10 then ⟨year, month + 3, day⟩ else ⟨year + 1, month - 9, day⟩

/-- The day of the week with a number in the row of days; Sunday is zero. -/
def weekdayOf (n : Int) : Nat := ((n + 4) % 7).toNat

/-- The number of a day in its year, from one. -/
def dayOfYear (n : Int) : Nat := (n - (CivilDate.mk (ofDayNumber n).year 1 1).dayNumber).toNat + 1

/-- The number of the week of a day. Weeks begin on Monday and belong to the year of their
Thursday. -/
def weekOf (n : Int) : Nat := (dayOfYear (n - (n + 3) % 7 + 3) - 1) / 7 + 1

end CivilDate

end LiveText
