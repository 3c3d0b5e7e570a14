import LiveText.Date.Locale
import LiveText.Date.Year
import LiveText.Date.Zone
import LiveText.Json.Basic
import LiveText.Text.Search

/-!
# Calendars

A calendar shows instants in its zone and its language, and knows what day it is. Its patterns are
made of fields, of composed forms that stand for patterns of their own, and of literal text in
square brackets. Of several marks that fit, the one that stands first in its table counts.
-/

namespace LiveText

/-- A piece of a pattern whose marks stand for an `α`. -/
inductive PatternPiece (α : Type) where
  /-- The literal text between brackets. -/
  | bracketed (inner : List Char)
  | mark (a : α)
  | plain (c : Char)
deriving DecidableEq, Repr

namespace PatternPiece

variable {α : Type}

/-- The first entry of a table whose mark stands in front of a text. -/
def inFront? (table : List (α × List Char)) (cs : List Char) : Option (α × List Char) :=
  table.find? fun entry => entry.2.isPrefixOf cs

/-- The literal text after an opening bracket, if there is a closing one, and the text after it. -/
def cutBracket? (c : Char) (rest : List Char) : Option (List Char × List Char) :=
  if c = '[' then Text.cutFirst? ']' rest else none

theorem length_of_cutBracket? {c : Char} {rest inner after : List Char}
    (h : cutBracket? c rest = some (inner, after)) : after.length < rest.length := by
  unfold cutBracket? at h
  split at h
  · exact Text.length_of_cutFirst? h
  · simp at h

/-- The pieces of a pattern. -/
def scan (table : List (α × List Char)) : List Char → List (PatternPiece α)
  | [] => []
  | c :: rest =>
    match _h : cutBracket? c rest with
    | some (inner, after) => .bracketed inner :: scan table after
    | none =>
      match inFront? table (c :: rest) with
      | some (a, text) => .mark a :: scan table (rest.drop (text.length - 1))
      | none => .plain c :: scan table rest
termination_by cs => cs.length
decreasing_by
  · exact Nat.lt_succ_of_lt (length_of_cutBracket? _h)
  · exact Nat.lt_succ_of_le (List.drop_sublist _ _).length_le
  · exact Nat.lt_succ_self _

end PatternPiece

/-- A field of a calendar pattern. -/
inductive CalendarField where
  | longYear | shortYear | quarter
  | monthName | shortMonthName | paddedMonth | month
  | paddedDayOfYear | dayOfYear | paddedDay | ordinalDay | day
  | weekdayName | shortWeekdayName | briefWeekdayName | weekday
  | paddedHour | hour | paddedHalfHour | halfHour | paddedLateHour | lateHour
  | paddedMinute | minute | paddedSecond | second
  | milli | centi | deci
  | upperMeridiem | lowerMeridiem
  | plainOffset | offset
  | epochSeconds | epochMillis
  | paddedWeek | week
deriving DecidableEq, Repr

namespace CalendarField

/-- The fields with their marks, the longer marks of one letter first. -/
def table : List (CalendarField × List Char) :=
  [(longYear, "YYYY".toList), (shortYear, "YY".toList), (quarter, "Q".toList),
   (monthName, "MMMM".toList), (shortMonthName, "MMM".toList), (paddedMonth, "MM".toList),
   (month, "M".toList), (paddedDayOfYear, "DDDD".toList), (dayOfYear, "DDD".toList),
   (paddedDay, "DD".toList), (ordinalDay, "Do".toList), (day, "D".toList),
   (weekdayName, "dddd".toList), (shortWeekdayName, "ddd".toList),
   (briefWeekdayName, "dd".toList), (weekday, "d".toList), (paddedHour, "HH".toList),
   (hour, "H".toList), (paddedHalfHour, "hh".toList), (halfHour, "h".toList),
   (paddedLateHour, "kk".toList), (lateHour, "k".toList), (paddedMinute, "mm".toList),
   (minute, "m".toList), (paddedSecond, "ss".toList), (second, "s".toList),
   (milli, "SSS".toList), (centi, "SS".toList), (deci, "S".toList),
   (upperMeridiem, "A".toList), (lowerMeridiem, "a".toList), (plainOffset, "ZZ".toList),
   (offset, "Z".toList), (epochSeconds, "X".toList), (epochMillis, "x".toList),
   (paddedWeek, "WW".toList), (week, "W".toList)]

/-- The hour on a clock of twelve hours. -/
def halfHourOf (hour : Nat) : Nat := if hour % 12 = 0 then 12 else hour % 12

/-- The hour on a clock that ends the day at 24. -/
def lateHourOf (hour : Nat) : Nat := if hour = 0 then 24 else hour

/-- An offset with its sign, hours and minutes. -/
def offsetChars (between : List Char) (o : Offset) : List Char :=
  let size := o.seconds.natAbs
  (if o.seconds < 0 then '-' else '+') ::
    (Digits.padded 2 (size / 3600) ++ between ++ Digits.padded 2 (size % 3600 / 60))

/-- The name at a place of a list. -/
def nameAt (names : List String) (i : Nat) : List Char := (names[i]?.getD "").toList

/-- A field of a time in a language. -/
def render (l : Locale) (t : LocalTime) : CalendarField → List Char
  | longYear => Year.long t.date.year
  | shortYear => Year.short t.date.year
  | quarter => Digits.ofNat 10 ((t.date.month - 1) / 3 + 1)
  | monthName => nameAt l.months (t.date.month - 1)
  | shortMonthName => nameAt l.shortMonths (t.date.month - 1)
  | paddedMonth => Digits.padded 2 t.date.month
  | month => Digits.ofNat 10 t.date.month
  | paddedDayOfYear => Digits.padded 3 (CivilDate.dayOfYear t.dayNumber)
  | dayOfYear => Digits.ofNat 10 (CivilDate.dayOfYear t.dayNumber)
  | paddedDay => Digits.padded 2 t.date.day
  | ordinalDay => l.ordinal t.date.day
  | day => Digits.ofNat 10 t.date.day
  | weekdayName => nameAt l.weekdays (CivilDate.weekdayOf t.dayNumber)
  | shortWeekdayName => nameAt l.shortWeekdays (CivilDate.weekdayOf t.dayNumber)
  | briefWeekdayName => nameAt l.briefWeekdays (CivilDate.weekdayOf t.dayNumber)
  | weekday => Digits.ofNat 10 (CivilDate.weekdayOf t.dayNumber)
  | paddedHour => Digits.padded 2 t.hour
  | hour => Digits.ofNat 10 t.hour
  | paddedHalfHour => Digits.padded 2 (halfHourOf t.hour)
  | halfHour => Digits.ofNat 10 (halfHourOf t.hour)
  | paddedLateHour => Digits.padded 2 (lateHourOf t.hour)
  | lateHour => Digits.ofNat 10 (lateHourOf t.hour)
  | paddedMinute => Digits.padded 2 t.minute
  | minute => Digits.ofNat 10 t.minute
  | paddedSecond => Digits.padded 2 t.second
  | second => Digits.ofNat 10 t.second
  | milli => Digits.padded 3 t.milli
  | centi => Digits.padded 2 (t.milli / 10)
  | deci => Digits.ofNat 10 (t.milli / 100)
  | upperMeridiem => (if t.hour < 12 then "AM" else "PM").toList
  | lowerMeridiem => (if t.hour < 12 then "am" else "pm").toList
  | plainOffset => offsetChars [] t.offset
  | offset => offsetChars [':'] t.offset
  | epochSeconds => Json.integerChars t.instant.seconds
  | epochMillis => Json.integerChars t.instant.millis
  | paddedWeek => Digits.padded 2 (CivilDate.weekOf t.dayNumber)
  | week => Digits.ofNat 10 (CivilDate.weekOf t.dayNumber)

end CalendarField

/-- A calendar. -/
structure Calendar where
  locale : Locale
  zone : Zone
  /-- The present instant. -/
  now : Instant

namespace Calendar

/-- A composed form replaced by its pattern; all else is kept as it is written. -/
def expandPiece (l : Locale) : PatternPiece LongForm → List Char
  | .bracketed inner => '[' :: (inner ++ [']'])
  | .mark form => (l.pattern form).toList
  | .plain c => [c]

/-- The pattern with composed forms replaced by their patterns. -/
def expand (l : Locale) (pattern : List Char) : List Char :=
  (PatternPiece.scan LongForm.table pattern).flatMap (expandPiece l)

/-- The text of a piece of a pattern without composed forms. -/
def renderPiece (l : Locale) (t : LocalTime) : PatternPiece CalendarField → List Char
  | .bracketed inner => inner
  | .mark field => field.render l t
  | .plain c => [c]

/-- The text of a time in a pattern without composed forms. -/
def renderFields (l : Locale) (t : LocalTime) (pattern : List Char) : List Char :=
  (PatternPiece.scan CalendarField.table pattern).flatMap (renderPiece l t)

/-- The text of an instant in a pattern. -/
def chars (c : Calendar) (t : Instant) (pattern : List Char) : List Char :=
  renderFields c.locale (c.zone.localize t) (expand c.locale pattern)

/-- The text of an instant in a pattern. -/
def display (c : Calendar) (t : Instant) (pattern : String) : String :=
  String.ofList (c.chars t pattern.toList)

/-- The days from the date of an instant to the present date. -/
def daysBeforeToday (c : Calendar) (t : Instant) : Except OutOfRange Int := do
  let today ← (c.zone.localize c.now).dayInRange
  let day ← (c.zone.localize t).dayInRange
  return today - day

end Calendar

end LiveText
