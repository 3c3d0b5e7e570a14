import LiveText.Date.Civil
import LiveText.Number.Double

/-!
# Instants

An instant counts seconds from the start of 1970 in universal time, and nanoseconds within the
second, of which a leap second has as many again. Offsets from universal time are less than a day.
Seen with an offset, an instant has a date and a time of day.
-/

namespace LiveText

/-- A point in time. -/
structure Instant where
  seconds : Int
  /-- Below `10^9`, or below `2 · 10^9` in a leap second. -/
  nanos : Nat
deriving DecidableEq, Repr

/-- A time, in seconds from the start of 1970, that lies before the first or after the last date of
an instant. -/
structure OutOfRange where
  seconds : Int
deriving DecidableEq, Repr

namespace Instant

/-- The seconds of a day. -/
def secondsPerDay : Nat := 86400

/-- The earliest date of an instant. -/
def firstDate : CivilDate := ⟨-262143, 1, 1⟩

/-- The latest date of an instant. -/
def lastDate : CivilDate := ⟨262142, 12, 31⟩

/-- Whether a count of seconds lies between the earliest and the latest date. -/
def inRange (seconds : Int) : Bool :=
  firstDate.dayNumber * secondsPerDay ≤ seconds &&
    seconds < (lastDate.dayNumber + 1) * secondsPerDay

/-- The instant after a count of milliseconds, if it is in range. -/
def ofMillis? (ms : Int) : Option Instant :=
  if inRange (ms / 1000) then some ⟨ms / 1000, (ms % 1000).toNat * 1000000⟩ else none

/-- The greatest integer that is not above a number; zero if the number is not finite. -/
def floorOf (x : Double) : Int := x.floor.toInt

/-- The instant after a number of milliseconds, rounded down, if it is in range. -/
def ofMillisNumber? (ms : Double) : Option Instant :=
  if ms.isFinite then ofMillis? (floorOf ms) else none

/-- The milliseconds within the second; at least a thousand in a leap second. -/
def subsecMillis (t : Instant) : Nat := t.nanos / 1000000

/-- The milliseconds from the start of 1970. -/
def millis (t : Instant) : Int := t.seconds * 1000 + t.subsecMillis

/-- The instant that lies a number of seconds before another. Whoever asks for one that is out of
range breaks off. -/
def earlier (t : Instant) (seconds : Int) : Except OutOfRange Instant :=
  if inRange (t.seconds - seconds) then .ok { t with seconds := t.seconds - seconds }
  else .error ⟨t.seconds - seconds⟩

end Instant

/-- An offset from universal time, in seconds to the east. -/
structure Offset where
  seconds : Int
  /-- An offset is less than a day. -/
  small : seconds.natAbs < 86400
deriving DecidableEq, Repr

namespace Offset

/-- No offset. -/
def zero : Offset := ⟨0, by decide⟩

/-- The offset of a number of seconds, if it is less than a day. -/
def ofSeconds? (seconds : Int) : Option Offset :=
  if h : seconds.natAbs < 86400 then some ⟨seconds, h⟩ else none

end Offset

/-- A date and a time of day, without a zone. -/
structure WallTime where
  date : CivilDate
  secondOfDay : Nat
  nanos : Nat
deriving DecidableEq, Repr

/-- The instant at which a clock with an offset shows the time, if both are in range. -/
def WallTime.instant? (t : WallTime) (offset : Offset) : Option Instant :=
  let seconds := t.date.dayNumber * Instant.secondsPerDay + t.secondOfDay
  if Instant.inRange seconds && Instant.inRange (seconds - offset.seconds) then
    some ⟨seconds - offset.seconds, t.nanos⟩
  else none

/-- An instant seen with an offset. -/
structure LocalTime where
  instant : Instant
  offset : Offset
deriving DecidableEq, Repr

namespace LocalTime

/-- The seconds that a clock at the offset has counted. -/
def seconds (t : LocalTime) : Int := t.instant.seconds + t.offset.seconds

/-- The number of the date in the row of days. -/
def dayNumber (t : LocalTime) : Int := t.seconds / Instant.secondsPerDay

/-- The seconds since midnight. -/
def secondOfDay (t : LocalTime) : Nat := (t.seconds % Instant.secondsPerDay).toNat

/-- The date. -/
def date (t : LocalTime) : CivilDate := CivilDate.ofDayNumber t.dayNumber

/-- The number of the date in the row of days, if the date lies in the range of instants. Whoever
asks for one that does not breaks off. -/
def dayInRange (t : LocalTime) : Except OutOfRange Int :=
  if Instant.inRange t.seconds then .ok t.dayNumber else .error ⟨t.seconds⟩

/-- The hour of the day. -/
def hour (t : LocalTime) : Nat := t.secondOfDay / 3600

/-- The minute of the hour. -/
def minute (t : LocalTime) : Nat := t.secondOfDay / 60 % 60

/-- The second of the minute. -/
def second (t : LocalTime) : Nat := t.secondOfDay % 60

/-- The millisecond of the second; a leap second counts from zero again. -/
def milli (t : LocalTime) : Nat := t.instant.subsecMillis % 1000

end LocalTime

end LiveText
