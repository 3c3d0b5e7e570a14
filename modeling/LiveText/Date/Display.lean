import LiveText.Date.Pattern
import LiveText.Date.Reading
import LiveText.Text.Search
import LiveText.Value.Basic

/-!
# Values as dates

A number is a duration, a count of seconds or a count of milliseconds, depending on its size; a text
is the number that it spells, or else a date text. A duration is shown by the fields of the instant
that long after the start of 1970, whatever the zone. To this end the instant is shifted by the
offset of the zone at that instant; where the shift leaves the range of instants, showing the
duration breaks off.
-/

namespace LiveText

/-- What a value is as a date. -/
inductive Moment where
  | instant (t : Instant)
  /-- A duration in seconds. -/
  | elapsed (seconds : Double)
deriving DecidableEq

namespace Moment

/-- Integers below this number are durations. -/
def elapsedBelow : Double := Double.ofNat 946681200

/-- Integers below this number are seconds; all other numbers are milliseconds. -/
def secondsBelow : Double := Double.ofNat 946681200000

/-- The number of a number or of a text that spells one. -/
def number? : Value → Option Double
  | .number x => some x
  | .string s =>
    let cs := s.toList
    if (Text.trim cs).isEmpty || (Numeral.readWhole cs).isNaN then none
    else some (Numeral.readWhole cs)
  | _ => none

/-- What a number is as a date. A channel that holds a time has no durations of its own. -/
def ofNumber? (duration isTime : Bool) (x : Double) : Option Moment :=
  if !x.isFinite then none
  else if duration || x.isIntegral && x.less elapsedBelow && !isTime then some (.elapsed x)
  else
    let ms := if x.isIntegral && x.less secondsBelow then x * Double.ofNat 1000 else x
    (Instant.ofMillisNumber? ms).map .instant

/-- What a value is as a date, if it is one. -/
def ofValue? (zone : Zone) (duration isTime : Bool) (v : Value) : Option Moment :=
  match v with
  | .bool _ => none
  | _ =>
    if !v.truthy then none
    else
      match number? v with
      | some x => ofNumber? duration isTime x
      | none =>
        match v with
        | .string s => (DateText.read zone s.toList).map .instant
        | _ => none

/-- The instant a number of seconds after the start of 1970, if it is in range. -/
def elapsedInstant? (seconds : Double) : Option Instant :=
  Instant.ofMillisNumber? (seconds * Double.ofNat 1000)

/-- The time whose fields show a duration, if there is one: the instant that long after the start of
1970, earlier by the offset that is in effect then and that it is seen with. -/
def elapsedTime (zone : Zone) (seconds : Double) : Except OutOfRange (Option LocalTime) :=
  match elapsedInstant? seconds with
  | some t =>
    let offset := zone.offsetAt t
    (t.earlier offset.seconds).map fun earlier => some ⟨earlier, offset⟩
  | none => .ok none

/-- The time whose fields show a moment, if there is one. -/
def localTime (zone : Zone) : Moment → Except OutOfRange (Option LocalTime)
  | instant t => .ok (some (zone.localize t))
  | elapsed seconds => elapsedTime zone seconds

end Moment

namespace DatePattern

/-- The word that asks for a duration. -/
def durationWord : List Char := "duration".toList

/-- Whether an argument asks for a duration, and its pattern. -/
def readArgument (arg : List Char) : Bool × List Char :=
  let arg := Text.trim arg
  if arg = durationWord then (true, [])
  else
    match Text.cutFirst? ',' arg with
    | some (head, pattern) =>
      if Text.trim head = durationWord then (true, Text.trim pattern) else (false, arg)
    | none => (false, arg)

/-- The pattern of an argument; an empty one is replaced by a given one. -/
def patternOf (arg default : List Char) : List Char :=
  if (readArgument arg).2.isEmpty then default else (readArgument arg).2

/-- The text of a time that there may be in a pattern. -/
def renderAny (pattern : List Char) (t : Option LocalTime) : List Char :=
  (t.map (render · pattern)).getD []

/-- The text of a value as a date, empty if it is none. -/
def shown (zone : Zone) (v : Value) (arg : List Char) (isTime : Bool) (default : List Char) :
    Except OutOfRange (List Char) :=
  match Moment.ofValue? zone (readArgument arg).1 isTime v with
  | some m => (m.localTime zone).map (renderAny (patternOf arg default))
  | none => .ok []

variable {zone : Zone} {v : Value} {arg : List Char} {isTime : Bool}

/-- An instant is shown by the fields that it has in the zone. -/
theorem shown_of_instant {t : Instant}
    (h : Moment.ofValue? zone (readArgument arg).1 isTime v = some (.instant t))
    (default : List Char) :
    shown zone v arg isTime default = .ok (render (zone.localize t) (patternOf arg default)) := by
  rw [shown, h]
  rfl

/-- What is no date is shown as nothing. -/
theorem shown_of_none (h : Moment.ofValue? zone (readArgument arg).1 isTime v = none)
    (default : List Char) : shown zone v arg isTime default = .ok [] := by
  rw [shown, h]

/-- The text of a value as a date; none where showing it breaks off. -/
def display (zone : Zone) (v : Value) (arg : String) (isTime : Bool) (default : String) : String :=
  String.ofList ((shown zone v arg.toList isTime default.toList).toOption.getD [])

end DatePattern

end LiveText
