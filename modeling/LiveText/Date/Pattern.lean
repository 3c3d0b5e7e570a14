import LiveText.Date.Instant
import LiveText.Date.Year

/-!
# Date patterns

A pattern is read run by run. A run of one letter that stands for a field shows the field in as many
places as the run is long, or nothing if the field has no such form; every other character is shown
as it is. The letters come from the English, the German and the Russian words for the fields.
-/

namespace LiveText

/-- A field of a date pattern. -/
inductive DateField where
  | year
  | month
  | day
  | hour
  | minute
  /-- The second, or in three places the millisecond. -/
  | second
deriving DecidableEq, Repr

namespace DateField

/-- The field that a letter stands for. -/
def ofChar? : Char → Option DateField
  | 'Y' | 'J' | 'Г' => some year
  | 'M' | 'М' => some month
  | 'D' | 'T' | 'Д' => some day
  | 'h' | 'S' | 'ч' => some hour
  | 'm' | 'м' => some minute
  | 's' | 'с' => some second
  | _ => none

/-- A number in one or two places; in no other number of them. -/
def inPlaces (n : Nat) : Nat → List Char
  | 1 => Digits.ofNat 10 n
  | 2 => Digits.padded 2 n
  | _ => []

/-- A field of a time in a number of places. -/
def render (t : LocalTime) (places : Nat) : DateField → List Char
  | year =>
    if places = 4 then Year.long t.date.year
    else if places = 2 then Year.short t.date.year
    else []
  | month => inPlaces t.date.month places
  | day => inPlaces t.date.day places
  | hour => inPlaces t.hour places
  | minute => inPlaces t.minute places
  | second => if places = 3 then Digits.padded 3 t.milli else inPlaces t.second places

end DateField

namespace DatePattern

/-- The text of a run of equal characters. -/
def renderRun (t : LocalTime) (run : List Char) : List Char :=
  match run.head?.bind DateField.ofChar? with
  | some field => field.render t run.length
  | none => run

/-- The text of a time in a pattern. -/
def render (t : LocalTime) (pattern : List Char) : List Char :=
  (pattern.splitBy (· == ·)).flatMap (renderRun t)

end DatePattern

end LiveText
