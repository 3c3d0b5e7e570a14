import LiveText.Date.Zone
import LiveText.Text.Blank
import LiveText.Text.Reader

/-!
# Reading date texts

A date text either carries its own offset, in the strict interchange form, or is a wall-clock time
in a given zone. Wall-clock texts are lenient: blanks may stand before every number, numbers may be
shorter than their places, the year may have a sign and more places, the time may be left out.
-/

namespace LiveText

/-- The wall-clock time with the given fields, if there is one. Second 60 is a leap second after
second 59. -/
def WallTime.ofFields? (date : CivilDate) (hour minute second nanos : Nat) : Option WallTime :=
  if date.isValid && hour < 24 && minute < 60 && second ≤ 60 then
    some ⟨date, hour * 3600 + minute * 60 + min second 59,
      if second = 60 then 1000000000 + nanos else nanos⟩
  else none

namespace DateText

open Text Text.Reader

/-- A fraction of a second in nanoseconds; digits after the ninth are passed over. -/
def fraction : Reader Nat := fun cs =>
  let ds := cs.takeWhile Char.isDigit
  let kept := ds.take 9
  if ds.isEmpty then none
  else some (Digits.value 10 kept * Nat.pow 10 (9 - kept.length), cs.drop ds.length)

/-- A fraction after a point, or nothing. -/
def optionalFraction : Reader Nat
  | '.' :: rest => fraction rest
  | cs => some (0, cs)

/-- The signs of an offset; the true minus sign counts as one. -/
def offsetSign : Reader Bool
  | '+' :: rest => some (false, rest)
  | '-' :: rest | '−' :: rest => some (true, rest)
  | _ => none

/-- An offset in seconds: `Z`, or a sign, hours and minutes. -/
def offset : Reader Int
  | 'Z' :: rest | 'z' :: rest => some (0, rest)
  | cs => do
    let (negative, cs) ← offsetSign cs
    let (hours, cs) ← digits 2 2 cs
    let ((), cs) ← char ':' cs
    let (minutes, cs) ← digits 2 2 cs
    let seconds : Int := hours * 3600 + minutes * 60
    if minutes < 60 then some (if negative then -seconds else seconds, cs) else none

/-- What stands between a date and a time in the interchange form. -/
def separator : Reader Unit
  | 'T' :: rest | 't' :: rest | ' ' :: rest => some ((), rest)
  | _ => none

/-- The instant of a text in the interchange form, `2024-03-05T07:08:09.5+01:00`. -/
def readInterchange (cs : List Char) : Option Instant := do
  let (year, cs) ← digits 4 4 cs
  let ((), cs) ← char '-' cs
  let (month, cs) ← digits 2 2 cs
  let ((), cs) ← char '-' cs
  let (day, cs) ← digits 2 2 cs
  let ((), cs) ← separator cs
  let (hour, cs) ← digits 2 2 cs
  let ((), cs) ← char ':' cs
  let (minute, cs) ← digits 2 2 cs
  let ((), cs) ← char ':' cs
  let (second, cs) ← digits 2 2 cs
  let (nanos, cs) ← optionalFraction cs
  let (offset, cs) ← offset cs
  if cs.isEmpty then
    let wall ← WallTime.ofFields? ⟨year, month, day⟩ hour minute second nanos
    wall.instant? (← Offset.ofSeconds? offset)
  else none

/-- A number of at most two digits, after blanks. -/
def field : Reader Nat := fun cs => digits 1 2 (trimStart cs)

/-- A year, after blanks: at most four digits, or a sign and any number of them. -/
def year : Reader Int := fun cs =>
  match trimStart cs with
  | '-' :: rest => (digits 1 rest.length rest).map fun (n, after) => (-(n : Int), after)
  | '+' :: rest => (digits 1 rest.length rest).map fun (n, after) => ((n : Int), after)
  | cs => (digits 1 4 cs).map fun (n, after) => ((n : Int), after)

/-- A date. -/
def date : Reader CivilDate := fun cs => do
  let (year, cs) ← year cs
  let ((), cs) ← char '-' cs
  let (month, cs) ← field cs
  let ((), cs) ← char '-' cs
  let (day, cs) ← field cs
  some (⟨year, month, day⟩, cs)

/-- A wall-clock time: a date alone, at midnight, or a date, a `T` or any blanks, and a time. -/
def readWall (cs : List Char) : Option WallTime := do
  let (date, cs) ← date cs
  if cs.isEmpty then WallTime.ofFields? date 0 0 0 0
  else
    let cs := match cs with
      | 'T' :: rest => rest
      | cs => cs
    let (hour, cs) ← field cs
    let ((), cs) ← char ':' cs
    let (minute, cs) ← field cs
    let ((), cs) ← char ':' cs
    let (second, cs) ← field cs
    let (nanos, cs) ← optionalFraction cs
    if cs.isEmpty then WallTime.ofFields? date hour minute second nanos else none

/-- The instant of a date text; without an offset of its own it is read in a zone. -/
def read (zone : Zone) (cs : List Char) : Option Instant :=
  let cs := trim cs
  match readInterchange cs with
  | some t => some t
  | none => (readWall cs).bind zone.instant?

end DateText

end LiveText
