import LiveText.Date.Civil
import LiveText.Number.Numeral
import LiveText.Toml.Basic
import LiveText.Toml.Quoted

/-!
# Scalars in TOML

Numbers may have underscores between digits, and decimal ones no superfluous zero in front. Dates
and times are checked field by field.
-/

namespace LiveText.Toml

open Text Text.Reader

/-! ### Numbers -/

/-- Digits that underscores may separate, of which one at least stands in front. -/
def separatedDigits (isDigit : Char → Bool) : List Char → Option (List Char × List Char)
  | [] => none
  | c :: rest =>
    if isDigit c then
      match rest with
      | '_' :: more =>
        (separatedDigits isDigit more).map fun (digits, rest) => (c :: digits, rest)
      | d :: more =>
        if isDigit d then
          (separatedDigits isDigit (d :: more)).map fun (digits, rest) => (c :: digits, rest)
        else some ([c], rest)
      | [] => some ([c], [])
    else none
termination_by cs => cs.length

/-- A sign that may be missing. -/
def sign : List Char → Bool × List Char := Numeral.scanSign

/-- Decimal digits without a superfluous zero in front. -/
def wholeDigits : Reader (List Char)
  | '0' :: rest => some (['0'], rest)
  | cs => separatedDigits Char.isDigit cs

/-- An integer, if it has at most 64 bits. -/
def integerOf? (negative : Bool) (base : Nat) (digits : List Char) : Option Toml :=
  let n : Int := Digits.value base digits
  let n := if negative then -n else n
  if minInteger ≤ n ∧ n ≤ maxInteger then some (.integer n) else none

/-- An integer in a base whose mark has been read. -/
def basedInteger (base : Nat) : Reader Toml := fun cs => do
  let (digits, rest) ← separatedDigits (fun c => (Digits.inBase? base c).isSome) cs
  return (← integerOf? false base digits, rest)

/-- The fraction of a number; `none` if its point has no digits after it. -/
def fractionDigits : List Char → Option (List Char × List Char)
  | '.' :: rest => separatedDigits Char.isDigit rest
  | cs => some ([], cs)

/-- The exponent of a number, if it has one; an outer `none` if its mark has no digits after it. -/
def exponent (cs : List Char) : Option (Option Int × List Char) :=
  match cs with
  | c :: rest =>
    if c = 'e' ∨ c = 'E' then do
      let (negative, rest) := sign rest
      let (digits, rest) ← separatedDigits Char.isDigit rest
      let n : Int := Digits.value 10 digits
      return (some (if negative then -n else n), rest)
    else some (none, cs)
  | [] => some (none, [])

/-- A float; one that is too great is refused. -/
def floatOf? (n : Numeral) : Option Toml :=
  if n.value = .infinity false then none else some (.float n.value)

/-- A decimal integer or a float. -/
def decimal : Reader Toml := fun cs => do
  let (negative, cs) := sign cs
  let (whole, cs) ← wholeDigits cs
  let (fraction, cs) ← fractionDigits cs
  let (exponent, cs) ← exponent cs
  if fraction.isEmpty ∧ exponent.isNone then
    return (← integerOf? negative 10 whole, cs)
  else
    return (← floatOf? ⟨negative, whole, fraction, exponent.getD 0⟩, cs)

/-- A float that is written as a word. -/
def specialFloat : Reader Toml := fun cs =>
  let (negative, cs) := sign cs
  match cs with
  | 'i' :: 'n' :: 'f' :: rest => some (.float (.infinity negative), rest)
  | 'n' :: 'a' :: 'n' :: rest => some (.float .nan, rest)
  | _ => none

/-- A number. -/
def number : Reader Toml
  | '0' :: 'x' :: rest => basedInteger 16 rest
  | '0' :: 'o' :: rest => basedInteger 8 rest
  | '0' :: 'b' :: rest => basedInteger 2 rest
  | cs =>
    match specialFloat cs with
    | some found => some found
    | none => decimal cs

/-! ### Dates and times -/

/-- What reading a date or a time gives: nothing of the kind, a mistake, or the rest of the text. -/
inductive Dated where
  | other
  | mistaken
  | read (rest : List Char)

/-- A field of two digits between bounds. -/
def boundedField (least most : Nat) : Reader Nat := fun cs => do
  let (n, rest) ← digits 2 2 cs
  if least ≤ n ∧ n ≤ most then some (n, rest) else none

/-- The fraction of a second, if there is one. -/
def secondFraction (cs : List Char) : Option (List Char) :=
  match cs with
  | '.' :: rest =>
    let after := rest.dropWhile Char.isDigit
    if after.length < rest.length then some after else some cs
  | _ => some cs

/-- The minutes and seconds of a time, after the colon that follows the hour. -/
def afterHour (cs : List Char) : Option (List Char) := do
  let (_, cs) ← boundedField 0 59 cs
  let ((), cs) ← char ':' cs
  let (_, cs) ← boundedField 0 60 cs
  secondFraction cs

/-- A time of day. -/
def timeOfDay (cs : List Char) : Dated :=
  match boundedField 0 23 cs with
  | some (_, ':' :: rest) =>
    match afterHour rest with
    | some rest => .read rest
    | none => .mistaken
  | _ => .other

/-- An offset, if there is one; `none` for a mistaken one. -/
def skipOffset : List Char → Option (List Char)
  | 'Z' :: rest | 'z' :: rest => some rest
  | '+' :: rest | '-' :: rest => do
    let (_, rest) ← boundedField 0 23 rest
    let ((), rest) ← char ':' rest
    let (_, rest) ← boundedField 0 59 rest
    return rest
  | rest => some rest

/-- The time and the offset after a date, if there are any. -/
def afterDate (cs : List Char) : Dated :=
  match cs with
  | c :: rest =>
    if c = 'T' ∨ c = 't' ∨ c = ' ' then
      match timeOfDay rest with
      | .other => .read cs
      | .mistaken => .mistaken
      | .read rest =>
        match skipOffset rest with
        | some rest => .read rest
        | none => .mistaken
    else .read cs
  | [] => .read []

/-- The month and the day of a date, after the dash that follows the year. -/
def afterYear (year : Nat) (cs : List Char) : Option (List Char) := do
  let (month, cs) ← boundedField 1 12 cs
  let ((), cs) ← char '-' cs
  let (day, cs) ← boundedField 1 31 cs
  if (CivilDate.mk year month day).isValid then some cs else none

/-- A date, a time, or both. -/
def dated (cs : List Char) : Dated :=
  match digits 4 4 cs with
  | some (year, '-' :: rest) =>
    match afterYear year rest with
    | some rest => afterDate rest
    | none => .mistaken
  | _ => timeOfDay cs

/-! ### All scalars -/

/-- A date, a time or a number. -/
def datedOrNumber : Reader Toml := fun cs =>
  match dated cs with
  | .other => number cs
  | .mistaken => none
  | .read rest => some (.dateTime (String.ofList (cs.take (cs.length - rest.length))), rest)

/-- A value that is neither an array nor a table. -/
def scalar : Reader Toml := fun cs =>
  match cs with
  | [] => none
  | c :: _ =>
    if c = '"' ∨ c = '\'' then (quoted cs).map fun (s, rest) => (.string (String.ofList s), rest)
    else if c = 't' then (word "true" cs).map fun ((), rest) => (.boolean true, rest)
    else if c = 'f' then (word "false" cs).map fun ((), rest) => (.boolean false, rest)
    else datedOrNumber cs

end LiveText.Toml
