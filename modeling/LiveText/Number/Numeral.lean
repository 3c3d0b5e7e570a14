import LiveText.Number.Digits
import LiveText.Number.Double
import LiveText.Text.Blank

/-!
# Reading numbers

A numeral is an optional sign, digits with an optional point, and an optional power of ten.
`Numeral.scan` takes the longest numeral in front of a text. Lenient reading (`readPrefix`) is
content with it; strict reading (`readWhole`) wants nothing after it, and knows hexadecimal.
-/

namespace LiveText

open Text

/-- The parts of a numeral: the number `±whole.fraction · 10^exponent`. -/
structure Numeral where
  negative : Bool
  whole : List Char
  fraction : List Char
  exponent : Int
deriving DecidableEq, Repr

namespace Numeral

/-- The double nearest to what a numeral denotes. -/
def value (n : Numeral) : Double :=
  Double.ofDecimal n.negative (Digits.value 10 (n.whole ++ n.fraction))
    (n.exponent - n.fraction.length)

/-- An optional sign and the text after it. -/
def scanSign : List Char → Bool × List Char
  | '+' :: rest => (false, rest)
  | '-' :: rest => (true, rest)
  | rest => (false, rest)

/-- Digits with an optional point, and the text after them; the point needs a digit on one side. -/
def scanDigits (cs : List Char) : Option (List Char × List Char × List Char) :=
  let whole := cs.takeWhile Char.isDigit
  match cs.dropWhile Char.isDigit with
  | '.' :: rest =>
    let fraction := rest.takeWhile Char.isDigit
    if whole.isEmpty && fraction.isEmpty then none
    else some (whole, fraction, rest.dropWhile Char.isDigit)
  | rest => if whole.isEmpty then none else some (whole, [], rest)

/-- An optional power of ten and the text after it; the mark needs digits to count as one. -/
def scanExponent (cs : List Char) : Int × List Char :=
  match cs with
  | c :: rest =>
    if c = 'e' ∨ c = 'E' then
      let (negative, tail) := scanSign rest
      let digits := tail.takeWhile Char.isDigit
      if digits.isEmpty then (0, cs)
      else
        let size : Int := Digits.value 10 digits
        (if negative then -size else size, tail.dropWhile Char.isDigit)
    else (0, cs)
  | [] => (0, cs)

/-- The longest numeral in front of a text, and the text after it. -/
def scan (cs : List Char) : Option (Numeral × List Char) :=
  let (negative, unsigned) := scanSign cs
  match scanDigits unsigned with
  | none => none
  | some (whole, fraction, rest) =>
    let (exponent, rest) := scanExponent rest
    some (⟨negative, whole, fraction, exponent⟩, rest)

/-- The word for an unbounded number. -/
def infinityWord : List Char := "Infinity".toList

/-- The number in front of a text, after blanks; `nan` if there is none. -/
def readPrefix (cs : List Char) : Double :=
  let cs := trimStart cs
  let (negative, unsigned) := scanSign cs
  if infinityWord.isPrefixOf unsigned then .infinity negative
  else match scan cs with
    | some (n, _) => n.value
    | none => .nan

/-- Hexadecimal digits as a number, if they fit in 64 bits; a plus sign may stand in front. -/
def readHex (cs : List Char) : Option Nat :=
  let digits := match cs with
    | '+' :: rest => rest
    | _ => cs
  if digits.isEmpty || !digits.all (fun c => (Digits.inBase? 16 c).isSome) then none
  else
    let n := Digits.value 16 digits
    if n < Nat.pow 2 64 then some n else none

/-- The number that a trimmed text is as a whole: zero for the empty text, `nan` for what is no
number. -/
def readTrimmed : List Char → Double
  | [] => 0
  | '0' :: 'x' :: hex | '0' :: 'X' :: hex => ((readHex hex).map Double.ofNat).getD .nan
  | cs =>
    let (negative, unsigned) := scanSign cs
    if unsigned = infinityWord then .infinity negative
    else match scan cs with
      | some (n, []) => n.value
      | _ => .nan

/-- The number that a text is as a whole, apart from blanks at its ends. -/
def readWhole (cs : List Char) : Double := readTrimmed (trim cs)

end Numeral

end LiveText
