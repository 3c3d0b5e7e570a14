import LiveText.Number.Layout
import LiveText.Text.Search

/-!
# Fixed places

A number with a given count of places is rounded on its plain digits, a half away from zero: `2.55`
with one place is `2.6`, although the double lies below `2.55`. The digits up to the last place are
kept, and raised by one where the next digit is at least five. The sign is shown only beside a digit
other than zero.
-/

namespace LiveText

namespace Fixed

/-- The most places that are ever shown. -/
def maxPlaces : Nat := 100

/-- The digits in front of the point of a plain numeral and those behind it. -/
def parts (text : List Char) : List Char × List Char := (Text.cutFirst? '.' text).getD (text, [])

/-- The digit after one below nine. -/
def next (d : Char) : Char := Char.ofNat (d.toNat + 1)

/-- Digits with the last one in front, raised by one. A nine becomes a zero and carries to the digit
before it; what is carried beyond all digits is a digit of its own. -/
def carried : List Char → List Char
  | [] => ['1']
  | d :: rest => if d = '9' then '0' :: carried rest else next d :: rest

/-- Digits raised by one in their last place. -/
def raised (digits : List Char) : List Char := (carried digits.reverse).reverse

/-- The digits that are kept: those of the whole part and of so many places, with zeros in the
places that the fraction does not reach. -/
def kept (places : Nat) (whole fraction : List Char) : List Char :=
  whole ++ (List.range places).map fun i => fraction.getD i '0'

/-- The digits that are kept, rounded by the digit behind them. -/
def rounded (places : Nat) (whole fraction : List Char) : List Char :=
  match fraction[places]? with
  | some d =>
    if '5' ≤ d then raised (kept places whole fraction) else kept places whole fraction
  | none => kept places whole fraction

/-- Digits with a point in front of so many places; without places there is none. -/
def pointed (places : Nat) (digits : List Char) : List Char :=
  let whole := digits.length - places
  digits.take whole ++ if places = 0 then [] else '.' :: digits.drop whole

end Fixed

namespace Double

/-- The digits of a number with a fixed count of places. What is not finite, or is at least `1e21`
in magnitude, has its display text instead. -/
def fixedChars (x : Double) (places : Nat) : List Char :=
  match x with
  | .finite _ units _ =>
    if units < Nat.pow 10 21 * Number.unity then
      let shown := min places Fixed.maxPlaces
      let (whole, fraction) := Fixed.parts (Layout.plain.chars x.abs)
      let digits := Fixed.rounded shown whole fraction
      let sign := if x.less 0 && digits.any (· ≠ '0') then ['-'] else []
      sign ++ Fixed.pointed shown digits
    else Layout.display.chars x
  | _ => Layout.display.chars x

/-- The text of a number with a fixed count of places, at most `Fixed.maxPlaces`. -/
def toFixed (x : Double) (places : Nat) : String := String.ofList (x.fixedChars places)

end Double

end LiveText
