import LiveText.Number.Layout
import LiveText.Text.Blank

/-!
# Numbers in any radix

Integers are read from the front of a text in a radix from 2 to 36. Numbers are written in one with
as many fraction digits as are needed, up to a limit; the decimal radix has the display text.
-/

namespace LiveText.Radix

open Text

/-- The most fraction digits that are computed. -/
def maxFraction : Nat := 52

/-- Whether a radix can be read and written. -/
def inRange (radix : Int) : Bool := 2 ≤ radix && radix ≤ 36

/-- The sign in front of a text, and the text after it. -/
def splitSign : List Char → Bool × List Char
  | '-' :: rest => (true, rest)
  | '+' :: rest => (false, rest)
  | cs => (false, cs)

/-- The text without the mark of hexadecimal digits, if it has one. -/
def afterHexMark? : List Char → Option (List Char)
  | '0' :: 'x' :: rest | '0' :: 'X' :: rest => some rest
  | _ => none

/-- The radix to read unsigned digits in, and the digits. Radix zero is hexadecimal after its mark
and decimal otherwise. -/
def resolve (radix : Int) (cs : List Char) : Int × List Char :=
  match if radix = 0 ∨ radix = 16 then afterHexMark? cs else none with
  | some rest => (16, rest)
  | none => (if radix = 0 then 10 else radix, cs)

/-- The values of the digits in front of a text. -/
def digitsInFront (radix : Nat) (cs : List Char) : List Nat :=
  (cs.takeWhile fun c => (Digits.inBase? radix c).isSome).filterMap (Digits.inBase? radix)

/-- The integer in front of a text, after blanks; `nan` if there is none or the radix is out of
range. -/
def readInt (cs : List Char) (radix : Int) : Double :=
  let (negative, unsigned) := splitSign (trimStart cs)
  let (radix, unsigned) := resolve radix unsigned
  if inRange radix then
    match digitsInFront radix.toNat unsigned with
    | [] => .nan
    | digits =>
      let n := digits.foldl (fun acc d => acc * Double.ofNat radix.toNat + Double.ofNat d) 0
      if negative then -n else n
  else .nan

/-- The digits of a fraction below one, at most `count` of them. -/
def fractionDigits (radix : Nat) : Nat → Double → List Char
  | 0, _ => []
  | count + 1, x =>
    let scaled := x * Double.ofNat radix
    let rest := scaled - scaled.trunc
    Digits.char scaled.toInt.toNat :: if rest.isZero then [] else fractionDigits radix count rest

/-- The text without zeros at its end. -/
def dropZeros (cs : List Char) : List Char := (cs.reverse.dropWhile (· = '0')).reverse

/-- The text of a number in a radix from 2 to 36. What is not finite, or is at least `1e21` in
magnitude, has its display text. -/
def chars (x : Double) (radix : Nat) : List Char :=
  match x with
  | .finite negative units _ =>
    if radix = 10 ∨ Nat.pow 10 21 * Number.unity ≤ units then Layout.display.chars x
    else
      let whole := Digits.ofNat radix (units / Number.unity)
      let unsigned :=
        match dropZeros (fractionDigits radix maxFraction x.abs.fract) with
        | [] => whole
        | fraction => whole ++ '.' :: fraction
      if negative ∧ units ≠ 0 then '-' :: unsigned else unsigned
  | _ => Layout.display.chars x

end LiveText.Radix
