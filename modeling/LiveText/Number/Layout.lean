import LiveText.Number.Decimal
import LiveText.Number.Digits

/-!
# Numbers as text

A number is written with its shortest decimal. What is left to decide is where positional writing
ends, whether an integral number shows `.0`, whether a zero shows its sign, and which of two equally
near decimals is taken: a `Layout` holds these decisions. Display text, JSON text and plain digits
are three layouts.
-/

namespace LiveText

/-- The decisions on the text of a finite number. -/
structure Layout where
  /-- The least exponent of the leading digit that is written positionally. -/
  plainFrom : Int
  /-- The greatest exponent of the leading digit that is written positionally. -/
  plainTo : Int
  /-- Whether a positional number without fraction ends in `.0`. -/
  pointZero : Bool
  /-- Whether the sign of a zero is written. -/
  signedZero : Bool
  /-- The decimal taken when two are equally near. -/
  tie : Decimal.Tie
deriving DecidableEq, Repr

namespace Layout

/-- Display text: positional from `1e-6` up to, not including, `1e21`; ties go up. -/
def display : Layout where
  plainFrom := -6
  plainTo := 20
  pointZero := false
  signedZero := false
  tie := .up

/-- JSON text of a number with a fraction: positional from `1e-5` up to, not including, `1e16`, and
never without a point or an exponent; ties go to the even digit. -/
def json : Layout where
  plainFrom := -5
  plainTo := 15
  pointZero := true
  signedZero := true
  tie := .even

/-- Plain digits: every double is written positionally; ties go up. -/
def plain : Layout where
  plainFrom := -400
  plainTo := 400
  pointZero := false
  signedZero := false
  tie := .up

/-- Digits with the point after the first `point` of them; zeros fill the gap on either side. -/
def positional (pointZero : Bool) (digits : List Char) (point : Int) : List Char :=
  if point ≤ 0 then '0' :: '.' :: (List.replicate (-point).toNat '0' ++ digits)
  else if digits.length ≤ point.toNat then
    digits ++ List.replicate (point.toNat - digits.length) '0' ++
      (if pointZero then ['.', '0'] else [])
  else digits.take point.toNat ++ '.' :: digits.drop point.toNat

/-- Digits with the point after the first and the power of ten that puts it there. -/
def scientific (digits : List Char) (exponent : Int) : List Char :=
  let mantissa := match digits with
    | [] => ['0']
    | [d] => [d]
    | d :: rest => d :: '.' :: rest
  mantissa ++ 'e' :: (if exponent < 0 then '-' else '+') :: Digits.ofNat 10 exponent.natAbs

/-- The text of a decimal. -/
def decimalText (l : Layout) (d : Decimal) : List Char :=
  let digits := Digits.ofNat 10 d.digits
  let exponent := d.exponent + digits.length - 1
  if l.plainFrom ≤ exponent ∧ exponent ≤ l.plainTo then
    positional l.pointZero digits (exponent + 1)
  else scientific digits exponent

/-- The text of a number. -/
def chars (l : Layout) : Double → List Char
  | .nan => "NaN".toList
  | .infinity negative => (if negative then "-Infinity" else "Infinity").toList
  | .finite negative units _ =>
    let unsigned := l.decimalText (Decimal.shortest l.tie units)
    if negative ∧ (l.signedZero ∨ units ≠ 0) then '-' :: unsigned else unsigned

end Layout

namespace Double

/-- The display text of a number. -/
def display (x : Double) : String := String.ofList (Layout.display.chars x)

end Double

end LiveText
