import LiveText.Number.Double

/-!
# Elementary functions

Exponentials, logarithms, powers and the trigonometric functions are taken from the machine. A
double crosses over as its 64-bit interchange pattern, in which the magnitude is the leading 53 bits
of the least units plus `2^52` for every bit shifted out.
-/

namespace LiveText.Double

open Number

/-- The interchange pattern of a magnitude. -/
def magnitudeBits (units : Nat) : Nat :=
  (units.log2 - 52) * Nat.pow 2 52 + units / grain units

/-- The magnitude with the given interchange pattern. -/
def magnitudeOfBits (bits : Nat) : Nat :=
  if bits < Nat.pow 2 53 then bits
  else
    let shifted := bits / Nat.pow 2 52 - 1
    (bits - shifted * Nat.pow 2 52) * Nat.pow 2 shifted

/-- The interchange pattern of a number. -/
def toBits : Double → UInt64
  | .nan => 0x7FF8000000000000
  | .infinity s => (if s then 0xFFF0000000000000 else 0x7FF0000000000000)
  | .finite s u _ => UInt64.ofNat ((if s then 0x8000000000000000 else 0) + magnitudeBits u)

/-- The number with the given interchange pattern. -/
def ofBits (bits : UInt64) : Double :=
  let negative := 0x8000000000000000 ≤ bits.toNat
  let rest := bits.toNat % 0x8000000000000000
  if rest < 0x7FF0000000000000 then ofUnits negative (magnitudeOfBits rest) 1
  else if rest = 0x7FF0000000000000 then .infinity negative
  else .nan

/-- The number as the machine holds it. -/
def toMachine (x : Double) : Float := Float.ofBits x.toBits

/-- The number that the machine holds. -/
def ofMachine (x : Float) : Double := ofBits x.toBits

/-- A machine function of one number. -/
private def viaMachine (f : Float → Float) (x : Double) : Double := ofMachine (f x.toMachine)

/-- The exponential. -/
def exp : Double → Double := viaMachine Float.exp
/-- The natural logarithm. -/
def log : Double → Double := viaMachine Float.log
/-- The logarithm to base two. -/
def log2 : Double → Double := viaMachine Float.log2
/-- The logarithm to base ten. -/
def log10 : Double → Double := viaMachine Float.log10
/-- The sine. -/
def sin : Double → Double := viaMachine Float.sin
/-- The cosine. -/
def cos : Double → Double := viaMachine Float.cos
/-- The tangent. -/
def tan : Double → Double := viaMachine Float.tan
/-- The inverse sine. -/
def asin : Double → Double := viaMachine Float.asin
/-- The inverse cosine. -/
def acos : Double → Double := viaMachine Float.acos
/-- The inverse tangent. -/
def atan : Double → Double := viaMachine Float.atan
/-- The cube root. -/
def cbrt : Double → Double := viaMachine Float.cbrt
/-- The angle of the point with the given height and width. -/
def atan2 (y x : Double) : Double := ofMachine (Float.atan2 y.toMachine x.toMachine)
/-- The power of a base and an exponent. -/
def pow (x y : Double) : Double := ofMachine (Float.pow x.toMachine y.toMachine)

end LiveText.Double
