import LiveText.Number.Double

/-!
# Shortest decimals

The decimal that a number is written with has the fewest digits among those that lie in the interval
of reals rounding to the number, and is nearest to it among these. The search goes through the grids
of powers of ten from coarse to fine and looks at the two neighbours of the number on each; where no
grid within reach has a hit, the exact expansion of the number is taken, so that every answer lies
in the interval.
-/

namespace LiveText

open Number

/-- The number `digits · 10^exponent`. -/
structure Decimal where
  digits : Nat
  exponent : Int
deriving DecidableEq, Repr

namespace Decimal

/-- The neighbour to take on the grid when the number lies halfway between two. -/
inductive Tie where
  | up
  | even
deriving DecidableEq, Repr

/-- The decimal without the zeros at the end of its digits. -/
def normalize (d : Decimal) : Decimal :=
  if h : d.digits % 10 = 0 ∧ d.digits ≠ 0 then
    normalize ⟨d.digits / 10, d.exponent + 1⟩
  else d
termination_by d.digits
decreasing_by exact Nat.div_lt_self (Nat.pos_of_ne_zero h.2) (by decide)

/-- The ends of the interval of reals that round to a magnitude, in quarters of a least unit. Below
a power of two the grid is twice as fine. -/
def interval (units : Nat) : Nat × Nat :=
  let g := grain units
  (4 * units - (if units = Nat.pow 2 units.log2 ∧ 1 < g then g else 2 * g), 4 * units + 2 * g)

/-- Whether the ends of its interval still round to a magnitude: they do if it is even. -/
def closed (units : Nat) : Bool := units / grain units % 2 == 0

/-- Whether a decimal lies in the interval of reals that round to a magnitude. -/
def readsAs (d : Decimal) (units : Nat) : Bool :=
  let point := 4 * d.digits * Nat.pow 10 d.exponent.toNat * unity
  let scale := Nat.pow 10 (-d.exponent).toNat
  let (low, high) := interval units
  if closed units then low * scale ≤ point && point ≤ high * scale
  else low * scale < point && point < high * scale

/-- The neighbour of a magnitude on the grid `10^exponent` that reads back as it, if there is one;
the nearer of two, with `tie` between equals. -/
def onGrid (tie : Tie) (units : Nat) (exponent : Int) : Option Decimal :=
  let num := units * Nat.pow 10 (-exponent).toNat
  let den := unity * Nat.pow 10 exponent.toNat
  let below : Decimal := ⟨num / den, exponent⟩
  let above : Decimal := ⟨num / den + 1, exponent⟩
  let twice := 2 * (num % den)
  match below.readsAs units, above.readsAs units with
  | false, false => none
  | true, false => some below
  | false, true => some above
  | true, true =>
    if twice < den then some below
    else if den < twice then some above
    else match tie with
      | .up => some above
      | .even => some (if num / den % 2 = 0 then below else above)

/-- The first hit among the grids `10^exponent`, `10^(exponent - 1)`, …; the exact expansion if none
of them has one. -/
def search (tie : Tie) (units : Nat) : Nat → Int → Decimal
  | 0, _ => ⟨units * Nat.pow 5 1074, -1074⟩
  | reach + 1, exponent =>
    match onGrid tie units exponent with
    | some d => d
    | none => search tie units reach (exponent - 1)

/-- An exponent at or above that of the leading digit: `0.30103` bounds the logarithm of two. -/
def leading (units : Nat) : Int := ((units.log2 : Int) - 1073) * 30103 / 100000 + 1

/-- The shortest decimal that reads back as a magnitude, zero for zero. -/
def shortest (tie : Tie) (units : Nat) : Decimal :=
  if units = 0 then ⟨0, 0⟩ else (search tie units 21 (leading units)).normalize

end Decimal

end LiveText
