import LiveText.Number.Rounding

/-!
# Double-precision numbers

A double is not a number, a signed infinity, or a sign with a representable magnitude, counted in
least units. Arithmetic is exact integer arithmetic followed by one rounding, so that a law about
these operations is a law about integers. Comparison is numeric: zeros of either sign are equal, and
`nan` compares with nothing.
-/

namespace LiveText

open Number

/-- A double-precision number. -/
inductive Double where
  | nan
  | infinity (negative : Bool)
  /-- The number `units · 2^-1074`, negated if `negative`. -/
  | finite (negative : Bool) (units : Nat) (representable : Representable units)
deriving DecidableEq

namespace Double

/-- Zero of the given sign. -/
def zero (negative : Bool) : Double := .finite negative 0 (by decide +kernel)

instance : Inhabited Double := ⟨zero false⟩

/-- The double nearest to `num / den` least units; what reaches `limit` is infinite. -/
def ofUnits (negative : Bool) (num den : Nat) : Double :=
  if h : nearest num den < limit then
    .finite negative (nearest num den) ⟨h, grain_dvd_nearest num den⟩
  else
    .infinity negative

/-- A representable magnitude is taken as it is. -/
theorem ofUnits_of_representable (negative : Bool) {units : Nat} (h : Representable units) :
    ofUnits negative units 1 = .finite negative units h := by
  have hn : nearest units 1 = units := nearest_of_dvd h.2
  simp [ofUnits, hn, h.1]

/-- The double nearest to a natural number. -/
def ofNat (n : Nat) : Double := ofUnits false (n * unity) 1

/-- The double nearest to an integer. -/
def ofInt (n : Int) : Double := ofUnits (n < 0) (n.natAbs * unity) 1

instance (n : Nat) : OfNat Double n := ⟨ofNat n⟩

/-- The double nearest to `digits · 10^exponent`. Scales that no digits can bring back into range
are answered without computing the power. -/
def ofDecimal (negative : Bool) (digits : Nat) (exponent : Int) : Double :=
  if digits = 0 then zero negative
  else if 400 < exponent then .infinity negative
  else if exponent < -(400 + digits.log2) then zero negative
  else if 0 ≤ exponent then ofUnits negative (digits * Nat.pow 10 exponent.toNat * unity) 1
  else ofUnits negative (digits * unity) (Nat.pow 10 (-exponent).toNat)

/-- Whether the number is neither infinite nor `nan`. -/
def isFinite : Double → Bool
  | .finite .. => true
  | _ => false

/-- A finite number has a sign and a magnitude. -/
theorem exists_finite_eq {x : Double} (h : x.isFinite = true) :
    ∃ negative units hunits, x = .finite negative units hunits := by
  cases x with
  | finite negative units hunits => exact ⟨negative, units, hunits, rfl⟩
  | nan => cases h
  | infinity negative => cases h

/-- Whether the number is `nan`. -/
def isNaN : Double → Bool
  | .nan => true
  | _ => false

/-- Whether the number is a zero of either sign. -/
def isZero : Double → Bool
  | .finite _ units _ => units == 0
  | _ => false

/-- The least units of a number with its sign; zero if it is not finite. -/
def units : Double → Int
  | .finite false u _ => u
  | .finite true u _ => -u
  | _ => 0

/-- Whether the number is finite and has no fraction. -/
def isIntegral : Double → Bool
  | .finite _ u _ => u % unity == 0
  | _ => false

/-- Numeric order; `none` if either number is `nan`. -/
def compare? : Double → Double → Option Ordering
  | .nan, _ => none
  | _, .nan => none
  | .infinity a, .infinity b => some (if a = b then .eq else if a then .lt else .gt)
  | .infinity a, .finite .. => some (if a then .lt else .gt)
  | .finite .., .infinity b => some (if b then .gt else .lt)
  | x@(.finite ..), y@(.finite ..) => some (compare x.units y.units)

/-- Numeric equality: zeros are equal, `nan` equals nothing. -/
def equals (x y : Double) : Bool := compare? x y == some .eq

/-- Whether `x` is numerically below `y`. -/
def less (x y : Double) : Bool := compare? x y == some .lt

/-- The negated number. -/
def neg : Double → Double
  | .nan => .nan
  | .infinity s => .infinity !s
  | .finite s u h => .finite (!s) u h

/-- The number without its sign. -/
def abs : Double → Double
  | .nan => .nan
  | .infinity _ => .infinity false
  | .finite _ u h => .finite false u h

/-- The nearest double to the sum. An exact zero is negative only as a sum of negative zeros. -/
def add : Double → Double → Double
  | .nan, _ => .nan
  | _, .nan => .nan
  | .infinity a, .infinity b => if a = b then .infinity a else .nan
  | .infinity a, .finite .. => .infinity a
  | .finite .., .infinity b => .infinity b
  | x@(.finite a u _), y@(.finite b v _) =>
    let sum := x.units + y.units
    if sum = 0 then zero (a && b && u == 0 && v == 0)
    else ofUnits (sum < 0) sum.natAbs 1

/-- The nearest double to the difference. -/
def sub (x y : Double) : Double := x.add y.neg

/-- The nearest double to the product. -/
def mul : Double → Double → Double
  | .nan, _ => .nan
  | _, .nan => .nan
  | .infinity a, .infinity b => .infinity (a != b)
  | .infinity a, .finite b v _ => if v = 0 then .nan else .infinity (a != b)
  | .finite a u _, .infinity b => if u = 0 then .nan else .infinity (a != b)
  | .finite a u _, .finite b v _ => ofUnits (a != b) (u * v) unity

/-- The nearest double to the quotient. -/
def div : Double → Double → Double
  | .nan, _ => .nan
  | _, .nan => .nan
  | .infinity _, .infinity _ => .nan
  | .infinity a, .finite b _ _ => .infinity (a != b)
  | .finite a _ _, .infinity b => zero (a != b)
  | .finite a u _, .finite b v _ =>
    if v = 0 then if u = 0 then .nan else .infinity (a != b)
    else ofUnits (a != b) (u * unity) v

/-- The remainder of the truncated quotient; it is exact and has the sign of the dividend. -/
def rem : Double → Double → Double
  | .nan, _ => .nan
  | _, .nan => .nan
  | .infinity _, _ => .nan
  | x@(.finite ..), .infinity _ => x
  | .finite a u _, .finite _ v _ => if v = 0 then .nan else ofUnits a (u % v) 1

instance : Neg Double := ⟨neg⟩
instance : Add Double := ⟨add⟩
instance : Sub Double := ⟨sub⟩
instance : Mul Double := ⟨mul⟩
instance : Div Double := ⟨div⟩
instance : Mod Double := ⟨rem⟩

/-- The nearest double to the square root. -/
def sqrt : Double → Double
  | .nan => .nan
  | .infinity s => if s then .nan else .infinity false
  | .finite s u h =>
    if u = 0 then .finite s u h
    else if s then .nan
    else
      let n := u * unity
      let r := n.sqrt
      ofUnits false (2 * r + if r * r = n then 0 else 1) 2

/-- The integral double towards zero. -/
def trunc : Double → Double
  | .finite s u _ => ofUnits s (u / unity * unity) 1
  | x => x

/-- The integral double below or at the number. -/
def floor : Double → Double
  | .finite s u _ =>
    ofUnits s ((if s ∧ u % unity ≠ 0 then u / unity + 1 else u / unity) * unity) 1
  | x => x

/-- The integral double above or at the number. -/
def ceil : Double → Double
  | .finite s u _ =>
    ofUnits s ((if !s ∧ u % unity ≠ 0 then u / unity + 1 else u / unity) * unity) 1
  | x => x

/-- The number less its integral part. -/
def fract (x : Double) : Double := x - x.trunc

/-- One half. -/
def half : Double := ofUnits false unity 2

/-- Rounds half up, so that `-2.5` becomes `-2`. The difference from the floor is exact, so a
number just below a half stays below it. -/
def roundHalfUp (x : Double) : Double :=
  match compare? (x - x.floor) half with
  | some .eq | some .gt => x.floor + 1
  | some .lt | none => x.floor

/-- The integral part towards zero; zero if the number is not finite. -/
def toInt (x : Double) : Int :=
  match x with
  | .finite s u _ => if s then -((u / unity : Nat) : Int) else (u / unity : Nat)
  | _ => 0

/-- The integral part clamped to 64 bits, of which the low 32 are read as a signed number. -/
def toInt32 (x : Double) : Int :=
  Int.bmod (max (-0x8000000000000000) (min 0x7FFFFFFFFFFFFFFF x.toInt)) 0x100000000

end Double

end LiveText
