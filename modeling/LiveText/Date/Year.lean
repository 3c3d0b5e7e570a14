import LiveText.Number.Digits

/-!
# Years as text

A year has at least four places, of which the minus sign of a year before year zero takes one; in
two places it is counted within its century.
-/

namespace LiveText.Year

/-- A year in at least four places. -/
def long (year : Int) : List Char :=
  if year < 0 then '-' :: Digits.padded 3 year.natAbs else Digits.padded 4 year.natAbs

/-- A year within its century. -/
def short (year : Int) : List Char := Digits.padded 2 (year % 100).toNat

end LiveText.Year
