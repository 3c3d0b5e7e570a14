/-!
# Character ranges

A class of characters is a list of code point ranges in ascending order, ends included.
-/

namespace LiveText.Text

/-- Code point ranges in ascending order, ends included. -/
abbrev Ranges := List (Nat × Nat)

/-- Whether a code point lies in one of the ranges. -/
def Ranges.contains : Ranges → Nat → Bool
  | [], _ => false
  | (low, high) :: rest, n => if n < low then false else n ≤ high || contains rest n

end LiveText.Text
