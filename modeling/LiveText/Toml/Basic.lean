import LiveText.Number.Double

/-!
# TOML documents

What a TOML document holds: scalars, arrays, and tables of keyed entries in the order of writing.
-/

namespace LiveText

/-- A TOML value. -/
inductive Toml where
  | string (s : String)
  | integer (n : Int)
  | float (x : Double)
  | boolean (b : Bool)
  /-- A date, a time or both, as it is written. -/
  | dateTime (text : String)
  | array (items : List Toml)
  | table (entries : List (String × Toml))
deriving Inhabited

namespace Toml

/-- The greatest integer of a document, which has 64 bits. -/
def maxInteger : Int := 0x7FFFFFFFFFFFFFFF

/-- The least integer of a document. -/
def minInteger : Int := -0x8000000000000000

/-- The depth that arrays and inline tables stay below, and the number that the parts of a key stay
below. -/
def nestingLimit : Nat := 80

end Toml

end LiveText
