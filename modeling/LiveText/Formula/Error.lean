import LiveText.Formula.Token

/-!
# What can go wrong with a formula

The causes of failure in reading and in evaluating a formula, and the text of each.
-/

namespace LiveText

/-- What a formula would have to go on with. -/
inductive Expectation where
  | value
  | propertyName
  | punct (p : Punct)
  /-- A further item, or the end of a list that ends in `p`. -/
  | commaOr (p : Punct)
  | theEnd
deriving DecidableEq, Repr

namespace Expectation

/-- How a message speaks of what is expected. -/
def describe : Expectation → String
  | value => "a value"
  | propertyName => "property name"
  | punct p => String.ofList p.spelling
  | commaOr p => "',' or '" ++ String.ofList p.spelling ++ "'"
  | theEnd => "end of formula"

end Expectation

/-- The cause of a formula's failure. -/
inductive FormulaError where
  | unexpectedChar (c : Char) (position : Nat)
  | unterminatedString (position : Nat)
  | unexpectedToken (found : Token) (expected : Expectation) (position : Nat)
  | unexpectedEnd
  | tooDeep (limit : Nat)
  | unknownIdentifier (name : String)
  | notCallable (name : String)
  | invalidAccess (property target : String)
  | stepBudget (limit : Nat)
  | radixOutOfRange (radix : Int)
  | lengthExceeded (helper : String) (length limit : Nat)
  | notJson
deriving DecidableEq

namespace FormulaError

private def decimal (n : Nat) : String := String.ofList (Digits.ofNat 10 n)

/-- The text of a failure. -/
def message : FormulaError → String
  | unexpectedChar c position =>
    "unexpected character '" ++ String.singleton c ++ "' at position " ++ decimal position
  | unterminatedString position => "unterminated string starting at position " ++ decimal position
  | unexpectedToken found expected position =>
    "unexpected " ++ found.describe ++ " at position " ++ decimal position ++ ", expected " ++
      expected.describe
  | unexpectedEnd => "unexpected end of formula"
  | tooDeep limit => "formula nesting exceeds " ++ decimal limit ++ " levels"
  | unknownIdentifier name => "'" ++ name ++ "' is not defined"
  | notCallable name => "'" ++ name ++ "' is not a function"
  | invalidAccess property target => "cannot read property '" ++ property ++ "' of " ++ target
  | stepBudget limit => "formula exceeded the step budget of " ++ decimal limit
  | radixOutOfRange radix =>
    "toString: radix " ++ (if radix < 0 then "-" else "") ++ decimal radix.natAbs ++
      " out of range 2..36"
  | lengthExceeded helper length limit =>
    helper ++ ": length " ++ decimal length ++ " exceeds " ++ decimal limit
  | notJson => "JSON.parse: not a JSON document"

end FormulaError

end LiveText
