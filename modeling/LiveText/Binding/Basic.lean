import LiveText.Binding.Reference
import LiveText.Number.Double

/-!
# Bindings

A binding is what one token of a template says: which state to read, and which operations to apply
to its value before it is shown in the token's place.
-/

namespace LiveText

/-- The arithmetic operations of one number with a given other. -/
inductive Arithmetic where
  | multiply
  | divide
  | add
  | subtract
  | remainder
deriving DecidableEq, Repr

namespace Arithmetic

/-- The sign that an arithmetic operation is written with. -/
def sign : Arithmetic → String
  | multiply => "*"
  | divide => "/"
  | add => "+"
  | subtract => "-"
  | remainder => "%"

/-- The arithmetic operation on numbers. -/
def apply : Arithmetic → Double → Double → Double
  | multiply, x, y => x * y
  | divide, x, y => x / y
  | add, x, y => x + y
  | subtract, x, y => x - y
  | remainder, x, y => x % y

end Arithmetic

/-- An operation on the value of a token. -/
inductive Operation where
  /-- Replaces the value by that of a formula over named states. -/
  | eval (args : List FormulaArg) (formula : Option String)
  | arithmetic (op : Arithmetic) (operand : Option Double)
  /-- Rounds to a number, or to text with fixed places. -/
  | round (places : Option Double)
  /-- Raises to a power, or squares. -/
  | pow (exponent : Option Double)
  | sqrt
  /-- Hexadecimal text, possibly in upper case and at least two characters long. -/
  | hex (upper padded : Bool)
  /-- Fixed places in groups of three, as the argument of `GroupedFormat` says. -/
  | value (format : String)
  /-- The item at the value's index. -/
  | array (items : List String)
  | date (pattern : String)
  | momentDate (pattern : String)
  /-- Raises the value to a bound. -/
  | min (bound : Option Double)
  /-- Lowers the value to a bound. -/
  | max (bound : Option Double)
  | random (scale : Option Double)
  | floor
  | ceil
  /-- What a path addresses in a JSON document. -/
  | json (path : String)
  | unknown (name : String)
deriving DecidableEq

namespace Operation

/-- The name that an operation is written with; for an unknown one, what is written. -/
def name : Operation → String
  | eval .. => "eval"
  | arithmetic op _ => op.sign
  | round _ => "round"
  | pow _ => "pow"
  | sqrt => "sqrt"
  | hex false false => "hex"
  | hex true false => "HEX"
  | hex false true => "hex2"
  | hex true true => "HEX2"
  | value _ => "value"
  | array _ => "array"
  | date _ => "date"
  | momentDate _ => "momentDate"
  | min _ => "min"
  | max _ => "max"
  | random _ => "random"
  | floor => "floor"
  | ceil => "ceil"
  | json _ => "json"
  | unknown name => name

end Operation

/-- What a token of a template says. -/
structure Binding where
  /-- The state to read, with its channel. -/
  state : String
  /-- The state to read, without its channel. -/
  system : String
  /-- The text that the value takes the place of, with its braces. -/
  token : String
  operations : List Operation
  /-- The template that the token stands in. -/
  template : String
  /-- Whether the state holds a time in seconds. -/
  isSeconds : Bool
deriving DecidableEq

end LiveText
