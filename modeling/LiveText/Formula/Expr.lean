import LiveText.Formula.Token
import LiveText.Value.Basic

/-!
# Expressions

The trees that formulas are read as.
-/

namespace LiveText

/-- An operator in front of one operand. -/
inductive UnaryOp where
  | negate
  | number
  | not
deriving DecidableEq, Repr

/-- An operator that takes the values of both operands. -/
inductive BinaryOp where
  | add | subtract | multiply | divide | remainder
  | equal | notEqual | identical | notIdentical
  | below | atMost | above | atLeast
deriving DecidableEq, Repr

/-- An operator that may not need its second operand. -/
inductive LogicalOp where
  | and
  | or
  /-- The first operand unless it is missing or `null`. -/
  | coalesce
deriving DecidableEq, Repr

/-- An expression. -/
inductive Expr where
  | literal (value : Value)
  | name (name : String)
  | list (items : List Expr)
  | unary (op : UnaryOp) (operand : Expr)
  | binary (op : BinaryOp) (left right : Expr)
  | logical (op : LogicalOp) (left right : Expr)
  | conditional (test yes no : Expr)
  | member (object : Expr) (property : String)
  | index (object key : Expr)
  | call (callee : Expr) (args : List Expr)

instance : Inhabited Expr := ⟨.literal .undefined⟩

/-- An operator between two operands. -/
inductive Connective where
  | binary (op : BinaryOp)
  | logical (op : LogicalOp)
deriving DecidableEq, Repr

/-- The expression of a connective and its operands. -/
def Connective.join (c : Connective) (left right : Expr) : Expr :=
  match c with
  | binary op => .binary op left right
  | logical op => .logical op left right

namespace Punct

/-- The operator that a punctuation is in front of an operand. -/
def unary? : Punct → Option UnaryOp
  | minus => some .negate
  | plus => some .number
  | bang => some .not
  | _ => none

/-- The connective that a punctuation is between operands, and how tightly it binds, from 1 to 6. -/
def connective? : Punct → Option (Nat × Connective)
  | or => some (1, .logical .or)
  | coalesce => some (1, .logical .coalesce)
  | and => some (2, .logical .and)
  | equal => some (3, .binary .equal)
  | notEqual => some (3, .binary .notEqual)
  | identical => some (3, .binary .identical)
  | notIdentical => some (3, .binary .notIdentical)
  | below => some (4, .binary .below)
  | atMost => some (4, .binary .atMost)
  | above => some (4, .binary .above)
  | atLeast => some (4, .binary .atLeast)
  | plus => some (5, .binary .add)
  | minus => some (5, .binary .subtract)
  | times => some (6, .binary .multiply)
  | slash => some (6, .binary .divide)
  | percent => some (6, .binary .remainder)
  | _ => none

end Punct

/-- The expression of a name: some names are literals. -/
def Expr.ofName (name : String) : Expr :=
  match name with
  | "true" => .literal (.bool true)
  | "false" => .literal (.bool false)
  | "null" => .literal .null
  | "undefined" => .literal .undefined
  | "NaN" => .literal (.number .nan)
  | "Infinity" => .literal (.number (.infinity false))
  | _ => .name name

end LiveText
