import LiveText.Formula.Error
import LiveText.Formula.Expr
import LiveText.Value.Members

/-!
# Operators on values

What the operators of formulas give, and what reading a property of a value gives.
-/

namespace LiveText

/-- The value of an operator in front of an operand. -/
def UnaryOp.apply (op : UnaryOp) (v : Value) : Value :=
  match op with
  | negate => .number (-v.toStrictNumber)
  | number => .number v.toStrictNumber
  | not => .bool !v.truthy

namespace Value

/-- Whether adding a value joins texts. -/
def isTextual : Value → Bool
  | string _ | array _ | object _ => true
  | _ => false

/-- The joined texts if either operand is textual, the sum of the numbers if not. -/
def plus (v w : Value) : Value :=
  if v.isTextual || w.isTextual then string (v.display ++ w.display)
  else number (v.toStrictNumber + w.toStrictNumber)

/-- The order of two texts by code points, or else of the numbers; `none` if one is no number. -/
def compare? (v w : Value) : Option Ordering :=
  match v, w with
  | string s, string t => some (compare s t)
  | _, _ => v.toStrictNumber.compare? w.toStrictNumber

/-- Equality that takes missing values for one another, and compares numbers where one side is a
truth value or a number meets a text. -/
def looselyEquals (v w : Value) : Bool :=
  if v.isNullish || w.isNullish then v.isNullish && w.isNullish
  else
    match v, w with
    | number _, string _ | string _, number _ | bool _, _ | _, bool _ =>
      v.toStrictNumber.equals w.toStrictNumber
    | _, _ => v.equals w

/-- The property of a value: the length or a place of a text or an array, or a member. -/
def property (v : Value) (name : String) : Except FormulaError Value :=
  match v with
  | undefined | null => .error (.invalidAccess name v.kind)
  | string s =>
    if name = "length" then .ok (number (Double.ofNat s.toList.length))
    else
      match (Digits.readIndex? name.toList).bind (s.toList[·]?) with
      | some c => .ok (string (String.singleton c))
      | none => .ok undefined
  | array items =>
    if name = "length" then .ok (number (Double.ofNat items.length))
    else .ok (((Digits.readIndex? name.toList).bind (items[·]?)).getD undefined)
  | object members => .ok ((Members.get? name members).getD undefined)
  | bool _ | number _ => .ok undefined

end Value

namespace BinaryOp

/-- The value of an operator between two operands. -/
def apply (op : BinaryOp) (v w : Value) : Value :=
  let numeric (f : Double → Double → Double) : Value :=
    .number (f v.toStrictNumber w.toStrictNumber)
  match op with
  | add => v.plus w
  | subtract => numeric (· - ·)
  | multiply => numeric (· * ·)
  | divide => numeric (· / ·)
  | remainder => numeric (· % ·)
  | equal => .bool (v.looselyEquals w)
  | notEqual => .bool !v.looselyEquals w
  | identical => .bool (v.equals w)
  | notIdentical => .bool !v.equals w
  | below => .bool (v.compare? w = some .lt)
  | atMost => .bool (v.compare? w = some .lt || v.compare? w = some .eq)
  | above => .bool (v.compare? w = some .gt)
  | atLeast => .bool (v.compare? w = some .gt || v.compare? w = some .eq)

end BinaryOp

/-- Whether the first operand is already the value. -/
def LogicalOp.settledBy (op : LogicalOp) (v : Value) : Bool :=
  match op with
  | and => !v.truthy
  | or => v.truthy
  | coalesce => !v.isNullish

end LiveText
