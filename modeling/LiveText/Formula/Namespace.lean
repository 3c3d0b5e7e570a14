import LiveText.Formula.Budget
import LiveText.Formula.Radix
import LiveText.Number.Elementary

/-!
# Named functions

The functions that formulas call by name: those of the namespaces `Math` and `JSON`, and the global
ones that read numbers and texts. A missing argument is `undefined`.
-/

namespace LiveText

/-- A group of functions under one name. -/
inductive Namespace where
  | math
  | json
deriving DecidableEq, Repr

namespace Namespace

/-- The namespace of a name. -/
def ofName? : String → Option Namespace
  | "Math" => some .math
  | "JSON" => some .json
  | _ => none

/-- The constants of a namespace. -/
def constant? : Namespace → String → Option Double
  | math, "PI" => some (Double.ofDecimal false 3141592653589793 (-15))
  | math, "E" => some (Double.ofDecimal false 2718281828459045 (-15))
  | math, "LN2" => some (Double.ofDecimal false 6931471805599453 (-16))
  | math, "LN10" => some (Double.ofDecimal false 2302585092994046 (-15))
  | math, "SQRT2" => some (Double.ofDecimal false 14142135623730951 (-16))
  | _, _ => none

/-- The strict number of an argument; `nan` if it is missing. -/
def numberAt (args : List Value) (i : Nat) : Double :=
  (args[i]?.map Value.toStrictNumber).getD .nan

/-- The first argument. -/
def firstOf (args : List Value) : Value := args.head?.getD .undefined

/-- The sign of a number as a number; a zero or `nan` is its own. -/
def signOf (x : Double) : Double :=
  if x.isNaN || x.isZero then x else if x.less 0 then -1 else 1

/-- The square root of the sum of squares. The sum of nothing is a negative zero. -/
def hypot (xs : List Double) : Double :=
  (xs.foldl (fun acc x => acc + x * x) (Double.zero true)).sqrt

/-- The least number; `nan` if one of them is, and infinity if there is none. -/
def least (xs : List Double) : Double :=
  xs.foldl (fun acc x => if acc.isNaN || x.isNaN then .nan else if x.less acc then x else acc)
    (.infinity false)

/-- The greatest number; `nan` if one of them is, and negative infinity if there is none. -/
def greatest (xs : List Double) : Double :=
  xs.foldl (fun acc x => if acc.isNaN || x.isNaN then .nan else if acc.less x then x else acc)
    (.infinity true)

/-- The mathematical functions that take no random draw. -/
def math? (name : String) (args : List Value) : Option Double :=
  let x := numberAt args 0
  match name with
  | "abs" => some x.abs
  | "ceil" => some x.ceil
  | "floor" => some x.floor
  | "round" => some x.roundHalfUp
  | "trunc" => some x.trunc
  | "sign" => some (signOf x)
  | "sqrt" => some x.sqrt
  | "cbrt" => some x.cbrt
  | "exp" => some x.exp
  | "log" => some x.log
  | "log2" => some x.log2
  | "log10" => some x.log10
  | "sin" => some x.sin
  | "cos" => some x.cos
  | "tan" => some x.tan
  | "asin" => some x.asin
  | "acos" => some x.acos
  | "atan" => some x.atan
  | "atan2" => some (x.atan2 (numberAt args 1))
  | "pow" => some (x.pow (numberAt args 1))
  | "hypot" => some (hypot (args.map Value.toStrictNumber))
  | "min" => some (least (args.map Value.toStrictNumber))
  | "max" => some (greatest (args.map Value.toStrictNumber))
  | _ => none

/-- A call of a function on JSON documents. -/
def callJson (name : String) (args : List Value) : Except FormulaError Value :=
  match name with
  | "stringify" =>
    match firstOf args with
    | .undefined => .ok .undefined
    | v => .ok (.string v.jsonText)
  | "parse" =>
    match Value.ofJsonText (firstOf args).display with
    | some v => .ok v
    | none => .error .notJson
  | _ => .error (.notCallable ("JSON." ++ name))

/-- A call of a function of a namespace. -/
def call (s : Surroundings) (ns : Namespace) (name : String) (args : List Value) : Budgeted Value :=
  match ns with
  | math =>
    if name = "random" then do return .number (← Budgeted.draw s)
    else
      match math? name args with
      | some x => return .number x
      | none => throw (.notCallable ("Math." ++ name))
  | json => ExceptT.mk (pure (callJson name args))

/-- A call of a global function. -/
def callGlobal (name : String) (args : List Value) : Except FormulaError Value :=
  let v := firstOf args
  match name with
  | "parseFloat" => .ok (.number (Numeral.readPrefix v.displayChars))
  | "parseInt" =>
    let radix := (args[1]?.map fun r => r.toStrictNumber.toInt32).getD 0
    .ok (.number (Radix.readInt v.displayChars radix))
  | "Number" => .ok (.number (if args.isEmpty then 0 else v.toStrictNumber))
  | "String" => .ok (.string (if args.isEmpty then "" else v.display))
  | "Boolean" => .ok (.bool v.truthy)
  | "isNaN" => .ok (.bool v.toStrictNumber.isNaN)
  | "isFinite" => .ok (.bool v.toStrictNumber.isFinite)
  | _ => .error (.unknownIdentifier name)

end Namespace

end LiveText
