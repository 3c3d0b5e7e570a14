import LiveText.Binding.Basic
import LiveText.Json.Basic

/-!
# Bindings as JSON documents

Bindings are exchanged as documents. An operation is an object with its tag and, if it has one, its
argument; a number that JSON lacks is `null`, and `null` is read as no number. Members with other
names are ignored in reading.
-/

namespace LiveText

namespace FormulaArg

/-- The document of an argument. -/
def toJson (a : FormulaArg) : Json :=
  .object [("name", .string a.name), ("state_ref", .string a.state),
    ("system_ref", .string a.system)]

/-- The argument of a document. -/
def ofJson? (j : Json) : Option FormulaArg := do
  let name ← (← j.member? "name").string?
  let state ← (← j.member? "state_ref").string?
  let system ← (← j.member? "system_ref").string?
  return ⟨name, state, system⟩

end FormulaArg

namespace Operation

/-- The tag of an operation. -/
def tag : Operation → String
  | unknown _ => "unknown"
  | op => op.name

/-- The document of a number that may be missing. -/
def numberJson (x : Option Double) : Json := (x.map Json.ofDouble).getD .null

/-- The document of an operation's argument, if it has one. -/
def argJson? : Operation → Option Json
  | eval args formula =>
    some (.object [("args", .array (args.map FormulaArg.toJson)),
      ("formula", (formula.map Json.string).getD .null)])
  | arithmetic _ x | round x | pow x | min x | max x | random x => some (numberJson x)
  | value s | date s | momentDate s | json s | unknown s => some (.string s)
  | array items => some (.array (items.map Json.string))
  | sqrt | hex .. | floor | ceil => none

/-- The document of an operation. -/
def toJson (op : Operation) : Json :=
  .object (("op", .string op.tag) :: (op.argJson?.map fun arg => ("arg", arg)).toList)

/-- The number of a document, which may be missing. -/
def readNumber? : Option Json → Option (Option Double)
  | none | some .null => some none
  | some (.integer n) => some (some (Double.ofInt n))
  | some (.real x) => some (some x)
  | _ => none

/-- The text of a document that must be there. -/
def readText? (j : Option Json) : Option String := j.bind Json.string?

/-- The texts of a document that must be there. -/
def readTexts? : Option Json → Option (List String)
  | some (.array items) => items.mapM Json.string?
  | _ => none

/-- A text that may be missing. -/
def readOptionalText? : Option Json → Option (Option String)
  | none | some .null => some none
  | some j => j.string?.map some

/-- An operation with neither argument nor anything in its place. -/
def readNothing? (op : Operation) : Option Json → Option Operation
  | none | some .null => some op
  | _ => none

/-- The formula of a document. -/
def readEval? (j : Option Json) : Option Operation := do
  match (← j).member? "args" with
  | some (.array items) =>
    let args ← items.mapM FormulaArg.ofJson?
    let formula ← readOptionalText? ((← j).member? "formula")
    return .eval args formula
  | _ => none

/-- The operation with a tag and an argument. -/
def ofTag? (tag : String) (arg : Option Json) : Option Operation :=
  match tag with
  | "eval" => readEval? arg
  | "*" => (readNumber? arg).map (.arithmetic .multiply)
  | "/" => (readNumber? arg).map (.arithmetic .divide)
  | "+" => (readNumber? arg).map (.arithmetic .add)
  | "-" => (readNumber? arg).map (.arithmetic .subtract)
  | "%" => (readNumber? arg).map (.arithmetic .remainder)
  | "round" => (readNumber? arg).map .round
  | "pow" => (readNumber? arg).map .pow
  | "min" => (readNumber? arg).map .min
  | "max" => (readNumber? arg).map .max
  | "random" => (readNumber? arg).map .random
  | "value" => (readText? arg).map .value
  | "date" => (readText? arg).map .date
  | "momentDate" => (readText? arg).map .momentDate
  | "json" => (readText? arg).map .json
  | "unknown" => (readText? arg).map .unknown
  | "array" => (readTexts? arg).map .array
  | "sqrt" => readNothing? .sqrt arg
  | "hex" => readNothing? (.hex false false) arg
  | "HEX" => readNothing? (.hex true false) arg
  | "hex2" => readNothing? (.hex false true) arg
  | "HEX2" => readNothing? (.hex true true) arg
  | "floor" => readNothing? .floor arg
  | "ceil" => readNothing? .ceil arg
  | _ => none

/-- The operation of a document. -/
def ofJson? (j : Json) : Option Operation := do
  let tag ← (← j.member? "op").string?
  ofTag? tag (j.member? "arg")

end Operation

namespace Binding

/-- The document of a binding. -/
def toJson (b : Binding) : Json :=
  .object [("state_ref", .string b.state), ("system_ref", .string b.system),
    ("token", .string b.token), ("operations", .array (b.operations.map Operation.toJson)),
    ("format", .string b.template), ("is_seconds", .bool b.isSeconds)]

/-- The operations of a document; none if it is missing. -/
def readOperations? : Option Json → Option (List Operation)
  | none => some []
  | some (.array items) => items.mapM Operation.ofJson?
  | _ => none

/-- The truth value of a document; false if it is missing. -/
def readFlag? : Option Json → Option Bool
  | none => some false
  | some (.bool b) => some b
  | _ => none

/-- The binding of a document. -/
def ofJson? (j : Json) : Option Binding := do
  let state ← (← j.member? "state_ref").string?
  let system ← (← j.member? "system_ref").string?
  let token ← (← j.member? "token").string?
  let operations ← readOperations? (j.member? "operations")
  let template ← (← j.member? "format").string?
  let isSeconds ← readFlag? (j.member? "is_seconds")
  return { state, system, token, operations, template, isSeconds }

/-- The document of a list of bindings. -/
def listJson (bs : List Binding) : Json := .array (bs.map toJson)

/-- The list of bindings of a document. -/
def ofListJson? : Json → Option (List Binding)
  | .array items => items.mapM ofJson?
  | _ => none

end Binding

end LiveText
