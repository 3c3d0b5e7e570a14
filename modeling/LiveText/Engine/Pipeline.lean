import LiveText.Date.Display
import LiveText.Engine.Lookup
import LiveText.Formula.Evaluation
import LiveText.Value.Grouped

/-!
# Operations on values

The operations of a binding are applied to its value from left to right. None of them fails: what
cannot be done leaves the value as it is, or gives a value that says so, and leaves a notice. Only a
date can break off, of which a notice tells as well.
-/

namespace LiveText

/-- What filling in a template leaves besides its text. -/
structure Trail where
  notices : List Notice := []
  /-- The random draws taken. -/
  draws : Nat := 0
deriving DecidableEq

/-- A step that leaves a trail. -/
abbrev Traced (α : Type) := StateM Trail α

namespace Traced

/-- Leaves a notice. -/
def notice (n : Notice) : Traced Unit := modify fun t => { t with notices := t.notices ++ [n] }

end Traced

namespace Pipeline

open Text Traced

/-- Where the operations of a binding are applied. -/
structure Setting where
  engine : Engine
  states : States
  request : Request
  /-- Whether the binding's state holds a time in seconds. -/
  isSeconds : Bool

/-- The value of a reference. -/
def Setting.lookup (s : Setting) (state : String) : Value :=
  s.engine.lookup s.states s.request state

/-! ### Numbers -/

/-- The number of a count of places. -/
def placesOf (x : Double) : Nat :=
  match x with
  | .finite false units _ => min (units / Number.unity) Fixed.maxPlaces
  | _ => 0

/-- The greatest integer that hexadecimal text shows. -/
def maxHex : Nat := Nat.pow 2 128 - 1

/-- Hexadecimal text of a number, rounded half up; display text if it is not finite. -/
def hexChars (upperCase padded : Bool) (x : Double) : List Char :=
  let n := x.roundHalfUp
  let plain :=
    if n.isFinite then
      let digits := Digits.ofNat 16 (min n.toInt.natAbs maxHex)
      if n.toInt < 0 then '-' :: digits else digits
    else Layout.display.chars n
  let long := if padded ∧ plain.length < 2 then '0' :: plain else plain
  if upperCase then upper long else long

/-- The item at the index that a value is. -/
def itemAt (items : List String) (v : Value) : Value :=
  let i := v.toStrictNumber.toInt32
  if i < 0 then .undefined else ((items[i.toNat]?).map Value.string).getD .undefined

/-! ### Formulas -/

/-- A JSON text of an object or an array as that object or array. -/
def structured (v : Value) : Value :=
  match v with
  | .string s =>
    match trimStart s.toList with
    | '{' :: _ | '[' :: _ => (Value.ofJsonText s).getD v
    | _ => v
  | _ => v

/-- The beginning of a reference that is relative to the widget's object. -/
def widgetObject : List Char := "widgetOid.".toList

/-- The identifier of the widget's object, if it has one. -/
def objectId? (r : Request) : Option String :=
  match r.data?.bind (Members.get? "oid") with
  | some (.string oid) => some oid
  | _ => none

/-- The value of an argument's reference, which may be relative to the widget's object. -/
def argumentValue (s : Setting) (state : String) : Value :=
  match widgetObject.isPrefixOf? state.toList with
  | none => s.lookup state
  | some channel =>
    match objectId? s.request with
    | some oid => s.lookup (oid ++ "." ++ String.ofList channel)
    | none => .undefined

/-- The words by which a formula speaks of the widget. -/
def widgetMark : List Char := "widget.".toList

/-- The names that a formula sees. -/
def scopeOf (s : Setting) (args : List FormulaArg) (formula : String) : Members Value :=
  let named := Members.ofList (args.map fun a => (a.name, structured (argumentValue s a.state)))
  if occurs widgetMark formula.toList then named.insert "widget" s.request.snapshot else named

/-- A formula with its names as a script. -/
def scriptOf (scope : Members Value) (formula : String) : String :=
  String.join (scope.map fun (name, v) => "let " ++ name ++ " = " ++ v.jsonText ++ ";\n") ++
    "return " ++ formula ++ ";"

/-- The value of a formula. Objects and arrays become text; a failure is noticed and counts as
zero. -/
def eval (s : Setting) (args : List FormulaArg) (formula : String) (v : Value) : Traced Value := do
  let scope := scopeOf s args formula
  let surroundings : Surroundings :=
    { scope := scope, limits := s.engine.settings.limits, draw := s.engine.draw }
  let (result, draws) := Formula.evaluate surroundings (← get).draws formula
  modify ({ · with draws := draws })
  match result with
  | .ok (.array items) => return .string (Value.array items).jsonText
  | .ok (.object members) => return .string (Value.object members).jsonText
  | .ok w => return w
  | .error error =>
    notice (.formulaFailed v.display (scriptOf scope formula) error)
    return .number 0

/-! ### Dates -/

/-- The text of a date as a value. Where showing the date breaks off, this is noticed. -/
def dateText : Except OutOfRange (List Char) → Traced Value
  | .ok text => return .string (String.ofList text)
  | .error cause => do
    notice (.brokenOff cause)
    return .undefined

/-- The value as a date in a pattern. -/
def date (s : Setting) (pattern : String) (v : Value) : Traced Value :=
  dateText (DatePattern.shown s.engine.zone v pattern.toList s.isSeconds
    s.engine.settings.dateFormat.toList)

/-- The instant of a value: a number of milliseconds, or a text that spells one or is a date. -/
def instantOf? (zone : Zone) (v : Value) : Option Instant :=
  match v with
  | .number _ | .string _ =>
    match Moment.number? v with
    | some ms => Instant.ofMillisNumber? ms
    | none =>
      match v with
      | .string s => DateText.read zone s.toList
      | _ => none
  | _ => none

/-- The pattern with a literal text for its first run of two or more `d`. -/
def replaceWeekday (literal : List Char) : List Char → List Char
  | 'd' :: 'd' :: rest => literal ++ rest.dropWhile (· = 'd')
  | c :: rest => c :: replaceWeekday literal rest
  | [] => []

/-- The word for a date that lies so many days back. -/
def dayWord? (days : Int) : Option String :=
  if days = 0 then some "Today" else if days = 1 then some "Yesterday" else none

/-- The pattern with the word for a recent date in place of the weekday. -/
def withDayWord (e : Engine) (c : Calendar) (t : Instant) (pattern : List Char) :
    Except OutOfRange (List Char) := do
  match dayWord? (← c.daysBeforeToday t) with
  | some word => return replaceWeekday ('[' :: ((e.translate word).toList ++ [']'])) pattern
  | none => return pattern

/-- The text of an instant in a calendar; an empty pattern is replaced by that of the settings. -/
def calendarText (e : Engine) (c : Calendar) (t : Instant) (pattern : List Char) (relative : Bool) :
    Except OutOfRange (List Char) :=
  let pattern := trim pattern
  let pattern := if pattern.isEmpty then e.settings.dateFormat.toList else pattern
  (if relative then withDayWord e c t pattern else .ok pattern).map (c.chars t)

/-- A pattern, and whether recent dates are shown by words, in an argument; none if it has more than
two parts. -/
def readCalendarArgument (arg : List Char) : Option (List Char × Bool) :=
  match arg.splitOn ',' with
  | [] => some ([], false)
  | [pattern] => some (pattern, false)
  | [pattern, flag] => some (pattern, trim flag = "true".toList)
  | _ => none

/-- The value as a date of the calendar. -/
def momentDate (s : Setting) (arg : String) (v : Value) : Traced Value :=
  match readCalendarArgument arg.toList with
  | none => return .string "error"
  | some (pattern, relative) =>
    match s.request.calendar <|> s.engine.calendar with
    | none => do
      notice .calendarMissing
      return v
    | some calendar =>
      match instantOf? s.engine.zone v with
      | none => return .string "Invalid date"
      | some t => dateText (calendarText s.engine calendar t pattern relative)

/-! ### Documents -/

/-- What a path addresses in an object or an array; any other value is its own. -/
def follow (path : String) (v : Value) : Traced Value :=
  match v with
  | .array _ | .object _ =>
    match Path.resolve v path with
    | .ok found => return found.getD .undefined
    | .error error => do
      notice (.pathRefused error)
      return .undefined
  | _ => return v

/-- What a path addresses in a value or in the document that a text is. -/
def json (path : String) (v : Value) : Traced Value :=
  match v with
  | .string s =>
    match Value.ofJsonText s with
    | some document => follow path document
    | none => do
      notice .documentRefused
      return v
  | _ => follow path v

/-! ### All operations -/

/-- One operation. -/
def apply (s : Setting) (op : Operation) (v : Value) : Traced Value :=
  match op with
  | .eval _ none => return .undefined
  | .eval args (some formula) => eval s args formula v
  | .arithmetic _ none | .min none | .max none => return v
  | .arithmetic op (some x) => return .number (op.apply v.toNumber x)
  | .round none => return .number v.toNumber.roundHalfUp
  | .round (some places) => return .string (v.toNumber.toFixed (placesOf places))
  | .pow none => return .number (v.toNumber * v.toNumber)
  | .pow (some x) => return .number (v.toNumber.pow x)
  | .sqrt => return .number v.toNumber.sqrt
  | .hex upperCase padded =>
    return .string (String.ofList (hexChars upperCase padded v.toNumber))
  | .value format => return .string ((GroupedFormat.ofArgument format.toList).render v)
  | .array items => return itemAt items v
  | .date pattern => date s pattern v
  | .momentDate arg => momentDate s arg v
  | .min (some bound) => return .number (if v.toNumber.less bound then bound else v.toNumber)
  | .max (some bound) => return .number (if bound.less v.toNumber then bound else v.toNumber)
  | .random scale => do
    let n := (← get).draws
    modify ({ · with draws := n + 1 })
    return .number (s.engine.draw n * scale.getD 1)
  | .floor => return .number v.toNumber.floor
  | .ceil => return .number v.toNumber.ceil
  | .json path => json path v
  | .unknown name => do
    notice (.unknownOperator name)
    return v

/-- The operations from left to right. -/
def run (s : Setting) (ops : List Operation) (v : Value) : Traced Value :=
  ops.foldlM (fun v op => apply s op v) v

end Pipeline

end LiveText
