import LiveText.Formula.Budget
import LiveText.Formula.Radix
import LiveText.Number.Fixed
import LiveText.Text.Case
import LiveText.Text.Search

/-!
# Methods of values

The functions that formulas call on a number, a text or an array. Positions and lengths count
characters. Long texts and arrays cost steps.
-/

namespace LiveText.Method

open Text Budgeted

/-- The longest text that padding may build. -/
def maxPadded : Nat := 65536

/-- The strict number of an argument, if it is given. -/
def number? (args : List Value) (i : Nat) : Option Double := args[i]?.map Value.toStrictNumber

/-- The characters of an argument; none if it is missing. -/
def textAt (args : List Value) (i : Nat) : List Char :=
  (args[i]?.map Value.displayChars).getD []

/-- A place in `length` places: a negative one counts from the end, and all are kept inside. -/
def place (length : Nat) (x : Double) : Nat :=
  if x.toInt32 < 0 then ((length : Int) + x.toInt32).toNat else min x.toInt32.toNat length

/-- The ends of a slice of `length` places. -/
def sliceEnds (length : Nat) (start stop : Option Double) : Nat × Nat :=
  ((start.map (place length)).getD 0, (stop.map (place length)).getD length)

/-- What lies between two places; nothing if the second is not after the first. -/
def between {α : Type} (start stop : Nat) (xs : List α) : List α :=
  (xs.drop start).take (stop - start)

/-- A slice by places that may count from the end. -/
def slice {α : Type} (args : List Value) (xs : List α) : List α :=
  let (start, stop) := sliceEnds xs.length (number? args 0) (number? args 1)
  between start stop xs

/-- A slice by places in either order, none of which counts from the end. -/
def substring (args : List Value) (cs : List Char) : List Char :=
  let inside (x : Double) : Nat := min x.toInt32.toNat cs.length
  let start := ((number? args 0).map inside).getD 0
  let stop := ((number? args 1).map inside).getD cs.length
  between (min start stop) (max start stop) cs

/-- The character at a place, which is the first one if none is given. -/
def charAt (args : List Value) (cs : List Char) : List Char :=
  let i := ((number? args 0).map Double.toInt32).getD 0
  if i < 0 then [] else (cs[i.toNat]?).toList

/-- The pieces between separators; the characters if the separator is empty. -/
def split (separator : List Char) (cs : List Char) : List (List Char) :=
  match separator with
  | [] => cs.map ([·])
  | first :: more => splitOnText first more cs

/-- The first `count` characters of a text repeated for ever. -/
def cycled (fill : List Char) (count : Nat) : List Char :=
  ((List.replicate (count / fill.length + 1) fill).flatten).take count

/-- The text with characters of `fill` in front, or behind, up to a length. -/
def pad (atStart : Bool) (length : Nat) (fill cs : List Char) : List Char :=
  let padding := cycled fill (length - cs.length)
  if atStart then padding ++ cs else cs ++ padding

/-- The texts with a separator between them. -/
def joined (separator : List Char) (texts : List (List Char)) : List Char :=
  separator.intercalate texts

/-- A number for a position, which is negative if there is none. -/
def position (i : Option Nat) : Value := .number ((i.map Double.ofNat).getD (-1))

/-- A value for characters. -/
def text (cs : List Char) : Value := .string (String.ofList cs)

/-- Padding by the arguments. -/
def padded (limits : FormulaLimits) (name : String) (cs : List Char) (args : List Value) :
    Budgeted Value := do
  let length := (((number? args 0).map Double.toInt32).getD 0).toNat
  if maxPadded < length then throw (.lengthExceeded name length maxPadded)
  let fill := (args[1]?.map Value.displayChars).getD [' ']
  spend limits (length / 64)
  return text (pad (name = "padStart") length fill cs)

/-- A call of a method of a text. -/
def onText (limits : FormulaLimits) (cs : List Char) (name : String) (args : List Value) :
    Budgeted Value := do
  spend limits (cs.length / 64 + 1)
  match name with
  | "toUpperCase" => return text (upper cs)
  | "toLowerCase" => return text (lower cs)
  | "trim" => return text (trim cs)
  | "includes" => return .bool (occurs (textAt args 0) cs)
  | "startsWith" => return .bool ((textAt args 0).isPrefixOf cs)
  | "endsWith" => return .bool ((textAt args 0).isSuffixOf cs)
  | "indexOf" => return position (find? (textAt args 0) cs)
  | "charAt" => return text (charAt args cs)
  | "substring" => return text (substring args cs)
  | "slice" => return text (slice args cs)
  | "replace" => return text (replaceFirst (textAt args 0) (textAt args 1) cs)
  | "split" =>
    match args.head? with
    | none | some .undefined => return .array [text cs]
    | some separator => return .array ((split separator.displayChars cs).map text)
  | "padStart" | "padEnd" => padded limits name cs args
  | "concat" => return text (cs ++ args.flatMap Value.displayChars)
  | _ => throw (.notCallable name)

/-- The characters of an item in a joined text; missing ones show nothing. -/
def itemChars (v : Value) : List Char := if v.isNullish then [] else v.displayChars

/-- A call of a method of an array. -/
def onArray (limits : FormulaLimits) (items : List Value) (name : String) (args : List Value) :
    Budgeted Value := do
  let needle := args.head?.getD .undefined
  match name with
  | "join" =>
    spend limits items.length
    let separator := (args.head?.map Value.displayChars).getD [',']
    return text (joined separator (items.map itemChars))
  | "includes" =>
    spend limits items.length
    return .bool (items.any (·.equals needle))
  | "indexOf" =>
    spend limits items.length
    return position (items.findIdx? (·.equals needle))
  | "slice" => return .array (slice args items)
  | _ => throw (.notCallable name)

/-- A call of a method of a number. -/
def onNumber (x : Double) (name : String) (args : List Value) : Budgeted Value :=
  match name with
  | "toFixed" =>
    let places := ((number? args 0).map Double.toInt32).getD 0
    return text (x.fixedChars places.toNat)
  | "toString" =>
    let radix := ((number? args 0).map Double.toInt32).getD 10
    if Radix.inRange radix then return text (Radix.chars x radix.toNat)
    else throw (.radixOutOfRange radix)
  | _ => throw (.notCallable name)

/-- A call of a method of a value. -/
def call (limits : FormulaLimits) (target : Value) (name : String) (args : List Value) :
    Budgeted Value :=
  match target with
  | .number x => onNumber x name args
  | .string s =>
    if name = "toString" then return target else onText limits s.toList name args
  | .bool _ =>
    if name = "toString" then return .string target.display else throw (.notCallable name)
  | .array items => onArray limits items name args
  | .undefined | .null => throw (.invalidAccess name target.kind)
  | .object _ => throw (.notCallable name)

end LiveText.Method
