import LiveText.Json.Reader
import LiveText.Number.Numeral

/-!
# Values

The loosely typed values of states and formulas. A value has a display text, which takes the place
of a token in a template, and a JSON document; there is a lenient number, read from the front of its
text, and a strict one, read from the whole.
-/

namespace LiveText

/-- A value; the members of an object stand in the order of their keys. -/
inductive Value where
  /-- A state that is missing. -/
  | undefined
  | null
  | bool (b : Bool)
  | number (x : Double)
  | string (s : String)
  | array (items : List Value)
  | object (members : List (String × Value))

namespace Value

instance : Inhabited Value := ⟨.undefined⟩

/-- Whether a value is missing or `null`. -/
def isNullish : Value → Bool
  | undefined | null => true
  | _ => false

/-- The word for the kind of a value. -/
def kind : Value → String
  | undefined => "undefined"
  | null => "null"
  | bool _ => "boolean"
  | number _ => "number"
  | string _ => "string"
  | array _ => "array"
  | object _ => "object"

/-- Whether a value counts as true. -/
def truthy : Value → Bool
  | undefined | null => false
  | bool b => b
  | number x => !x.isZero && !x.isNaN
  | string s => !s.isEmpty
  | array _ | object _ => true

/-- A number as a document: integers below `2^53` in magnitude are written as integers. -/
def numberJson (x : Double) : Json :=
  if x.isIntegral && x.toInt.natAbs < Nat.pow 2 53 then .integer x.toInt else .ofDouble x

mutual

/-- The document of a value; what JSON lacks is `null`. -/
def toJson : Value → Json
  | undefined | null => .null
  | bool b => .bool b
  | number x => numberJson x
  | string s => .string s
  | array items => .array (itemsJson items)
  | object members => .object (membersJson members)

/-- The documents of items. -/
def itemsJson : List Value → List Json
  | [] => []
  | item :: rest => toJson item :: itemsJson rest

/-- The documents of members. -/
def membersJson : List (String × Value) → List (String × Json)
  | [] => []
  | (key, value) :: rest => (key, toJson value) :: membersJson rest

end

mutual

/-- The value of a document. -/
def ofJson : Json → Value
  | .null => null
  | .bool b => bool b
  | .integer n => number (Double.ofInt n)
  | .real x => number x
  | .string s => string s
  | .array items => array (ofItems items)
  | .object members => object (ofMembers members)

/-- The values of items. -/
def ofItems : List Json → List Value
  | [] => []
  | item :: rest => ofJson item :: ofItems rest

/-- The values of members. -/
def ofMembers : List (String × Json) → List (String × Value)
  | [] => []
  | (key, json) :: rest => (key, ofJson json) :: ofMembers rest

end

/-- The compact JSON text of a value. -/
def jsonText (v : Value) : String := v.toJson.compact

/-- The value of a JSON text. -/
def ofJsonText (text : String) : Option Value := (Json.read text).map ofJson

mutual

/-- The characters that a value is shown as. -/
def displayChars : Value → List Char
  | undefined => "undefined".toList
  | null => "null".toList
  | bool b => (if b then "true" else "false").toList
  | number x => Layout.display.chars x
  | string s => s.toList
  | array items => itemsDisplay items
  | object members => (Json.object (membersJson members)).chars

/-- The characters of items with commas between them; missing ones show nothing. -/
def itemsDisplay : List Value → List Char
  | [] => []
  | [item] => if item.isNullish then [] else displayChars item
  | item :: rest => (if item.isNullish then [] else displayChars item) ++ ',' :: itemsDisplay rest

end

/-- The text that a value is shown as. -/
def display (v : Value) : String := String.ofList v.displayChars

/-- The lenient number of a value: the one in front of its text. -/
def toNumber : Value → Double
  | number x => x
  | string s => Numeral.readPrefix s.toList
  | array items => Numeral.readPrefix (itemsDisplay items)
  | _ => .nan

/-- The strict number of a value: the one that its text is as a whole. -/
def toStrictNumber : Value → Double
  | undefined => .nan
  | null => 0
  | bool b => if b then 1 else 0
  | number x => x
  | string s => Numeral.readWhole s.toList
  | array items => Numeral.readWhole (itemsDisplay items)
  | object _ => .nan

mutual

/-- Equality of values, with numbers compared numerically. -/
def equals : Value → Value → Bool
  | undefined, undefined => true
  | null, null => true
  | bool a, bool b => a == b
  | number x, number y => x.equals y
  | string s, string t => s == t
  | array xs, array ys => itemsEqual xs ys
  | object xs, object ys => membersEqual xs ys
  | _, _ => false

/-- Equality of items in order. -/
def itemsEqual : List Value → List Value → Bool
  | [], [] => true
  | x :: xs, y :: ys => equals x y && itemsEqual xs ys
  | _, _ => false

/-- Equality of members in order. -/
def membersEqual : List (String × Value) → List (String × Value) → Bool
  | [], [] => true
  | (k, x) :: xs, (l, y) :: ys => k == l && equals x y && membersEqual xs ys
  | _, _ => false

end

end Value

end LiveText
