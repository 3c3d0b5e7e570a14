import LiveText.Number.Layout
import LiveText.Value.Members

/-!
# JSON documents

A document as it is written: integers and numbers with a fraction are kept apart, and members stand
in the order of writing. The compact text has no blanks; the indented text puts every item on a line
of its own.
-/

namespace LiveText

/-- A JSON document. -/
inductive Json where
  | null
  | bool (b : Bool)
  | integer (n : Int)
  | real (x : Double)
  | string (s : String)
  | array (items : List Json)
  | object (members : List (String × Json))
deriving Inhabited

namespace Json

/-- A number as a document; what is not finite has no JSON form and is `null`. -/
def ofDouble (x : Double) : Json := if x.isFinite then .real x else .null

/-- A character inside quotes: quotes, backslashes and what lies below the blank are escaped. -/
def escapeChar (c : Char) : List Char :=
  if c = '"' then ['\\', '"']
  else if c = '\\' then ['\\', '\\']
  else if c = '\x08' then ['\\', 'b']
  else if c = '\x0c' then ['\\', 'f']
  else if c = '\n' then ['\\', 'n']
  else if c = '\r' then ['\\', 'r']
  else if c = '\t' then ['\\', 't']
  else if c.toNat < 0x20 then
    ['\\', 'u', '0', '0', Digits.char (c.toNat / 16), Digits.char (c.toNat % 16)]
  else [c]

/-- A quoted text. -/
def quote (cs : List Char) : List Char := '"' :: (cs.flatMap escapeChar ++ ['"'])

/-- An integer in decimal digits. -/
def integerChars (n : Int) : List Char :=
  if n < 0 then '-' :: Digits.ofNat 10 n.natAbs else Digits.ofNat 10 n.natAbs

/-- The text of a document that holds no others. -/
def scalarChars : Json → List Char
  | null => "null".toList
  | bool b => (if b then "true" else "false").toList
  | integer n => integerChars n
  | real x => Layout.json.chars x
  | string s => quote s.toList
  | array _ | object _ => []

mutual

/-- The compact text of a document. -/
def chars : Json → List Char
  | array items => '[' :: (itemsChars items ++ [']'])
  | object members => '{' :: (membersChars members ++ ['}'])
  | scalar => scalarChars scalar

/-- The compact texts of items with commas between them. -/
def itemsChars : List Json → List Char
  | [] => []
  | [item] => chars item
  | item :: rest => chars item ++ ',' :: itemsChars rest

/-- The compact texts of members with commas between them. -/
def membersChars : List (String × Json) → List Char
  | [] => []
  | [(key, value)] => quote key.toList ++ ':' :: chars value
  | (key, value) :: rest => quote key.toList ++ ':' :: chars value ++ ',' :: membersChars rest

end

/-- A new line with the indentation of a level. -/
def newLine (level : Nat) : List Char := '\n' :: List.replicate (2 * level) ' '

mutual

/-- The indented text of a document at a level. -/
def indented (level : Nat) : Json → List Char
  | array [] => ['[', ']']
  | array items => '[' :: (itemsIndented (level + 1) items ++ newLine level ++ [']'])
  | object [] => ['{', '}']
  | object members => '{' :: (membersIndented (level + 1) members ++ newLine level ++ ['}'])
  | scalar => scalarChars scalar

/-- The indented texts of items, each on its own line. -/
def itemsIndented (level : Nat) : List Json → List Char
  | [] => []
  | [item] => newLine level ++ indented level item
  | item :: rest => newLine level ++ indented level item ++ ',' :: itemsIndented level rest

/-- The indented texts of members, each on its own line. -/
def membersIndented (level : Nat) : List (String × Json) → List Char
  | [] => []
  | [(key, value)] => newLine level ++ quote key.toList ++ ':' :: ' ' :: indented level value
  | (key, value) :: rest =>
    newLine level ++ quote key.toList ++ ':' :: ' ' :: indented level value ++
      ',' :: membersIndented level rest

end

/-- The compact text. -/
def compact (j : Json) : String := String.ofList j.chars

/-- The indented text. -/
def pretty (j : Json) : String := String.ofList (j.indented 0)

/-- The member of an object with the given key. -/
def member? (key : String) : Json → Option Json
  | object members => members.lookup key
  | _ => none

/-- The text of a string. -/
def string? : Json → Option String
  | string s => some s
  | _ => none

end Json

end LiveText
