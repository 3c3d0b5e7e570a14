import LiveText.Text.Search
import LiveText.Value.Basic

/-!
# Paths into values

A path is a sequence of member names and indexes, written with dots and brackets. Reading a path
either gives its segments or refuses it; following one gives the value that it addresses, if any.
-/

namespace LiveText

open Text

/-- A path that cannot be read. -/
structure PathError where
  /-- The path without blanks at its ends and without the mark of the root. -/
  path : String
deriving DecidableEq, Repr

namespace PathError

/-- The text of the error. -/
def message (e : PathError) : String :=
  "JSON path '" ++ e.path ++ "' is not supported (use a.b or a[0].b)"

end PathError

/-- A step of a path. -/
inductive Segment where
  | name (key : String)
  | index (n : Nat)
deriving DecidableEq, Repr

namespace Path

/-- The indexes in brackets that make up a text. -/
def readIndexes : List Char → Option (List Segment)
  | [] => some []
  | '[' :: rest =>
    match _h : cutFirst? ']' rest with
    | none => none
    | some (inner, after) =>
      match Digits.readIndex? (trim inner), readIndexes after with
      | some n, some segments => some (.index n :: segments)
      | _, _ => none
  | _ => none
termination_by cs => cs.length
decreasing_by exact Nat.lt_succ_of_lt (length_of_cutFirst? _h)

/-- The segments of a part between dots: a name with indexes, an index, or a name. -/
def readPart (part : List Char) : Option (List Segment) :=
  if part.isEmpty then none
  else
    let field := part.takeWhile (· ≠ '[')
    let brackets := part.dropWhile (· ≠ '[')
    if brackets.isEmpty then
      match Digits.readIndex? part with
      | some n => some [.index n]
      | none => some [.name (String.ofList part)]
    else
      (readIndexes brackets).map fun indexes =>
        if field.isEmpty then indexes else .name (String.ofList field) :: indexes

/-- The segments of parts in order. -/
def readParts : List (List Char) → Option (List Segment)
  | [] => some []
  | part :: rest =>
    match readPart part, readParts rest with
    | some segments, some more => some (segments ++ more)
    | _, _ => none

/-- The path without the mark of the root; `none` for the root itself. -/
def withoutRoot : List Char → Option (List Char)
  | '$' :: '.' :: rest => some rest
  | ['$'] => none
  | path => some path

/-- The segments of a path. -/
def readChars (path : List Char) : Except PathError (List Segment) :=
  match withoutRoot (trim path) with
  | none | some [] => .ok []
  | some path =>
    match readParts (path.splitOn '.') with
    | some segments => .ok segments
    | none => .error ⟨String.ofList path⟩

/-- The segments of a path. -/
def read (path : String) : Except PathError (List Segment) := readChars path.toList

/-- One step: a member by name, an item by index, or a member by the decimal text of an index. -/
def step? (v : Value) (s : Segment) : Option Value :=
  match s, v with
  | .name key, .object members => members.lookup key
  | .index n, .array items => items[n]?
  | .index n, .object members => members.lookup (String.ofList (Digits.ofNat 10 n))
  | _, _ => none

/-- The value at the end of the steps. -/
def follow? (v : Value) (segments : List Segment) : Option Value := segments.foldlM step? v

/-- What a path addresses in a value. -/
def resolve (v : Value) (path : String) : Except PathError (Option Value) :=
  (read path).map (follow? v)

end Path

end LiveText
