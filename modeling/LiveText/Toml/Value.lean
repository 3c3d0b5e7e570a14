import LiveText.Toml.Node
import LiveText.Toml.Scalar

/-!
# Values in TOML

Arrays may span lines and end in a comma; inline tables stand in one line and end without one. The
entries of an inline table are keys with points, which make tables of their own; such a table is
closed when the inline table ends.
-/

namespace LiveText.Toml

open Text

/-- A key with its parts and its value. -/
abbrev Pair := List String × Toml

/-- A key, an equals sign and a value, with the value's reader. -/
def pair (value : Reader Toml) : Reader Pair := fun cs => do
  let (key, cs) ← keyParts (nestingLimit - 1) cs
  match cs with
  | '=' :: rest =>
    let (v, rest) ← value (skipSpaces rest)
    return ((key, v), rest)
  | _ => none

/-- The items of an array up to its closing bracket; the count bounds the items. -/
def items (value : Reader Toml) : Nat → Reader (List Toml)
  | 0, _ => none
  | count + 1, cs =>
    match skipBlank cs with
    | ']' :: rest => some ([], rest)
    | cs => do
      let (v, cs) ← value cs
      match skipBlank cs with
      | ']' :: rest => some ([v], rest)
      | ',' :: rest => (items value count rest).map fun (more, rest) => (v :: more, rest)
      | _ => none

/-- The pairs of an inline table up to its closing brace, one at least; the count bounds the
pairs. -/
def pairs (value : Reader Toml) : Nat → Reader (List Pair)
  | 0, _ => none
  | count + 1, cs => do
    let (p, cs) ← pair value cs
    match skipSpaces cs with
    | '}' :: rest => some ([p], rest)
    | ',' :: rest => (pairs value count rest).map fun (more, rest) => (p :: more, rest)
    | _ => none

/-- The table of pairs, unless two of them clash. -/
def tableOf? (ps : List Pair) : Option Toml :=
  (ps.foldlM (fun entries (key, v) => Node.setPair? [] key v entries) []).map fun entries =>
    .table (Node.entriesToml entries)

/-- An inline table after its opening brace. -/
def inlineTable (value : Reader Toml) : Reader Toml := fun cs =>
  match skipSpaces cs with
  | '}' :: rest => some (.table [], rest)
  | cs => do
    let (ps, rest) ← pairs value (cs.length + 1) cs
    return (← tableOf? ps, rest)

/-- A value in which arrays and inline tables are nested at most so deep. -/
def value : Nat → Reader Toml
  | 0 => scalar
  | depth + 1 => fun cs =>
    match cs with
    | '[' :: rest =>
      (items (value depth) (rest.length + 1) rest).map fun (vs, rest) => (.array vs, rest)
    | '{' :: rest => inlineTable (value depth) rest
    | cs => scalar cs

end LiveText.Toml
