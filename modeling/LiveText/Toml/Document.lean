import LiveText.Toml.Value

/-!
# Reading TOML documents

A document is a row of lines: pairs, and headers that open a table or a further table of an array.
Pairs belong to the table that was opened last.
-/

namespace LiveText.Toml

open Text

/-- A document while it is read: all entries, and the key of the open table. -/
structure Draft where
  entries : Node.Entries := []
  current : List String := []

/-- A key and its closing brackets. -/
def headerKey (brackets : String) : Reader (List String) := fun cs => do
  let (key, cs) ← keyParts (nestingLimit - 1) cs
  let ((), cs) ← Reader.word brackets cs
  return (key, cs)

/-- One line without its end. -/
def line (d : Draft) : Reader Draft := fun cs =>
  match cs with
  | '[' :: '[' :: rest => do
    let (key, rest) ← headerKey "]]" rest
    return (⟨← Node.openHeader? Node.openItem key d.entries, key⟩, rest)
  | '[' :: rest => do
    let (key, rest) ← headerKey "]" rest
    return (⟨← Node.openHeader? Node.openTable key d.entries, key⟩, rest)
  | cs => do
    let ((key, v), rest) ← pair (value (nestingLimit - 1)) cs
    return (⟨← Node.setPair? d.current key v d.entries, d.current⟩, rest)

/-- The lines of a document; the count bounds them. -/
def lines : Nat → Draft → List Char → Option Draft
  | 0, _, _ => none
  | count + 1, d, cs =>
    match skipBlank cs with
    | [] => some d
    | '#' :: rest => if (skipComment ('#' :: rest)).isEmpty then some d else none
    | cs => do
      let (d, cs) ← line d cs
      lines count d (← lineEnd cs)

/-- The text without the mark of its encoding. -/
def withoutMark : List Char → List Char
  | '\uFEFF' :: rest => rest
  | cs => cs

/-- The table of a document. -/
def read (text : String) : Option (List (String × Toml)) :=
  let cs := withoutMark text.toList
  (lines (cs.length + 1) {} cs).map fun d => Node.entriesToml d.entries

end LiveText.Toml
