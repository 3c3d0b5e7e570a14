import LiveText.Number.Digits

/-!
# Readers

A reader takes a part from the front of a text and gives what it means together with the rest.
-/

namespace LiveText.Text

/-- What is read from the front of a text, and the rest. -/
abbrev Reader (α : Type) := List Char → Option (α × List Char)

namespace Reader

/-- A given character. -/
def char (c : Char) : Reader Unit
  | d :: rest => if d = c then some ((), rest) else none
  | [] => none

/-- A given text. -/
def word (w : String) : Reader Unit := fun cs =>
  (w.toList.isPrefixOf? cs).map fun rest => ((), rest)

/-- A number of at least `least` and at most `most` decimal digits. -/
def digits (least most : Nat) : Reader Nat := fun cs =>
  let ds := (cs.take most).takeWhile Char.isDigit
  if ds.length < least then none else some (Digits.value 10 ds, cs.drop ds.length)

end Reader

end LiveText.Text
