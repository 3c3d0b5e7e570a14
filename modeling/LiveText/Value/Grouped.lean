import LiveText.Number.Fixed
import LiveText.Text.Search
import LiveText.Value.Basic

/-!
# Numbers in groups

Fixed-place text with the digits before the point in groups of three. The format is written as a
count of places and a pair of separators, either of which may be left out.
-/

namespace LiveText

/-- The characters for the point and between groups. -/
structure Separators where
  decimal : Char := '.'
  group : Char := ','
deriving DecidableEq, Repr

/-- A count of places and the separators. -/
structure GroupedFormat where
  places : Nat
  separators : Separators := {}
deriving DecidableEq, Repr

namespace GroupedFormat

/-- The separators of a pair such as `,.`, the default ones for any other text. -/
def separatorsOf : List Char → Separators
  | [decimal, group] => ⟨decimal, group⟩
  | _ => {}

/-- The format that an argument spells: digits, then a pair. A count of more than 64 bits is none,
and a greater count than `Fixed.maxPlaces` is that many. -/
def ofArgument (arg : List Char) : GroupedFormat :=
  let arg := Text.trim arg
  let count := (Digits.readIndex? (arg.takeWhile Char.isDigit)).getD 0
  ⟨min count Fixed.maxPlaces, separatorsOf (Text.trim (arg.dropWhile Char.isDigit))⟩

/-- Digits with a separator wherever a multiple of three of them follows. -/
def grouped (separator : Char) : List Char → List Char
  | [] => []
  | d :: rest =>
    if rest.length % 3 = 0 ∧ rest ≠ [] then d :: separator :: grouped separator rest
    else d :: grouped separator rest

/-- Fixed-place digits without sign, with the separators of a format. -/
def separated (s : Separators) (unsigned : List Char) : List Char :=
  match Text.cutFirst? '.' unsigned with
  | some (whole, fraction) => grouped s.group whole ++ s.decimal :: fraction
  | none => grouped s.group unsigned

/-- The text of a number in a format: empty for `nan`. What `Double.toFixed` leaves in display text
is not grouped. -/
def chars (format : GroupedFormat) (x : Double) : List Char :=
  match x with
  | .nan => []
  | .infinity _ => x.fixedChars format.places
  | .finite _ units _ =>
    let fixed := x.fixedChars format.places
    if units < Nat.pow 10 21 * Number.unity then
      match fixed with
      | '-' :: unsigned => '-' :: separated format.separators unsigned
      | unsigned => separated format.separators unsigned
    else fixed

/-- The text of a value in a format: empty if it has no number. -/
def render (format : GroupedFormat) (v : Value) : String := String.ofList (format.chars v.toNumber)

end GroupedFormat

end LiveText
