import LiveText.Text.Blank
import LiveText.Text.Search

/-!
# References to states

A reference names a state and one of its channels, `hall.temp.lc`; without a channel it means the
value. The name with its channel is what states are looked up by. An argument of a formula is a
reference with a name of its own.
-/

namespace LiveText

open Text

/-- A reference to one channel of a state. -/
structure Reference where
  /-- The name with its channel. -/
  state : String
  /-- The name without its channel. -/
  system : String
  /-- Whether the channel holds a time in seconds. -/
  isSeconds : Bool
deriving DecidableEq, Repr

namespace Reference

/-- The channels of a state: value, time stamp, last change, acknowledgement, origin. -/
def channels : List (List Char) := ["val", "ts", "lc", "ack", "from"].map String.toList

/-- The channels that hold a time in seconds. -/
def timeChannels : List (List Char) := ["ts", "lc"].map String.toList

/-- The reference that a text spells. -/
def ofChars (cs : List Char) : Reference :=
  match cutLast? '.' cs with
  | some (base, channel) =>
    if channel ∈ channels then
      ⟨String.ofList cs, String.ofList base, decide (channel ∈ timeChannels)⟩
    else ⟨String.ofList (cs ++ ".val".toList), String.ofList cs, false⟩
  | none => ⟨String.ofList (cs ++ ".val".toList), String.ofList cs, false⟩

/-- The reference that a text spells. -/
def ofString (text : String) : Reference := ofChars text.toList

end Reference

/-- A named argument of a formula. -/
structure FormulaArg where
  name : String
  /-- The referenced state with its channel. -/
  state : String
  /-- The referenced state without its channel. -/
  system : String
deriving DecidableEq, Repr

namespace FormulaArg

/-- The argument that a text `name:reference` spells. -/
def ofChars? (cs : List Char) : Option FormulaArg :=
  (cutFirst? ':' cs).map fun (name, reference) =>
    let reference := Reference.ofChars (trim reference)
    ⟨String.ofList (trim name), reference.state, reference.system⟩

end FormulaArg

end LiveText
