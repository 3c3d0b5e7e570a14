import LiveText.Engine.Pipeline
import LiveText.Template.Escape

/-!
# Filling in templates

The bindings of a template are taken in order. The text of each value takes the place of the first
occurrence of the binding's token in what the template has become by then; at last, doubled braces
become single ones.
-/

namespace LiveText.Engine

/-- The value that a binding shows: that of its state after its operations. -/
def shown (e : Engine) (states : States) (r : Request) (b : Binding) : Traced Value :=
  Pipeline.run ⟨e, states, r, b.isSeconds⟩ b.operations (e.lookup states r b.state)

/-- The text with the value of a binding in the place of its token. -/
def substitute (e : Engine) (states : States) (r : Request) (text : List Char) (b : Binding) :
    Traced (List Char) := do
  let v ← e.shown states r b
  return Text.replaceFirst b.token.toList v.displayChars text

/-- The text of a template with given bindings. -/
def fill (e : Engine) (states : States) (r : Request) (template : String) (bs : List Binding) :
    Traced String := do
  let text ← bs.foldlM (substitute e states r) template.toList
  return String.ofList (Template.unescapeChars text)

end LiveText.Engine
