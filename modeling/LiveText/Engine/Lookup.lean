import LiveText.Binding.Parser
import LiveText.Binding.Reserved
import LiveText.Engine.Request
import LiveText.Settings.Basic
import LiveText.Text.Search

/-!
# Looking up values

A reference means a reserved identifier, or else a value of the request, or else a live state. Where
a source has no entry for the value channel of a state, the entry under the bare name counts.
-/

namespace LiveText

/-- The present values of states. -/
abbrev States := Members Value

/-- The fixed surroundings of templates. -/
structure Engine where
  settings : Settings
  zone : Zone
  /-- The calendar of requests that have none of their own. -/
  calendar : Option Calendar := none
  /-- The words of the user's language. -/
  translate : String → String := id
  /-- The bindings of a template, and what was not honoured in it. -/
  parse : String → Option (List Binding) × List Notice
  /-- The random numbers, each at least zero and below one. -/
  draw : Nat → Double

namespace Engine

/-- The engine with given settings on a host, unless their offset is out of range. -/
def ofSettings (s : Settings) (host : HostClock) (draw : Nat → Double) : Except Failure Engine := do
  let zone ← s.zone host
  return { settings := s, zone, parse := Binding.parse s.maxBindings, draw }

/-- The name of the widget: the one in its data, or else its identifier. -/
def widgetName (r : Request) : Value :=
  match r.data?.bind (Members.get? "name") with
  | none | some .null | some (.string "") => .string r.widgetId
  | some name => name

/-- The value of a reserved identifier. -/
def resolve (e : Engine) (r : Request) : Reserved → Value
  | .username => .string e.settings.user
  | .login => .bool e.settings.loginRequired
  | .instanceNumber => .number (Double.ofNat e.settings.instanceNumber)
  | .language => .string e.settings.language
  | .widgetId => .string r.widgetId
  | .widgetName => widgetName r
  | .view => .string r.view

/-- The ending of a reference to the value channel. -/
def valueEnding : List Char := ".val".toList

/-- The name of a state whose value channel is meant. -/
def bareName? (state : String) : Option String :=
  let cs := state.toList
  if valueEnding.isSuffixOf cs then some (String.ofList (cs.take (cs.length - valueEnding.length)))
  else none

/-- The entry of a reference in a source: under the full name, or else under the bare one. -/
def find? (source : Members Value) (state : String) : Option Value :=
  match source.get? state with
  | some v => some v
  | none => (bareName? state).bind source.get?

/-- The value of a reference. -/
def lookup (e : Engine) (states : States) (r : Request) (state : String) : Value :=
  match Reserved.ofState? state with
  | some reserved => e.resolve r reserved
  | none =>
    match find? r.values state with
    | some v => v
    | none => (find? states state).getD .undefined

end Engine

end LiveText
