import LiveText.Binding.Document
import LiveText.Command.Arguments
import LiveText.Engine.Session
import LiveText.Settings.Reading

/-!
# Running commands

What a command prints depends on its arguments, on the files that they name, on the present instant,
on the local time of the host and on random draws. Settings are read before states, and an offset
that is out of range is noticed after both.
-/

namespace LiveText

/-- How a command ends. -/
inductive Outcome where
  /-- The text for the output, and what was not honoured. -/
  | printed (text : String) (notices : List Notice)
  | failed (failure : Failure)
  /-- The command line asks for nothing that there is. -/
  | misused
  /-- Filling in broke off, and nothing is printed. -/
  | brokenOff (notices : List Notice)

namespace Outcome

/-- The number that the caller is told. -/
def status : Outcome → Nat
  | printed .. => 0
  | failed _ => 1
  | misused => 2
  | brokenOff _ => 101

end Outcome

/-- What a command finds around it. -/
structure World where
  /-- The content of a file, or the cause of its not being readable. -/
  file : String → Except String String
  now : Instant
  host : HostClock
  /-- The random numbers, each at least zero and below one. -/
  draw : Nat → Double

/-- A host whose clocks show universal time. -/
def HostClock.universal : HostClock where
  offsetAt := fun _ => .zero
  earliest? := fun t => t.instant? .zero

namespace Command

/-- The name and the version of the program. -/
def versionLine : String := "bindfmt 0.1.0\n"

/-- How the program is used. -/
def usage : String :=
  "Resolve live-state bindings in display templates\n\n" ++
  "  render <TEMPLATE>   render a template\n" ++
  "    -s, --states <STATES>   JSON object of state id and value\n" ++
  "    -c, --config <CONFIG>   engine config (TOML)\n" ++
  "    --view <VIEW>           current view name\n" ++
  "    --widget <WIDGET>       current widget id\n" ++
  "    --edit                  bypass the binding cache\n" ++
  "  parse <TEMPLATE>    print the bindings of a template as JSON\n"

/-- The content of a file. -/
def load (w : World) (path : String) : Except Failure String :=
  match w.file path with
  | .ok text => .ok text
  | .error cause => .error (.fileUnreadable path cause)

/-- The states of a document. -/
def statesOf : Json → Except Failure States
  | .object members => .ok (Value.ofMembers members)
  | .null => .error (.statesNotObject "null")
  | .bool _ => .error (.statesNotObject "boolean")
  | .integer _ | .real _ => .error (.statesNotObject "number")
  | .string _ => .error (.statesNotObject "string")
  | .array _ => .error (.statesNotObject "array")

/-- The settings of a file; the default ones if there is none. -/
def loadSettings (w : World) : Option String → Except Failure Settings
  | none => .ok {}
  | some path => do
    let text ← load w path
    Settings.read text

/-- The states of a file; none if there is none. -/
def loadStates (w : World) : Option String → Except Failure States
  | none => .ok []
  | some path => do
    let text ← load w path
    match Json.read text with
    | some document => statesOf document
    | none => .error .jsonRefused

/-- The text of a template, and what was not honoured in it. -/
def rendered (w : World) (template : String) (o : RenderOptions) :
    Except Failure (String × List Notice) := do
  let settings ← loadSettings w o.config
  let states ← loadStates w o.states
  let engine ← Engine.ofSettings settings w.host w.draw
  let calendar : Calendar :=
    { locale := Locale.ofLanguage settings.language, zone := engine.zone, now := w.now }
  let session : Session := { states := states, editing := o.edit }
  let request : Request := { view := o.view.getD "", widgetId := o.widget.getD "" }
  let engine := { engine with calendar := some calendar }
  let (text, notices, _) := session.format engine template request
  return (text, notices)

/-- The most tokens that are listed. -/
def maxListed : Nat := 50

/-- The bindings of a template as an indented document, and what was not honoured in it. -/
def listing (template : String) : String × List Notice :=
  let (bindings, notices) := Binding.parse maxListed template
  ((Binding.listJson (bindings.getD [])).pretty, notices)

/-- How a command ends. -/
def run (w : World) : Command → Outcome
  | version => .printed versionLine []
  | help => .printed usage []
  | parse template =>
    let (text, notices) := listing template
    .printed (text ++ "\n") notices
  | render template o =>
    match rendered w template o with
    | .ok (text, notices) =>
      if notices.any Notice.breaksOff then .brokenOff notices else .printed (text ++ "\n") notices
    | .error failure => .failed failure

/-- How a command line ends. -/
def runLine (w : World) (args : List String) : Outcome :=
  match ofArguments args with
  | some c => c.run w
  | none => .misused

/-- The files that a command reads. -/
def paths : Command → List String
  | render _ o => o.config.toList ++ o.states.toList
  | _ => []

end Command

end LiveText
