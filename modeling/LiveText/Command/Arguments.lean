/-!
# Command lines

A command line names one of two commands. Rendering takes a template and options, each at most once;
an option takes its value from the same argument or from the next one. Listing bindings takes a
template alone. After `--` every argument stands for itself.
-/

namespace LiveText

/-- The options of rendering. -/
structure RenderOptions where
  /-- The file of states. -/
  states : Option String := none
  /-- The file of settings. -/
  config : Option String := none
  view : Option String := none
  widget : Option String := none
  /-- Whether the template is being edited. -/
  edit : Bool := false
deriving DecidableEq, Repr

/-- What a command line asks for. -/
inductive Command where
  | render (template : String) (options : RenderOptions)
  | parse (template : String)
  | version
  | help
deriving DecidableEq, Repr

namespace Command

/-- An option that takes a value. -/
inductive Valued where
  | states
  | config
  | view
  | widget
deriving DecidableEq, Repr

/-- An argument by its form. -/
inductive Argument where
  | valued (option : Valued) (value : Option String)
  | edit
  | help
  | endOfOptions
  | plain (text : String)
  | unknown
deriving DecidableEq, Repr

/-- The value after an equals sign, if there is one. -/
def attached? (cs : List Char) : Option String :=
  match cs.dropWhile (· ≠ '=') with
  | _ :: value => some (String.ofList value)
  | [] => none

/-- The long option of an argument after its dashes. -/
def ofLong (cs : List Char) : Argument :=
  let value := attached? cs
  match String.ofList (cs.takeWhile (· ≠ '=')) with
  | "states" => .valued .states value
  | "config" => .valued .config value
  | "view" => .valued .view value
  | "widget" => .valued .widget value
  | "edit" => if value.isNone then .edit else .unknown
  | "help" => if value.isNone then .help else .unknown
  | _ => .unknown

/-- The value that follows the letter of an option in the same argument, if there is one. -/
def shortValue? : List Char → Option String
  | [] => none
  | '=' :: value => some (String.ofList value)
  | value => some (String.ofList value)

/-- An argument of rendering by its form. -/
def classify (arg : String) : Argument :=
  match arg.toList with
  | ['-', '-'] => .endOfOptions
  | '-' :: '-' :: name => ofLong name
  | '-' :: 's' :: value => .valued .states (shortValue? value)
  | '-' :: 'c' :: value => .valued .config (shortValue? value)
  | '-' :: 'h' :: _ => .help
  | '-' :: _ :: _ => .unknown
  | _ => .plain arg

/-- What has been read of a command line for rendering. -/
structure Draft where
  template : Option String := none
  options : RenderOptions := {}

namespace Draft

/-- The template set, unless there is one. -/
def plain? (text : String) (d : Draft) : Option Draft :=
  if d.template.isSome then none else some { d with template := some text }

/-- A value for an option that has none. -/
def once? (present : Option String) (value : String) : Option (Option String) :=
  if present.isSome then none else some (some value)

/-- An option set, unless it is set already. -/
def valued? (option : Valued) (value : String) (d : Draft) : Option Draft :=
  let o := d.options
  match option with
  | .states => (once? o.states value).map fun v => { d with options := { o with states := v } }
  | .config => (once? o.config value).map fun v => { d with options := { o with config := v } }
  | .view => (once? o.view value).map fun v => { d with options := { o with view := v } }
  | .widget => (once? o.widget value).map fun v => { d with options := { o with widget := v } }

/-- The mark of editing set, unless it is set already. -/
def edit? (d : Draft) : Option Draft :=
  if d.options.edit then none else some { d with options := { d.options with edit := true } }

/-- The command that has been read, if it has a template. -/
def command? (d : Draft) : Option Command := d.template.map (.render · d.options)

end Draft

/-- The command of arguments that all stand for themselves. -/
def readPlain : Draft → List String → Option Command
  | d, [] => d.command?
  | d, arg :: rest =>
    match d.plain? arg with
    | some d => readPlain d rest
    | none => none

/-- The command of arguments of rendering. -/
def readRender : Draft → List String → Option Command
  | d, [] => d.command?
  | d, arg :: rest =>
    match classify arg with
    | .help => some .help
    | .unknown => none
    | .endOfOptions => readPlain d rest
    | .edit =>
      match d.edit? with
      | some d => readRender d rest
      | none => none
    | .plain text =>
      match d.plain? text with
      | some d => readRender d rest
      | none => none
    | .valued option (some value) =>
      match d.valued? option value with
      | some d => readRender d rest
      | none => none
    | .valued option none =>
      match rest with
      | [] => none
      | next :: rest =>
        match classify next with
        | .plain value =>
          match d.valued? option value with
          | some d => readRender d rest
          | none => none
        | .help => some .help
        | _ => none

/-- The listing of a template that stands before the arguments, or is the only one of them. -/
def listPlain : Option String → List String → Option Command
  | some template, [] => some (.parse template)
  | none, [template] => some (.parse template)
  | _, _ => none

/-- The command of arguments of listing bindings, after the template if one has been read. -/
def readParse : Option String → List String → Option Command
  | found, [] => found.map .parse
  | found, arg :: rest =>
    match classify arg with
    | .help => some .help
    | .plain template => if found.isSome then none else readParse (some template) rest
    | .endOfOptions => listPlain found rest
    | _ => none

/-- The command that a command line asks for; `none` if it is misused. -/
def ofArguments : List String → Option Command
  | "render" :: rest => readRender {} rest
  | "parse" :: rest => readParse none rest
  | "help" :: [] | "help" :: "render" :: [] | "help" :: "parse" :: [] | "help" :: "help" :: [] =>
    some .help
  | "--version" :: _ => some .version
  | "--help" :: _ => some .help
  | first :: _ =>
    match first.toList with
    | '-' :: 'V' :: _ => some .version
    | '-' :: 'h' :: _ => some .help
    | _ => none
  | [] => none

end Command

end LiveText
