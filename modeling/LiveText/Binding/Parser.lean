import LiveText.Binding.Basic
import LiveText.Notice
import LiveText.Number.Numeral
import LiveText.Template.Piece
import LiveText.Text.Letters

/-!
# Bindings of a template

The text of a token is a reference and operators, `hall.temp;/(10);round(1)`, or named references
and formulas, `h:hall.height;w:hall.width;h * w`, separated by semicolons. Which of the two it is
shows in its head. Only the first candidates of a template count, up to a limit, and of these the
ones that look like a literal brace or a JSON object are left as text.
-/

namespace LiveText.Binding

open Text

/-- Whether a character may stand in a reference after the name of an argument. -/
def isReferenceChar (c : Char) : Bool := isWord c || c = '.' || c = '-'

/-- What follows a word, a colon and possibly a blank in front of a text. -/
def afterArgName? (cs : List Char) : Option (List Char) :=
  if (cs.takeWhile isWord).isEmpty then none
  else
    match cs.dropWhile isWord with
    | ':' :: rest =>
      match rest with
      | c :: tail => some (if isBlank c then tail else rest)
      | [] => some []
    | _ => none

/-- Whether a head begins with a named reference. -/
def isFormulaHead (cs : List Char) : Bool :=
  match afterArgName? cs with
  | some (c :: _) => isReferenceChar c
  | _ => false

/-- Whether a part is a named reference and nothing else. -/
def isFormulaArg (cs : List Char) : Bool :=
  match afterArgName? cs with
  | some (c :: rest) => isReferenceChar c && rest.all isReferenceChar
  | _ => false

/-- The arguments of a formula token and its formulas, each with the arguments before it; `known`
are the arguments read so far. -/
def readFormulaParts (known : List FormulaArg) :
    List (List Char) → List FormulaArg × List (List FormulaArg × String)
  | [] => (known, [])
  | part :: rest =>
    if isFormulaArg part then readFormulaParts (known ++ (FormulaArg.ofChars? part).toList) rest
    else
      let (args, formulas) := readFormulaParts known rest
      (args, (known, String.ofList (collapse ':' part)) :: formulas)

/-- The operations of a formula token. The first formula has all arguments of the token, a later one
those before it. -/
def formulaOperations (args : List FormulaArg) :
    List (List FormulaArg × String) → List Operation
  | [] => [.eval args none]
  | (_, formula) :: later =>
    .eval args (some formula) :: later.map fun (known, formula) => .eval known (some formula)

/-- The binding of a formula token. -/
def ofFormula (token template : String) (head : List Char) (parts : List (List Char)) : Binding :=
  let (args, formulas) := readFormulaParts (FormulaArg.ofChars? head).toList parts
  { state := (args.head?.map FormulaArg.state).getD ""
    system := (args.head?.map FormulaArg.system).getD ""
    token := token
    operations := formulaOperations args formulas
    template := template
    isSeconds := false }

/-- Whether a character may stand in the name of an operator. -/
def isOperatorChar (c : Char) : Bool :=
  isWord c || isBlank c || c = '/' || c = '+' || c = '*' || c = '%' || c = '-'

/-- The text between an opening parenthesis in front and the last closing one. -/
def readArgument : List Char → Option (List Char)
  | '(' :: rest => (cutLast? ')' rest).map fun (arg, _) => trim arg
  | _ => none

/-- The number that an argument spells, with the first comma read as a point; `nan` if it spells
none. -/
def argumentNumber (arg : List Char) : Double :=
  Numeral.readPrefix (replaceFirst [','] ['.'] arg)

/-- An operation, unless it was dropped, and the notices about it. -/
abbrev Reading := Option Operation × List Notice

/-- An operation with a number that must be given. -/
def required (name : List Char) (make : Option Double → Operation) : Option (List Char) → Reading
  | none => (none, [.argumentMissing (String.ofList name)])
  | some arg =>
    if (argumentNumber arg).isNaN then
      (none, [.argumentRefused (String.ofList name) (String.ofList arg)])
    else (some (make (some (argumentNumber arg))), [])

/-- An operation with a number that may be given. -/
def optional (name : List Char) (make : Option Double → Operation) : Option (List Char) → Reading
  | none => (some (make none), [])
  | some arg => required name make (some arg)

/-- The text of an argument, empty if none is given. -/
def textOf (arg : Option (List Char)) : String := String.ofList (arg.getD [])

/-- The items between commas; none if no argument is given. -/
def itemsOf : Option (List Char) → List String
  | none => []
  | some arg => (arg.splitOn ',').map fun item => String.ofList (trim item)

/-- The operation with the given name and argument. -/
def operationOf (name : List Char) (arg : Option (List Char)) : Reading :=
  match String.ofList name with
  | "*" => required name (.arithmetic .multiply) arg
  | "/" => required name (.arithmetic .divide) arg
  | "+" => required name (.arithmetic .add) arg
  | "-" => required name (.arithmetic .subtract) arg
  | "%" => required name (.arithmetic .remainder) arg
  | "min" => required name .min arg
  | "max" => required name .max arg
  | "round" => optional name .round arg
  | "pow" => optional name .pow arg
  | "random" => optional name .random arg
  | "date" => (some (.date (textOf arg)), [])
  | "momentDate" => (some (.momentDate (textOf arg)), [])
  | "json" => (some (.json (textOf arg)), [])
  | "value" => (some (.value (String.ofList (arg.getD ['2']))), [])
  | "array" => (some (.array (itemsOf arg)), [])
  | "sqrt" => (some .sqrt, [])
  | "hex" => (some (.hex false false), [])
  | "HEX" => (some (.hex true false), [])
  | "hex2" => (some (.hex false true), [])
  | "HEX2" => (some (.hex true true), [])
  | "floor" => (some .floor, [])
  | "ceil" => (some .ceil, [])
  | other => (some (.unknown other), [])

/-- The operation that a part spells. A part that begins with no name is unknown as a whole. -/
def readOperation (part : List Char) : Reading :=
  let name := part.takeWhile isOperatorChar
  if name.isEmpty then (some (.unknown (String.ofList part)), [])
  else operationOf (trim name) (readArgument (part.dropWhile isOperatorChar))

/-- The binding of a token with operators. -/
def ofOperators (token template : String) (head : List Char) (parts : List (List Char)) :
    Binding × List Notice :=
  let reference := Reference.ofChars head
  let readings := parts.map readOperation
  ({ state := reference.state
     system := reference.system
     token := token
     operations := readings.filterMap Prod.fst
     template := template
     isSeconds := reference.isSeconds },
   readings.flatMap Prod.snd)

/-- The binding of a token with the given inner text. -/
def ofInner (template : String) (inner : List Char) : Binding × List Notice :=
  let token := String.ofList (Piece.token inner)
  match (inner.splitOn ';').map trim with
  | [] => ofOperators token template [] []
  | head :: parts =>
    if isFormulaHead head || head.isEmpty && !parts.isEmpty then
      (ofFormula token template head parts, [])
    else ofOperators token template head parts

/-- Whether a candidate is left as text: it looks like a literal brace or a JSON object. -/
def isSkipped (inner : List Char) : Bool := inner.head? = some '{' || inner.head? = some '"'

/-- The inner texts of the candidates of a template. -/
def candidates (template : String) : List (List Char) :=
  (Piece.scan template.toList).filterMap Piece.inner?

/-- The bindings of a template, if it has any, and the notices about it. At most `limit` candidates
are processed. -/
def parse (limit : Nat) (template : String) : Option (List Binding) × List Notice :=
  let found := candidates template
  let overflow := if limit < found.length then [Notice.tooManyTokens found.length limit] else []
  let read := ((found.take limit).filter (!isSkipped ·)).map (ofInner template)
  let bindings := read.map Prod.fst
  (if bindings.isEmpty then none else some bindings, overflow ++ read.flatMap Prod.snd)

end LiveText.Binding
