import LiveText.Text.Reader

/-!
# Blanks, comments and quoted texts in TOML

Blanks are spaces and tabs, and lines end in a line feed with or without a carriage return before
it. Quoted texts are basic, with escapes, or literal, without; tripled quotes let them span lines,
and a line break right after the opening ones does not count.
-/

namespace LiveText.Toml

open Text

/-- Whether a character is a blank within a line. -/
def isSpace (c : Char) : Bool := c = ' ' || c = '\t'

/-- The text after blanks. -/
def skipSpaces (cs : List Char) : List Char := cs.dropWhile isSpace

/-- The end of a line. -/
def lineBreak : Reader Unit
  | '\n' :: rest => some ((), rest)
  | '\r' :: '\n' :: rest => some ((), rest)
  | _ => none

/-- Whether a character may stand in a line: no control character but the tab. -/
def isPrintable (c : Char) : Bool := c = '\t' || 0x20 ≤ c.toNat && c.toNat ≠ 0x7F

/-- The text after a comment, if one stands in front. -/
def skipComment : List Char → List Char
  | '#' :: rest => rest.dropWhile isPrintable
  | cs => cs

/-- The end of a line after blanks and a comment; the end of the text counts as one. -/
def lineEnd (cs : List Char) : Option (List Char) :=
  match skipComment (skipSpaces cs) with
  | [] => some []
  | rest => (lineBreak rest).map Prod.snd

/-- The text after blanks and lines that `skip` leaves nothing of, at most so many of them. -/
def skipLines (skip : List Char → List Char) : Nat → List Char → List Char
  | 0, cs => cs
  | count + 1, cs =>
    match lineBreak (skip (skipSpaces cs)) with
    | some ((), rest) => skipLines skip count rest
    | none => skipSpaces cs

/-- The text after blanks, comments and line breaks. -/
def skipBlank (cs : List Char) : List Char := skipLines skipComment (cs.length + 1) cs

/-- The number that a run of exactly `count` hexadecimal digits denotes. -/
def hexDigits (count : Nat) : Reader Nat := fun cs =>
  let ds := cs.take count
  if ds.length = count ∧ ds.all (fun c => (Digits.inBase? 16 c).isSome) then
    some (Digits.value 16 ds, cs.drop count)
  else none

/-- The character with a number, if there is one. -/
def charOf? (n : Nat) : Option Char := if n.isValidChar then some (Char.ofNat n) else none

/-- The character that an escape stands for, after its backslash. -/
def escaped : Reader Char
  | 'b' :: rest => some ('\x08', rest)
  | 't' :: rest => some ('\t', rest)
  | 'n' :: rest => some ('\n', rest)
  | 'f' :: rest => some ('\x0c', rest)
  | 'r' :: rest => some ('\r', rest)
  | '"' :: rest => some ('"', rest)
  | '\\' :: rest => some ('\\', rest)
  | 'u' :: rest => do
    let (n, rest) ← hexDigits 4 rest
    return (← charOf? n, rest)
  | 'U' :: rest => do
    let (n, rest) ← hexDigits 8 rest
    return (← charOf? n, rest)
  | _ => none

/-- A basic text in one line, after its opening quote; the count bounds the characters. -/
def basic : Nat → Reader (List Char)
  | 0, _ => none
  | steps + 1, cs =>
    match cs with
    | '"' :: rest => some ([], rest)
    | '\\' :: rest => do
      let (c, rest) ← escaped rest
      let (more, rest) ← basic steps rest
      return (c :: more, rest)
    | c :: rest =>
      if isPrintable c then (basic steps rest).map fun (more, rest) => (c :: more, rest) else none
    | [] => none

/-- A literal text in one line, after its opening quote. -/
def literal : Reader (List Char)
  | [] => none
  | c :: rest =>
    if c = '\'' then some ([], rest)
    else if isPrintable c then (literal rest).map fun (more, rest) => (c :: more, rest)
    else none

/-- The quotes at the end of a text that spans lines: three of them, after up to two that belong to
the text. -/
def closing (quote : Char) (cs : List Char) : Option (List Char × List Char) :=
  let run := cs.takeWhile (· = quote)
  if run.length < 3 then none
  else some (List.replicate (min (run.length - 3) 2) quote, cs.drop (min run.length 5))

/-- The text after blanks and line breaks that follow a backslash at the end of a line. -/
def continued (cs : List Char) : Option (List Char) :=
  match lineBreak (skipSpaces cs) with
  | some ((), rest) => some (skipLines id (rest.length + 1) rest)
  | none => none

/-- A basic text that may span lines, after its opening quotes; the count bounds the characters. -/
def longBasic : Nat → Reader (List Char)
  | 0, _ => none
  | steps + 1, cs =>
    match closing '"' cs with
    | some (quotes, rest) => some (quotes, rest)
    | none =>
      match cs with
      | '\\' :: rest =>
        match continued rest with
        | some rest => longBasic steps rest
        | none => do
          let (c, rest) ← escaped rest
          let (more, rest) ← longBasic steps rest
          return (c :: more, rest)
      | c :: rest =>
        match lineBreak cs with
        | some ((), rest) => (longBasic steps rest).map fun (more, rest) => ('\n' :: more, rest)
        | none =>
          if isPrintable c then
            (longBasic steps rest).map fun (more, rest) => (c :: more, rest)
          else none
      | [] => none

/-- A literal text that may span lines, after its opening quotes; the count bounds the characters.
-/
def longLiteral : Nat → Reader (List Char)
  | 0, _ => none
  | steps + 1, cs =>
    match closing '\'' cs with
    | some (quotes, rest) => some (quotes, rest)
    | none =>
      match lineBreak cs with
      | some ((), rest) => (longLiteral steps rest).map fun (more, rest) => ('\n' :: more, rest)
      | none =>
        match cs with
        | c :: rest =>
          if isPrintable c then
            (longLiteral steps rest).map fun (more, rest) => (c :: more, rest)
          else none
        | [] => none

/-- The text after a line break, if one stands in front. -/
def afterLineBreak (cs : List Char) : List Char := ((lineBreak cs).map Prod.snd).getD cs

/-- A quoted text of a value. -/
def quoted : Reader (List Char)
  | '"' :: '"' :: '"' :: rest => longBasic (rest.length + 1) (afterLineBreak rest)
  | '\'' :: '\'' :: '\'' :: rest => longLiteral (rest.length + 1) (afterLineBreak rest)
  | '"' :: rest => basic (rest.length + 1) rest
  | '\'' :: rest => literal rest
  | _ => none

/-- Whether a character may stand in a key without quotes. -/
def isBareKeyChar (c : Char) : Bool := c.isAlphanum || c = '_' || c = '-'

/-- One part of a key. -/
def keyPart : Reader String
  | '"' :: rest => (basic (rest.length + 1) rest).map fun (text, rest) => (String.ofList text, rest)
  | '\'' :: rest => (literal rest).map fun (text, rest) => (String.ofList text, rest)
  | cs =>
    let name := cs.takeWhile isBareKeyChar
    if name.isEmpty then none else some (String.ofList name, cs.drop name.length)

/-- The parts of a key, with points between them; the count bounds the parts. -/
def keyParts : Nat → Reader (List String)
  | 0, _ => none
  | steps + 1, cs => do
    let (part, rest) ← keyPart (skipSpaces cs)
    match skipSpaces rest with
    | '.' :: rest => (keyParts steps rest).map fun (more, rest) => (part :: more, rest)
    | rest => some ([part], rest)

end LiveText.Toml
