import LiveText.Json.Basic

/-!
# Reading JSON

Documents of RFC 8259 with at most `maxNesting` levels of arrays and objects. Members are put in key
order, and of two with one key the later counts. A number with a fraction or an exponent is read
from its leading digits, as many as fit in 64 bits: their double is multiplied or divided by the
double of a power of ten, and a number too large for a double is refused.
-/

namespace LiveText.Json

/-- The levels of nesting that are read. -/
def maxNesting : Nat := 127

/-- Whether a character may stand between the parts of a document. -/
def isSpace (c : Char) : Bool := c = ' ' || c = '\n' || c = '\t' || c = '\r'

/-- The text after the spaces in front. -/
def skipSpace (cs : List Char) : List Char := cs.dropWhile isSpace

/-! ## Strings -/

/-- The number of four hexadecimal digits. -/
def hex4? (a b c d : Char) : Option Nat := do
  let a ← Digits.inBase? 16 a
  let b ← Digits.inBase? 16 b
  let c ← Digits.inBase? 16 c
  let d ← Digits.inBase? 16 d
  pure (((a * 16 + b) * 16 + c) * 16 + d)

/-- The character that a one-letter escape stands for. -/
def shortEscape? (c : Char) : Option Char :=
  if c = '"' then some '"'
  else if c = '\\' then some '\\'
  else if c = '/' then some '/'
  else if c = 'b' then some '\x08'
  else if c = 'f' then some '\x0c'
  else if c = 'n' then some '\n'
  else if c = 'r' then some '\r'
  else if c = 't' then some '\t'
  else none

/-- Whether a 16-bit unit opens a pair. -/
def isHighUnit (n : Nat) : Bool := 0xD800 ≤ n && n < 0xDC00

/-- Whether a 16-bit unit closes a pair. -/
def isLowUnit (n : Nat) : Bool := 0xDC00 ≤ n && n < 0xE000

/-- The characters up to the closing quote, and the text after it. -/
def readQuoted : List Char → Option (List Char × List Char)
  | [] => none
  | '"' :: rest => some ([], rest)
  | '\\' :: 'u' :: a :: b :: c :: d :: '\\' :: 'u' :: e :: f :: g :: h :: rest =>
    match hex4? a b c d with
    | none => none
    | some high =>
      if isHighUnit high then
        match hex4? e f g h with
        | none => none
        | some low =>
          if isLowUnit low then
            (readQuoted rest).map fun (cs, after) =>
              (Char.ofNat (0x10000 + (high - 0xD800) * 0x400 + (low - 0xDC00)) :: cs, after)
          else none
      else if isLowUnit high then none
      else
        (readQuoted ('\\' :: 'u' :: e :: f :: g :: h :: rest)).map fun (cs, after) =>
          (Char.ofNat high :: cs, after)
  | '\\' :: 'u' :: a :: b :: c :: d :: rest =>
    match hex4? a b c d with
    | none => none
    | some n =>
      if isHighUnit n || isLowUnit n then none
      else (readQuoted rest).map fun (cs, after) => (Char.ofNat n :: cs, after)
  | '\\' :: c :: rest =>
    match shortEscape? c with
    | none => none
    | some c => (readQuoted rest).map fun (cs, after) => (c :: cs, after)
  | c :: rest =>
    if c.toNat < 0x20 || c = '\\' then none
    else (readQuoted rest).map fun (cs, after) => (c :: cs, after)
termination_by cs => cs.length

/-! ## Numbers -/

/-- The largest significand that is kept. -/
def maxSignificand : Nat := 0xFFFFFFFFFFFFFFFF

/-- Appends digits to a significand as long as it stays within bounds, and counts the appended and
the dropped ones. -/
def takeDigits (significand : Nat) : List Char → Nat × Nat × Nat
  | [] => (significand, 0, 0)
  | c :: rest =>
    let next := significand * 10 + (Digits.digit? c).getD 0
    if maxSignificand < next then (significand, 0, rest.length + 1)
    else
      let (s, taken, dropped) := takeDigits next rest
      (s, taken + 1, dropped)

/-- The double of a power of ten. -/
def powerOfTen (n : Nat) : Double := Double.ofDecimal false 1 n

/-- A double divided by `10^places`, in steps that are themselves doubles. -/
def scaleDown (x : Double) (places : Nat) : Double :=
  if places ≤ 308 then x / powerOfTen places
  else if x.isZero then x
  else scaleDown (x / powerOfTen 308) (places - 308)
termination_by places

/-- A significand scaled by a power of ten, unless it leaves the range of a double. -/
def scale? (significand : Nat) (exponent : Int) : Option Double :=
  let x := Double.ofNat significand
  if exponent < 0 then some (scaleDown x exponent.natAbs)
  else if significand = 0 then some x
  else if 308 < exponent then none
  else
    let y := x * powerOfTen exponent.toNat
    if y.isFinite then some y else none

/-- The digits of an exponent with its sign, and the text after them. -/
def readExponent (cs : List Char) : Option (Int × List Char) :=
  let (negative, tail) := match cs with
    | '+' :: rest => (false, rest)
    | '-' :: rest => (true, rest)
    | rest => (false, rest)
  let digits := tail.takeWhile Char.isDigit
  if digits.isEmpty then none
  else
    let size : Int := Digits.value 10 digits
    some (if negative then -size else size, tail.dropWhile Char.isDigit)

/-- The fraction digits after a point, and the text after them; `none` if the point has none. -/
def readFraction (cs : List Char) : Option (List Char × List Char) :=
  match cs with
  | '.' :: rest =>
    let digits := rest.takeWhile Char.isDigit
    if digits.isEmpty then none else some (digits, rest.dropWhile Char.isDigit)
  | rest => some ([], rest)

/-- An optional exponent after its mark, and the text after it. -/
def readPower (cs : List Char) : Option (Option Int × List Char) :=
  match cs with
  | 'e' :: rest | 'E' :: rest => (readExponent rest).map fun (n, after) => (some n, after)
  | rest => some (none, rest)

/-- The number with the given parts. -/
def numberOf (negative : Bool) (whole fraction : List Char) (power : Option Int) : Option Json :=
  let (significand, _, droppedWhole) := takeDigits 0 whole
  if fraction.isEmpty ∧ power.isNone ∧ droppedWhole = 0 then
    if negative ∧ significand = 0 then some (.real (Double.zero true))
    else some (.integer (if negative then -significand else significand))
  else
    let (significand, taken, _) := takeDigits significand fraction
    match scale? significand (droppedWhole - taken + power.getD 0) with
    | none => none
    | some x => some (.real (if negative then -x else x))

/-- The number in front of a text, and the text after it. -/
def readNumber (cs : List Char) : Option (Json × List Char) := do
  let (negative, cs) := match cs with
    | '-' :: rest => (true, rest)
    | rest => (false, rest)
  let whole := cs.takeWhile Char.isDigit
  if whole.isEmpty || (whole.head? == some '0' && whole.length != 1) then none
  else
    let (fraction, cs) ← readFraction (cs.dropWhile Char.isDigit)
    let (power, cs) ← readPower cs
    let number ← numberOf negative whole fraction power
    pure (number, cs)

/-! ## Documents -/

/-- A reader of the document in front of a text. -/
abbrev Reader := List Char → Option (Json × List Char)

/-- Items up to the closing bracket, given the reader of one item; `bound` limits their count. -/
def readItems (item : Reader) : Nat → List Char → Option (List Json × List Char)
  | 0, _ => none
  | bound + 1, cs =>
    match item cs with
    | none => none
    | some (value, cs) =>
      match skipSpace cs with
      | ',' :: rest => (readItems item bound rest).map fun (items, after) => (value :: items, after)
      | ']' :: rest => some ([value], rest)
      | _ => none

/-- Members up to the closing brace, given the reader of one value; `bound` limits their count. -/
def readMembers (item : Reader) : Nat → List Char → Option (List (String × Json) × List Char)
  | 0, _ => none
  | bound + 1, cs =>
    match skipSpace cs with
    | '"' :: rest =>
      match readQuoted rest with
      | none => none
      | some (key, cs) =>
        match skipSpace cs with
        | ':' :: rest =>
          match item rest with
          | none => none
          | some (value, cs) =>
            let entry := (String.ofList key, value)
            match skipSpace cs with
            | ',' :: rest =>
              (readMembers item bound rest).map fun (members, after) => (entry :: members, after)
            | '}' :: rest => some ([entry], rest)
            | _ => none
        | _ => none
    | _ => none

/-- The text after a word. -/
def readWord (word : String) (json : Json) (cs : List Char) : Option (Json × List Char) :=
  (word.toList.isPrefixOf? cs).map fun rest => (json, rest)

/-- The document in front of a text with at most `depth` levels of nesting, and the text after it.
-/
def readValue : Nat → Reader
  | depth, cs =>
    match skipSpace cs with
    | [] => none
    | '"' :: rest => (readQuoted rest).map fun (s, after) => (.string (String.ofList s), after)
    | '[' :: rest =>
      match depth with
      | 0 => none
      | depth + 1 =>
        match skipSpace rest with
        | ']' :: after => some (.array [], after)
        | rest => (readItems (readValue depth) (rest.length + 1) rest).map fun (items, after) =>
          (.array items, after)
    | '{' :: rest =>
      match depth with
      | 0 => none
      | depth + 1 =>
        match skipSpace rest with
        | '}' :: after => some (.object [], after)
        | rest => (readMembers (readValue depth) (rest.length + 1) rest).map fun (members, after) =>
          (.object (Members.ofList members), after)
    | 'n' :: rest => readWord "null" .null ('n' :: rest)
    | 't' :: rest => readWord "true" (.bool true) ('t' :: rest)
    | 'f' :: rest => readWord "false" (.bool false) ('f' :: rest)
    | rest => readNumber rest

/-- The document that a text is as a whole. -/
def readChars (cs : List Char) : Option Json :=
  match readValue maxNesting cs with
  | some (json, rest) => if (skipSpace rest).isEmpty then some json else none
  | none => none

/-- The document that a text is as a whole. -/
def read (text : String) : Option Json := readChars text.toList

end LiveText.Json
