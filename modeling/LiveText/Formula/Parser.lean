import LiveText.Formula.Expr
import LiveText.Formula.Lexeme

/-!
# Reading formulas

Expressions are read by precedence: a conditional over connectives of six levels, over operators in
front of an operand, over accesses, over primaries. A depth counter bounds the nesting: it rises
with every parenthesis, list, operator and access, and falls again where the part that raised it
ends. How the counter moves is the `Descent` of a reading; that of formulas goes down to a limit
(`Descent.upTo`). The functions recurse on a reserve that `Formula.parse` chooses large enough for
every list of tokens.
-/

namespace LiveText

/-- The limits of one formula. -/
structure FormulaLimits where
  /-- The most nodes that are evaluated, the work of helpers included. -/
  maxSteps : Nat := 10000
  /-- The deepest nesting. -/
  maxDepth : Nat := 64
deriving DecidableEq, Repr

/-- What is left to read, and the depth reached. -/
structure Cursor where
  rest : List PlacedToken
  depth : Nat
deriving DecidableEq

namespace Cursor

/-- One level deeper, unless that is beyond the limit. -/
def enter (limit : Nat) (c : Cursor) : Except FormulaError Cursor :=
  if limit < c.depth + 1 then .error (.tooDeep limit) else .ok { c with depth := c.depth + 1 }

/-- One level up. -/
def leave (c : Cursor) : Cursor := { c with depth := c.depth - 1 }

/-- Back at a depth. -/
def atDepth (depth : Nat) (c : Cursor) : Cursor := { c with depth := depth }

/-- Past one token. -/
def skip (c : Cursor) : Cursor := { c with rest := c.rest.tail }

/-- The punctuation in front. -/
def punct? (c : Cursor) : Option Punct :=
  match c.rest with
  | ⟨.punct p, _⟩ :: _ => some p
  | _ => none

/-- Past a punctuation, if it stands in front. -/
def eat? (p : Punct) (c : Cursor) : Option Cursor :=
  if c.punct? = some p then some c.skip else none

/-- The failure of not going on as expected. -/
def unexpected (expected : Expectation) (c : Cursor) : FormulaError :=
  match c.rest with
  | ⟨token, position⟩ :: _ => .unexpectedToken token expected position
  | [] => .unexpectedEnd

/-- Past a punctuation that has to stand in front. -/
def expect (p : Punct) (c : Cursor) : Except FormulaError Cursor :=
  match c.eat? p with
  | some c => .ok c
  | none => .error (c.unexpected (.punct p))

end Cursor

/-- How a reading goes down a level and comes up again, and how it fails. -/
structure Descent (ε : Type) where
  /-- One level deeper. -/
  enter : Cursor → Except ε Cursor
  /-- One level up. -/
  leave : Cursor → Except ε Cursor
  /-- Back at a depth. -/
  atDepth : Nat → Cursor → Except ε Cursor
  /-- What does not change the depth, with the errors of formulas as failures. -/
  lift : {α : Type} → Except FormulaError α → Except ε α
  /-- The failure for want of a reserve. -/
  exhausted : ε

/-- Down to a limit, and up without fail. -/
def Descent.upTo (limit : Nat) : Descent FormulaError where
  enter := Cursor.enter limit
  leave := fun c => .ok c.leave
  atDepth := fun depth c => .ok (c.atDepth depth)
  lift := id
  exhausted := .tooDeep limit

namespace Formula

mutual

/-- A whole expression. -/
def expression {ε : Type} (descent : Descent ε) : Nat → Cursor → Except ε (Expr × Cursor)
  | 0, _ => .error descent.exhausted
  | reserve + 1, c => do
    let c ← descent.enter c
    let (test, c) ← operands descent reserve 1 c
    match c.eat? .question with
    | none =>
      let c ← descent.leave c
      .ok (test, c)
    | some c =>
      let (yes, c) ← expression descent reserve c
      let c ← descent.lift (c.expect .colon)
      let (no, c) ← expression descent reserve c
      let c ← descent.leave c
      .ok (.conditional test yes no, c)

/-- Operands with connectives that bind at least as tightly as `level`. -/
def operands {ε : Type} (descent : Descent ε) : Nat → Nat → Cursor → Except ε (Expr × Cursor)
  | 0, _, _ => .error descent.exhausted
  | reserve + 1, level, c => do
    let (left, c) ← operand descent reserve c
    let (e, after) ← chain descent reserve level left c
    let after ← descent.atDepth c.depth after
    .ok (e, after)

/-- The links of a chain of connectives that begins with `left`. -/
def chain {ε : Type} (descent : Descent ε) : Nat → Nat → Expr → Cursor → Except ε (Expr × Cursor)
  | 0, _, _, _ => .error descent.exhausted
  | reserve + 1, level, left, c =>
    match c.punct?.bind Punct.connective? with
    | none => .ok (left, c)
    | some (tightness, connective) =>
      if tightness < level then .ok (left, c)
      else do
        let c ← descent.enter c.skip
        let (right, c) ← operands descent reserve (tightness + 1) c
        chain descent reserve level (connective.join left right) c

/-- An operand with the operators in front of it. -/
def operand {ε : Type} (descent : Descent ε) : Nat → Cursor → Except ε (Expr × Cursor)
  | 0, _ => .error descent.exhausted
  | reserve + 1, c =>
    match c.punct?.bind Punct.unary? with
    | none => accessed descent reserve c
    | some op => do
      let c ← descent.enter c.skip
      let (e, c) ← operand descent reserve c
      let c ← descent.leave c
      .ok (.unary op e, c)

/-- A primary with the accesses after it. -/
def accessed {ε : Type} (descent : Descent ε) : Nat → Cursor → Except ε (Expr × Cursor)
  | 0, _ => .error descent.exhausted
  | reserve + 1, c => do
    let (e, c) ← primary descent reserve c
    let (e, after) ← accesses descent reserve e c
    let after ← descent.atDepth c.depth after
    .ok (e, after)

/-- The accesses to the value of `e`: properties, items and calls. -/
def accesses {ε : Type} (descent : Descent ε) : Nat → Expr → Cursor → Except ε (Expr × Cursor)
  | 0, _, _ => .error descent.exhausted
  | reserve + 1, e, c =>
    match c.punct? with
    | some .dot => do
      let c ← descent.enter c.skip
      match c.rest with
      | ⟨.name property, _⟩ :: _ => accesses descent reserve (.member e property) c.skip
      | _ => descent.lift (.error (c.unexpected .propertyName))
    | some .openBracket => do
      let c ← descent.enter c.skip
      let (key, c) ← expression descent reserve c
      let c ← descent.lift (c.expect .closeBracket)
      accesses descent reserve (.index e key) c
    | some .openParen => do
      let c ← descent.enter c.skip
      let (args, c) ← list descent reserve .closeParen c
      accesses descent reserve (.call e args) c
    | _ => .ok (e, c)

/-- The expressions up to `close`, whose opening partner has been read. -/
def list {ε : Type} (descent : Descent ε) : Nat → Punct → Cursor → Except ε (List Expr × Cursor)
  | 0, _, _ => .error descent.exhausted
  | reserve + 1, close, c =>
    match c.eat? close with
    | some c => .ok ([], c)
    | none => items descent reserve close c

/-- One expression at least, and further ones after commas, up to `close`. -/
def items {ε : Type} (descent : Descent ε) : Nat → Punct → Cursor → Except ε (List Expr × Cursor)
  | 0, _, _ => .error descent.exhausted
  | reserve + 1, close, c => do
    let (item, c) ← expression descent reserve c
    match c.eat? close with
    | some c => .ok ([item], c)
    | none =>
      match c.eat? .comma with
      | none => descent.lift (.error (c.unexpected (.commaOr close)))
      | some c =>
        let (more, c) ← items descent reserve close c
        .ok (item :: more, c)

/-- A literal, a name, an expression in parentheses or a list. -/
def primary {ε : Type} (descent : Descent ε) : Nat → Cursor → Except ε (Expr × Cursor)
  | 0, _ => .error descent.exhausted
  | reserve + 1, c =>
    match c.rest with
    | [] => descent.lift (.error .unexpectedEnd)
    | ⟨token, position⟩ :: _ =>
      match token with
      | .number x => .ok (.literal (.number x), c.skip)
      | .string s => .ok (.literal (.string s), c.skip)
      | .name name => .ok (Expr.ofName name, c.skip)
      | .punct .openParen => do
        let (e, c) ← expression descent reserve c.skip
        let c ← descent.lift (c.expect .closeParen)
        .ok (e, c)
      | .punct .openBracket => do
        let c ← descent.enter c.skip
        let (items, c) ← list descent reserve .closeBracket c
        let c ← descent.leave c
        .ok (.list items, c)
      | .punct _ => descent.lift (.error (.unexpectedToken token .value position))

end

/-- A reserve that no list of so many tokens exhausts. -/
def reserveFor (count : Nat) : Nat := 8 * count + 8

/-- The expression that tokens make up as a whole. -/
def ofTokens (limit : Nat) (tokens : List PlacedToken) : Except FormulaError Expr := do
  let (e, c) ← expression (.upTo limit) (reserveFor tokens.length) ⟨tokens, 0⟩
  match c.rest with
  | [] => .ok e
  | ⟨token, position⟩ :: _ => .error (.unexpectedToken token .theEnd position)

/-- The expression that a text spells. -/
def parse (source : String) (limits : FormulaLimits) : Except FormulaError Expr := do
  let tokens ← Lexeme.tokens 0 source.toList
  ofTokens limits.maxDepth tokens

end Formula

end LiveText
