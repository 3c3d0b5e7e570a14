import LiveText.Formula.Parser

/-!
# The steps of the reading of formulas

What has been read with a reserve was read in one of a few ways from parts that have been read with
one less. For every part of a formula these ways are listed once, with what has to stand in front
for each of them.
-/

namespace LiveText

/-- An outcome of two steps comes from an outcome of the first one. -/
theorem exists_ok_of_bind {α β : Type} {x : Except FormulaError α} {f : α → Except FormulaError β}
    {b : β} (h : x >>= f = .ok b) : ∃ a, x = .ok a ∧ f a = .ok b := by
  cases x with
  | error e => cases h
  | ok a => exact ⟨a, rfl, h⟩

namespace Formula

/-- The punctuation that accesses begin with. -/
def accessPunctuation : List Punct := [.dot, .openBracket, .openParen]

/-- The ways to read a whole expression. -/
inductive ExpressionStep (limit reserve : Nat) (c : Cursor) : Expr → Cursor → Prop
  | operands {c₁ c₂ : Cursor} {e : Expr} (henter : c.enter limit = .ok c₁)
      (hread : operands (.upTo limit) reserve 1 c₁ = .ok (e, c₂))
      (hend : c₂.eat? .question = none) :
      ExpressionStep limit reserve c e c₂.leave
  | conditional {c₁ c₂ c₃ c₄ c₅ c₆ : Cursor} {test yes no : Expr} (henter : c.enter limit = .ok c₁)
      (htest : operands (.upTo limit) reserve 1 c₁ = .ok (test, c₂))
      (heat : c₂.eat? .question = some c₃)
      (hyes : expression (.upTo limit) reserve c₃ = .ok (yes, c₄))
      (hexpect : c₄.expect .colon = .ok c₅)
      (hno : expression (.upTo limit) reserve c₅ = .ok (no, c₆)) :
      ExpressionStep limit reserve c (.conditional test yes no) c₆.leave

/-- The ways to go on with a chain of connectives. -/
inductive ChainStep (limit reserve level : Nat) (left : Expr) (c : Cursor) : Expr → Cursor → Prop
  | stop (hloose : ∀ tightness op, c.punct?.bind Punct.connective? = some (tightness, op) →
      tightness < level) : ChainStep limit reserve level left c left c
  | link {tightness : Nat} {op : Connective} {c₁ c₂ c' : Cursor} {right e : Expr}
      (hop : c.punct?.bind Punct.connective? = some (tightness, op)) (htight : level ≤ tightness)
      (henter : c.skip.enter limit = .ok c₁)
      (hright : operands (.upTo limit) reserve (tightness + 1) c₁ = .ok (right, c₂))
      (hchain : chain (.upTo limit) reserve level (op.join left right) c₂ = .ok (e, c')) :
      ChainStep limit reserve level left c e c'

/-- The ways to read an operand. -/
inductive OperandStep (limit reserve : Nat) (c : Cursor) : Expr → Cursor → Prop
  | accessed {c' : Cursor} {e : Expr} (hplain : c.punct?.bind Punct.unary? = none)
      (hread : accessed (.upTo limit) reserve c = .ok (e, c')) : OperandStep limit reserve c e c'
  | unary {op : UnaryOp} {c₁ c₂ : Cursor} {e : Expr} (hop : c.punct?.bind Punct.unary? = some op)
      (henter : c.skip.enter limit = .ok c₁)
      (hread : operand (.upTo limit) reserve c₁ = .ok (e, c₂)) :
      OperandStep limit reserve c (.unary op e) c₂.leave

/-- The ways to go on with accesses. -/
inductive AccessesStep (limit reserve : Nat) (first : Expr) (c : Cursor) : Expr → Cursor → Prop
  | stop (hend : ∀ p ∈ accessPunctuation, c.punct? ≠ some p) :
      AccessesStep limit reserve first c first c
  | member {c₁ c' : Cursor} {property : String} {position : Nat} {rest : List PlacedToken}
      {e : Expr} (hdot : c.punct? = some .dot) (henter : c.skip.enter limit = .ok c₁)
      (hname : c₁.rest = ⟨.name property, position⟩ :: rest)
      (haccesses : accesses (.upTo limit) reserve (.member first property) c₁.skip = .ok (e, c')) :
      AccessesStep limit reserve first c e c'
  | index {c₁ c₂ c₃ c' : Cursor} {key e : Expr} (hopen : c.punct? = some .openBracket)
      (henter : c.skip.enter limit = .ok c₁)
      (hkey : expression (.upTo limit) reserve c₁ = .ok (key, c₂))
      (hclose : c₂.expect .closeBracket = .ok c₃)
      (haccesses : accesses (.upTo limit) reserve (.index first key) c₃ = .ok (e, c')) :
      AccessesStep limit reserve first c e c'
  | call {c₁ c₂ c' : Cursor} {args : List Expr} {e : Expr} (hopen : c.punct? = some .openParen)
      (henter : c.skip.enter limit = .ok c₁)
      (hargs : list (.upTo limit) reserve .closeParen c₁ = .ok (args, c₂))
      (haccesses : accesses (.upTo limit) reserve (.call first args) c₂ = .ok (e, c')) :
      AccessesStep limit reserve first c e c'

/-- The ways to read a list. -/
inductive ListStep (limit reserve : Nat) (close : Punct) (c : Cursor) : List Expr → Cursor → Prop
  | empty {c' : Cursor} (hclose : c.eat? close = some c') : ListStep limit reserve close c [] c'
  | items {c' : Cursor} {es : List Expr} (hopen : c.eat? close = none)
      (hitems : items (.upTo limit) reserve close c = .ok (es, c')) :
      ListStep limit reserve close c es c'

/-- The ways to read the items of a list. -/
inductive ItemsStep (limit reserve : Nat) (close : Punct) (c : Cursor) : List Expr → Cursor → Prop
  | last {c₁ c' : Cursor} {item : Expr}
      (hitem : expression (.upTo limit) reserve c = .ok (item, c₁))
      (hclose : c₁.eat? close = some c') : ItemsStep limit reserve close c [item] c'
  | more {c₁ c₂ c' : Cursor} {item : Expr} {es : List Expr}
      (hitem : expression (.upTo limit) reserve c = .ok (item, c₁)) (hopen : c₁.eat? close = none)
      (hcomma : c₁.eat? .comma = some c₂)
      (hmore : items (.upTo limit) reserve close c₂ = .ok (es, c')) :
      ItemsStep limit reserve close c (item :: es) c'

/-- The ways to read a primary. -/
inductive PrimaryStep (limit reserve : Nat) (c : Cursor) : Expr → Cursor → Prop
  | number {x : Double} {position : Nat} {rest : List PlacedToken}
      (hrest : c.rest = ⟨.number x, position⟩ :: rest) :
      PrimaryStep limit reserve c (.literal (.number x)) c.skip
  | string {s : String} {position : Nat} {rest : List PlacedToken}
      (hrest : c.rest = ⟨.string s, position⟩ :: rest) :
      PrimaryStep limit reserve c (.literal (.string s)) c.skip
  | name {name : String} {position : Nat} {rest : List PlacedToken}
      (hrest : c.rest = ⟨.name name, position⟩ :: rest) :
      PrimaryStep limit reserve c (Expr.ofName name) c.skip
  | parenthesized {position : Nat} {rest : List PlacedToken} {c₁ c₂ : Cursor} {e : Expr}
      (hrest : c.rest = ⟨.punct .openParen, position⟩ :: rest)
      (hread : expression (.upTo limit) reserve c.skip = .ok (e, c₁))
      (hclose : c₁.expect .closeParen = .ok c₂) : PrimaryStep limit reserve c e c₂
  | list {position : Nat} {rest : List PlacedToken} {c₁ c₂ : Cursor} {es : List Expr}
      (hrest : c.rest = ⟨.punct .openBracket, position⟩ :: rest)
      (henter : c.skip.enter limit = .ok c₁)
      (hlist : list (.upTo limit) reserve .closeBracket c₁ = .ok (es, c₂)) :
      PrimaryStep limit reserve c (.list es) c₂.leave

variable {limit reserve : Nat} {c c' : Cursor} {e : Expr} {es : List Expr} {close : Punct}

theorem expression_step (h : expression (.upTo limit) (reserve + 1) c = .ok (e, c')) :
    ExpressionStep limit reserve c e c' := by
  rw [expression] at h
  obtain ⟨c₁, henter, h⟩ := exists_ok_of_bind h
  obtain ⟨⟨test, c₂⟩, htest, h⟩ := exists_ok_of_bind h
  dsimp only at h
  cases heat : c₂.eat? .question with
  | none =>
    rw [heat] at h
    cases h
    exact .operands henter htest heat
  | some c₃ =>
    rw [heat] at h
    obtain ⟨⟨yes, c₄⟩, hyes, h⟩ := exists_ok_of_bind h
    obtain ⟨c₅, hexpect, h⟩ := exists_ok_of_bind h
    obtain ⟨⟨no, c₆⟩, hno, h⟩ := exists_ok_of_bind h
    cases h
    exact .conditional henter htest heat hyes hexpect hno

theorem operands_step {level : Nat}
    (h : operands (.upTo limit) (reserve + 1) level c = .ok (e, c')) :
    ∃ left c₁ c₂, operand (.upTo limit) reserve c = .ok (left, c₁) ∧
      chain (.upTo limit) reserve level left c₁ = .ok (e, c₂) ∧ c' = c₂.atDepth c₁.depth := by
  rw [operands] at h
  obtain ⟨⟨left, c₁⟩, hleft, h⟩ := exists_ok_of_bind h
  obtain ⟨⟨whole, c₂⟩, hchain, h⟩ := exists_ok_of_bind h
  cases h
  exact ⟨left, c₁, c₂, hleft, hchain, rfl⟩

theorem chain_step {level : Nat} {left : Expr}
    (h : chain (.upTo limit) (reserve + 1) level left c = .ok (e, c')) :
    ChainStep limit reserve level left c e c' := by
  rw [chain] at h
  cases hlink : c.punct?.bind Punct.connective? with
  | none =>
    rw [hlink] at h
    cases h
    refine .stop fun _ _ hop => ?_
    rw [hlink] at hop
    cases hop
  | some link =>
    obtain ⟨tightness, op⟩ := link
    rw [hlink] at h
    dsimp only at h
    by_cases hloose : tightness < level
    · rw [if_pos hloose] at h
      cases h
      refine .stop fun _ _ hop => ?_
      rw [hlink] at hop
      cases hop
      exact hloose
    · rw [if_neg hloose] at h
      obtain ⟨c₁, henter, h⟩ := exists_ok_of_bind h
      obtain ⟨⟨right, c₂⟩, hright, h⟩ := exists_ok_of_bind h
      exact .link hlink (Nat.le_of_not_lt hloose) henter hright h

theorem operand_step (h : operand (.upTo limit) (reserve + 1) c = .ok (e, c')) :
    OperandStep limit reserve c e c' := by
  rw [operand] at h
  cases hunary : c.punct?.bind Punct.unary? with
  | none =>
    rw [hunary] at h
    exact .accessed hunary h
  | some op =>
    rw [hunary] at h
    obtain ⟨c₁, henter, h⟩ := exists_ok_of_bind h
    obtain ⟨⟨inner, c₂⟩, hinner, h⟩ := exists_ok_of_bind h
    cases h
    exact .unary hunary henter hinner

theorem accessed_step (h : accessed (.upTo limit) (reserve + 1) c = .ok (e, c')) :
    ∃ first c₁ c₂, primary (.upTo limit) reserve c = .ok (first, c₁) ∧
      accesses (.upTo limit) reserve first c₁ = .ok (e, c₂) ∧ c' = c₂.atDepth c₁.depth := by
  rw [accessed] at h
  obtain ⟨⟨first, c₁⟩, hfirst, h⟩ := exists_ok_of_bind h
  obtain ⟨⟨whole, c₂⟩, haccesses, h⟩ := exists_ok_of_bind h
  cases h
  exact ⟨first, c₁, c₂, hfirst, haccesses, rfl⟩

theorem accesses_step {first : Expr}
    (h : accesses (.upTo limit) (reserve + 1) first c = .ok (e, c')) :
    AccessesStep limit reserve first c e c' := by
  rw [accesses] at h
  split at h
  case h_1 hdot =>
    obtain ⟨c₁, henter, h⟩ := exists_ok_of_bind h
    split at h
    case h_1 hname => exact .member hdot henter hname h
    case h_2 => cases h
  case h_2 hopen =>
    obtain ⟨c₁, henter, h⟩ := exists_ok_of_bind h
    obtain ⟨⟨key, c₂⟩, hkey, h⟩ := exists_ok_of_bind h
    obtain ⟨c₃, hclose, h⟩ := exists_ok_of_bind h
    exact .index hopen henter hkey hclose h
  case h_3 hopen =>
    obtain ⟨c₁, henter, h⟩ := exists_ok_of_bind h
    obtain ⟨⟨args, c₂⟩, hargs, h⟩ := exists_ok_of_bind h
    exact .call hopen henter hargs h
  case h_4 hdot hbracket hparen =>
    cases h
    refine .stop fun p hmem => ?_
    simp only [accessPunctuation, List.mem_cons, List.not_mem_nil, or_false] at hmem
    rcases hmem with rfl | rfl | rfl
    · exact hdot
    · exact hbracket
    · exact hparen

theorem list_step (h : list (.upTo limit) (reserve + 1) close c = .ok (es, c')) :
    ListStep limit reserve close c es c' := by
  rw [list] at h
  cases heat : c.eat? close with
  | none =>
    rw [heat] at h
    exact .items heat h
  | some c₁ =>
    rw [heat] at h
    cases h
    exact .empty heat

theorem items_step (h : items (.upTo limit) (reserve + 1) close c = .ok (es, c')) :
    ItemsStep limit reserve close c es c' := by
  rw [items] at h
  obtain ⟨⟨item, c₁⟩, hitem, h⟩ := exists_ok_of_bind h
  dsimp only at h
  cases heat : c₁.eat? close with
  | some c₂ =>
    rw [heat] at h
    cases h
    exact .last hitem heat
  | none =>
    rw [heat] at h
    dsimp only at h
    cases hcomma : c₁.eat? .comma with
    | none =>
      rw [hcomma] at h
      cases h
    | some c₂ =>
      rw [hcomma] at h
      obtain ⟨⟨more, c₃⟩, hmore, h⟩ := exists_ok_of_bind h
      cases h
      exact .more hitem heat hcomma hmore

theorem primary_step (h : primary (.upTo limit) (reserve + 1) c = .ok (e, c')) :
    PrimaryStep limit reserve c e c' := by
  rw [primary] at h
  split at h
  case h_1 => cases h
  case h_2 hrest =>
    split at h
    case h_1 =>
      cases h
      exact .number hrest
    case h_2 =>
      cases h
      exact .string hrest
    case h_3 =>
      cases h
      exact .name hrest
    case h_4 =>
      obtain ⟨⟨inner, c₁⟩, hread, h⟩ := exists_ok_of_bind h
      obtain ⟨c₂, hclose, h⟩ := exists_ok_of_bind h
      cases h
      exact .parenthesized hrest hread hclose
    case h_5 =>
      obtain ⟨c₁, henter, h⟩ := exists_ok_of_bind h
      obtain ⟨⟨es, c₂⟩, hlist, h⟩ := exists_ok_of_bind h
      cases h
      exact .list hrest henter hlist
    case h_6 => cases h

end Formula

end LiveText
