import LiveText.Proofs.Formula.Progress

/-!
# The reading of formulas under watch

A reading whose descent has three checks: the depth is never lowered at zero, it is never beyond one
and twice the tokens taken since the reading began, and the reserve is never used up. With a reserve
of eight for each token and eight more, no check ever fails, whatever the limit on the depth, and
what is read is the same: `reading_balanced`. So the recursion of the reading ends by itself, and
not for want of a reserve.
-/

namespace LiveText

/-- What a watched reading ends with if it gives no result. -/
inductive Halt where
  | failed (error : FormulaError)
  /-- The depth is beyond the bound. -/
  | overrun
  /-- The depth is lowered at zero. -/
  | underflow
  | exhausted
deriving DecidableEq

namespace Watched

/-- An outcome of a reading as one of a watched reading. -/
def plain {α : Type} (x : Except FormulaError α) : Except Halt α := x.mapError .failed

/-- The tokens taken between two places. -/
def taken (start c : Cursor) : Nat := start.rest.length - c.rest.length

/-- The place itself, if its depth is within the bound. A token that is taken only raises the bound,
so what counts are the places where the depth changes. -/
def within (start c : Cursor) : Except Halt Cursor :=
  if start.depth + 1 + 2 * taken start c < c.depth then .error .overrun else .ok c

/-- One level deeper. The depth is raised before it is compared with the limit. -/
def enter (start : Cursor) (limit : Nat) (c : Cursor) : Except Halt Cursor := do
  let deeper ← within start { c with depth := c.depth + 1 }
  if limit < deeper.depth then .error (.failed (.tooDeep limit)) else .ok deeper

/-- One level up. -/
def leave (start c : Cursor) : Except Halt Cursor :=
  if c.depth = 0 then .error .underflow else within start c.leave

/-- Back at a depth. -/
def atDepth (start : Cursor) (depth : Nat) (c : Cursor) : Except Halt Cursor :=
  within start (c.atDepth depth)

/-- The descent of a reading from a place, under watch. -/
def descent (start : Cursor) (limit : Nat) : Descent Halt where
  enter := enter start limit
  leave := leave start
  atDepth := atDepth start
  lift := plain
  exhausted := .exhausted

/-! ### The checks -/

variable {α β : Type} {start c : Cursor} {limit : Nat}

/-- Two readings that begin alike and go on alike from each result are alike. -/
theorem bind_eq {x : Except FormulaError α} {x' : Except Halt α} {f : α → Except FormulaError β}
    {f' : α → Except Halt β} (h : x' = plain x) (hf : ∀ a, x = .ok a → f' a = plain (f a)) :
    x' >>= f' = plain (x >>= f) := by
  subst h
  cases x with
  | error e => rfl
  | ok a => exact hf a rfl

/-- After something read and the place behind it. -/
theorem andThen_eq {x : Except FormulaError (α × Cursor)} {x' : Except Halt (α × Cursor)}
    {f : α × Cursor → Except FormulaError β} {f' : α × Cursor → Except Halt β} (h : x' = plain x)
    (hf : ∀ a c, x = .ok (a, c) → f' (a, c) = plain (f (a, c))) :
    x' >>= f' = plain (x >>= f) := bind_eq h fun r => hf r.1 r.2

theorem within_eq (h : c.depth + 2 * c.rest.length ≤ start.depth + 2 * start.rest.length + 1) :
    within start c = .ok c := by
  rw [within, taken, if_neg (by omega)]

theorem enter_eq (h : c.depth + 2 * c.rest.length ≤ start.depth + 2 * start.rest.length) :
    (descent start limit).enter c = plain ((Descent.upTo limit).enter c) := by
  have hdeeper : within start { c with depth := c.depth + 1 } =
      .ok { c with depth := c.depth + 1 } := within_eq (by dsimp only; omega)
  change enter start limit c = plain (c.enter limit)
  rw [enter, hdeeper, Cursor.enter]
  dsimp only [bind, Except.bind]
  split <;> rfl

theorem leave_eq (hpos : 0 < c.depth)
    (h : c.depth + 2 * c.rest.length ≤ start.depth + 2 * start.rest.length + 1) :
    (descent start limit).leave c = plain ((Descent.upTo limit).leave c) := by
  have hwithin : within start c.leave = .ok c.leave :=
    within_eq (by simp only [Cursor.leave]; omega)
  change leave start c = .ok c.leave
  rw [leave, if_neg (Nat.pos_iff_ne_zero.mp hpos), hwithin]

theorem atDepth_eq {depth : Nat}
    (h : depth + 2 * c.rest.length ≤ start.depth + 2 * start.rest.length + 1) :
    (descent start limit).atDepth depth c = plain ((Descent.upTo limit).atDepth depth c) :=
  within_eq h

open Formula in
/-- With a reserve, the parts of formulas are read under watch as without one, where the reserve has
room for the tokens left and the depth is within the bound. An expression and a list come first with
one level of their own. -/
structure Alike (start : Cursor) (limit reserve : Nat) : Prop where
  expression : ∀ {c}, 8 * c.rest.length + 5 ≤ reserve →
    c.depth + 2 * c.rest.length ≤ start.depth + 2 * start.rest.length →
    expression (descent start limit) reserve c = plain (expression (.upTo limit) reserve c)
  operands : ∀ {level c}, 8 * c.rest.length + 4 ≤ reserve →
    c.depth + 2 * c.rest.length ≤ start.depth + 2 * start.rest.length + 1 →
    operands (descent start limit) reserve level c = plain (operands (.upTo limit) reserve level c)
  chain : ∀ {level left c}, 8 * c.rest.length + 1 ≤ reserve →
    c.depth + 2 * c.rest.length ≤ start.depth + 2 * start.rest.length + 1 →
    chain (descent start limit) reserve level left c =
      plain (chain (.upTo limit) reserve level left c)
  operand : ∀ {c}, 8 * c.rest.length + 3 ≤ reserve →
    c.depth + 2 * c.rest.length ≤ start.depth + 2 * start.rest.length + 1 →
    operand (descent start limit) reserve c = plain (operand (.upTo limit) reserve c)
  accessed : ∀ {c}, 8 * c.rest.length + 2 ≤ reserve →
    c.depth + 2 * c.rest.length ≤ start.depth + 2 * start.rest.length + 1 →
    accessed (descent start limit) reserve c = plain (accessed (.upTo limit) reserve c)
  accesses : ∀ {e c}, 8 * c.rest.length + 1 ≤ reserve →
    c.depth + 2 * c.rest.length ≤ start.depth + 2 * start.rest.length + 1 →
    accesses (descent start limit) reserve e c = plain (accesses (.upTo limit) reserve e c)
  list : ∀ {close c}, 8 * c.rest.length + 7 ≤ reserve →
    c.depth + 2 * c.rest.length ≤ start.depth + 2 * start.rest.length →
    list (descent start limit) reserve close c = plain (list (.upTo limit) reserve close c)
  items : ∀ {close c}, 8 * c.rest.length + 6 ≤ reserve →
    c.depth + 2 * c.rest.length ≤ start.depth + 2 * start.rest.length →
    items (descent start limit) reserve close c = plain (items (.upTo limit) reserve close c)
  primary : ∀ {c}, 8 * c.rest.length + 1 ≤ reserve →
    c.depth + 2 * c.rest.length ≤ start.depth + 2 * start.rest.length + 1 →
    primary (descent start limit) reserve c = plain (primary (.upTo limit) reserve c)

namespace Alike

open Cursor Formula

variable {reserve : Nat}

private theorem expression_succ (ih : Alike start limit reserve)
    (hreserve : 8 * c.rest.length + 5 ≤ reserve + 1)
    (hdepth : c.depth + 2 * c.rest.length ≤ start.depth + 2 * start.rest.length) :
    Formula.expression (descent start limit) (reserve + 1) c =
      plain (Formula.expression (.upTo limit) (reserve + 1) c) := by
  rw [Formula.expression, Formula.expression]
  refine bind_eq (enter_eq hdepth) fun c₁ henter => ?_
  have h₁ := length_rest_of_enter henter
  refine andThen_eq (ih.operands (by omega) (by omega)) fun test c₂ htest => ?_
  have h₂ := ((balanced limit reserve).operands htest).lengths
  dsimp only
  cases heat : c₂.eat? .question with
  | none => exact bind_eq (leave_eq (by omega) (by omega)) fun _ _ => rfl
  | some c₃ =>
    have h₃ := (advances_of_eat? heat).lengths
    refine andThen_eq (ih.expression (by omega) (by omega)) fun yes c₄ hyes => ?_
    have h₄ := ((balanced limit reserve).expression hyes).lengths
    dsimp only
    refine bind_eq rfl fun c₅ hexpect => ?_
    have h₅ := (advances_of_expect hexpect).lengths
    refine andThen_eq (ih.expression (by omega) (by omega)) fun no c₆ hno => ?_
    have h₆ := ((balanced limit reserve).expression hno).lengths
    dsimp only
    exact bind_eq (leave_eq (by omega) (by omega)) fun _ _ => rfl

private theorem operands_succ (ih : Alike start limit reserve) {level : Nat}
    (hreserve : 8 * c.rest.length + 4 ≤ reserve + 1)
    (hdepth : c.depth + 2 * c.rest.length ≤ start.depth + 2 * start.rest.length + 1) :
    Formula.operands (descent start limit) (reserve + 1) level c =
      plain (Formula.operands (.upTo limit) (reserve + 1) level c) := by
  rw [Formula.operands, Formula.operands]
  refine andThen_eq (ih.operand (by omega) hdepth) fun left c₁ hleft => ?_
  have h₁ := ((balanced limit reserve).operand hleft).lengths
  refine andThen_eq (ih.chain (by omega) (by omega)) fun whole c₂ hwhole => ?_
  have h₂ := ((balanced limit reserve).chain hwhole).length_le
  dsimp only
  exact bind_eq (atDepth_eq (by omega)) fun _ _ => rfl

private theorem chain_succ (ih : Alike start limit reserve) {level : Nat} {left : Expr}
    (hreserve : 8 * c.rest.length + 1 ≤ reserve + 1)
    (hdepth : c.depth + 2 * c.rest.length ≤ start.depth + 2 * start.rest.length + 1) :
    Formula.chain (descent start limit) (reserve + 1) level left c =
      plain (Formula.chain (.upTo limit) (reserve + 1) level left c) := by
  rw [Formula.chain, Formula.chain]
  cases hlink : c.punct?.bind Punct.connective? with
  | none => rfl
  | some link =>
    have hskip := (advances_of_bind hlink).lengths
    dsimp only
    split
    · rfl
    · refine bind_eq (enter_eq (by omega)) fun c₁ henter => ?_
      have h₁ := length_rest_of_enter henter
      refine andThen_eq (ih.operands (by omega) (by omega)) fun right c₂ hright => ?_
      have h₂ := ((balanced limit reserve).operands hright).lengths
      dsimp only
      exact ih.chain (by omega) (by omega)

private theorem operand_succ (ih : Alike start limit reserve)
    (hreserve : 8 * c.rest.length + 3 ≤ reserve + 1)
    (hdepth : c.depth + 2 * c.rest.length ≤ start.depth + 2 * start.rest.length + 1) :
    Formula.operand (descent start limit) (reserve + 1) c =
      plain (Formula.operand (.upTo limit) (reserve + 1) c) := by
  rw [Formula.operand, Formula.operand]
  cases hunary : c.punct?.bind Punct.unary? with
  | none => exact ih.accessed (by omega) hdepth
  | some op =>
    have hskip := (advances_of_bind hunary).lengths
    refine bind_eq (enter_eq (by omega)) fun c₁ henter => ?_
    have h₁ := length_rest_of_enter henter
    refine andThen_eq (ih.operand (by omega) (by omega)) fun inner c₂ hinner => ?_
    have h₂ := ((balanced limit reserve).operand hinner).lengths
    dsimp only
    exact bind_eq (leave_eq (by omega) (by omega)) fun _ _ => rfl

private theorem accessed_succ (ih : Alike start limit reserve)
    (hreserve : 8 * c.rest.length + 2 ≤ reserve + 1)
    (hdepth : c.depth + 2 * c.rest.length ≤ start.depth + 2 * start.rest.length + 1) :
    Formula.accessed (descent start limit) (reserve + 1) c =
      plain (Formula.accessed (.upTo limit) (reserve + 1) c) := by
  rw [Formula.accessed, Formula.accessed]
  refine andThen_eq (ih.primary (by omega) hdepth) fun first c₁ hfirst => ?_
  have h₁ := ((balanced limit reserve).primary hfirst).lengths
  refine andThen_eq (ih.accesses (by omega) (by omega)) fun whole c₂ hwhole => ?_
  have h₂ := ((balanced limit reserve).accesses hwhole).length_le
  dsimp only
  exact bind_eq (atDepth_eq (by omega)) fun _ _ => rfl

private theorem accesses_succ (ih : Alike start limit reserve) {e : Expr}
    (hreserve : 8 * c.rest.length + 1 ≤ reserve + 1)
    (hdepth : c.depth + 2 * c.rest.length ≤ start.depth + 2 * start.rest.length + 1) :
    Formula.accesses (descent start limit) (reserve + 1) e c =
      plain (Formula.accesses (.upTo limit) (reserve + 1) e c) := by
  rw [Formula.accesses, Formula.accesses]
  cases hpunct : c.punct? with
  | none => rfl
  | some p =>
    have hskip := (advances_of_punct? hpunct).lengths
    have hdeeper : (descent start limit).enter c.skip =
        plain ((Descent.upTo limit).enter c.skip) := enter_eq (by omega)
    cases p
    case dot =>
      refine bind_eq hdeeper fun c₁ henter => ?_
      have h₁ := length_rest_of_enter henter
      cases hrest : c₁.rest with
      | nil => rfl
      | cons t rest =>
        have h₂ := (advances_skip hrest).lengths
        obtain ⟨token, position⟩ := t
        cases token with
        | name property => exact ih.accesses (by omega) (by omega)
        | number _ | string _ | punct _ => rfl
    case openBracket =>
      refine bind_eq hdeeper fun c₁ henter => ?_
      have h₁ := length_rest_of_enter henter
      refine andThen_eq (ih.expression (by omega) (by omega)) fun key c₂ hkey => ?_
      have h₂ := ((balanced limit reserve).expression hkey).lengths
      dsimp only
      refine bind_eq rfl fun c₃ hexpect => ?_
      have h₃ := (advances_of_expect hexpect).lengths
      exact ih.accesses (by omega) (by omega)
    case openParen =>
      refine bind_eq hdeeper fun c₁ henter => ?_
      have h₁ := length_rest_of_enter henter
      refine andThen_eq (ih.list (by omega) (by omega)) fun args c₂ hargs => ?_
      have h₂ := ((balanced limit reserve).list hargs).lengths
      exact ih.accesses (by omega) (by omega)
    all_goals rfl

private theorem list_succ (ih : Alike start limit reserve) {close : Punct}
    (hreserve : 8 * c.rest.length + 7 ≤ reserve + 1)
    (hdepth : c.depth + 2 * c.rest.length ≤ start.depth + 2 * start.rest.length) :
    Formula.list (descent start limit) (reserve + 1) close c =
      plain (Formula.list (.upTo limit) (reserve + 1) close c) := by
  rw [Formula.list, Formula.list]
  cases c.eat? close with
  | none => exact ih.items (by omega) hdepth
  | some c₁ => rfl

private theorem items_succ (ih : Alike start limit reserve) {close : Punct}
    (hreserve : 8 * c.rest.length + 6 ≤ reserve + 1)
    (hdepth : c.depth + 2 * c.rest.length ≤ start.depth + 2 * start.rest.length) :
    Formula.items (descent start limit) (reserve + 1) close c =
      plain (Formula.items (.upTo limit) (reserve + 1) close c) := by
  rw [Formula.items, Formula.items]
  refine andThen_eq (ih.expression (by omega) hdepth) fun item c₁ hitem => ?_
  have h₁ := ((balanced limit reserve).expression hitem).lengths
  dsimp only
  cases c₁.eat? close with
  | some c₂ => rfl
  | none =>
    cases hcomma : c₁.eat? .comma with
    | none => rfl
    | some c₂ =>
      have h₂ := (advances_of_eat? hcomma).lengths
      exact andThen_eq (ih.items (by omega) (by omega)) fun _ _ _ => rfl

private theorem primary_succ (ih : Alike start limit reserve)
    (hreserve : 8 * c.rest.length + 1 ≤ reserve + 1)
    (hdepth : c.depth + 2 * c.rest.length ≤ start.depth + 2 * start.rest.length + 1) :
    Formula.primary (descent start limit) (reserve + 1) c =
      plain (Formula.primary (.upTo limit) (reserve + 1) c) := by
  rw [Formula.primary, Formula.primary]
  cases hrest : c.rest with
  | nil => rfl
  | cons t rest =>
    have hskip := (advances_skip hrest).lengths
    obtain ⟨token, position⟩ := t
    cases token with
    | number x | string s | name name => rfl
    | punct p =>
      cases p
      case openParen =>
        refine andThen_eq (ih.expression (by omega) (by omega)) fun inner c₁ _ => ?_
        exact bind_eq rfl fun _ _ => rfl
      case openBracket =>
        refine bind_eq (enter_eq (by omega)) fun c₁ henter => ?_
        have h₁ := length_rest_of_enter henter
        refine andThen_eq (ih.list (by omega) (by omega)) fun items c₂ hlist => ?_
        have h₂ := ((balanced limit reserve).list hlist).lengths
        dsimp only
        exact bind_eq (leave_eq (by omega) (by omega)) fun _ _ => rfl
      all_goals rfl

end Alike

private theorem alike (start : Cursor) (limit reserve : Nat) : Alike start limit reserve := by
  induction reserve with
  | zero =>
    constructor
    all_goals
      intros
      omega
  | succ reserve ih =>
    exact ⟨ih.expression_succ, ih.operands_succ, ih.chain_succ, ih.operand_succ, ih.accessed_succ,
      ih.accesses_succ, ih.list_succ, ih.items_succ, ih.primary_succ⟩

/-- Whether a reading from a place passes every check, and advances if it gives a result. -/
structure Passes (start : Cursor) (x' : Except Halt (α × Cursor))
    (x : Except FormulaError (α × Cursor)) : Prop where
  watched_eq : x' = plain x
  advances : ∀ {a c}, x = .ok (a, c) → start.Advances c

open Formula in
/-- From every place, with every limit on the depth, each part of a formula is read with no check
failing: the depth is never lowered at zero and never beyond one and twice the tokens taken, and the
recursion ends within a reserve of eight for each token and eight more. Where a part is read, at
least one token has been taken, none beyond the end, and the depth is what it was. -/
theorem reading_balanced (limit reserve : Nat) (c : Cursor)
    (h : 8 * c.rest.length + 8 ≤ reserve) :
    Passes c (expression (descent c limit) reserve c) (expression (.upTo limit) reserve c) ∧
    (∀ level, Passes c (operands (descent c limit) reserve level c)
      (operands (.upTo limit) reserve level c)) ∧
    Passes c (operand (descent c limit) reserve c) (operand (.upTo limit) reserve c) ∧
    Passes c (accessed (descent c limit) reserve c) (accessed (.upTo limit) reserve c) ∧
    Passes c (primary (descent c limit) reserve c) (primary (.upTo limit) reserve c) ∧
    ∀ close, Passes c (list (descent c limit) reserve close c)
      (list (.upTo limit) reserve close c) := by
  have halike := alike c limit reserve
  have hbalanced := Formula.balanced limit reserve
  refine ⟨⟨?_, hbalanced.expression⟩, fun level => ⟨?_, hbalanced.operands⟩,
    ⟨?_, hbalanced.operand⟩, ⟨?_, hbalanced.accessed⟩, ⟨?_, hbalanced.primary⟩,
    fun close => ⟨?_, hbalanced.list⟩⟩
  · exact halike.expression (by omega) (by omega)
  · exact halike.operands (by omega) (by omega)
  · exact halike.operand (by omega) (by omega)
  · exact halike.accessed (by omega) (by omega)
  · exact halike.primary (by omega) (by omega)
  · exact halike.list (by omega) (by omega)

/-- The tokens of `[[a]]`. The depth is five where two of them are taken. -/
def nestedTokens : List PlacedToken :=
  [⟨.punct .openBracket, 0⟩, ⟨.punct .openBracket, 1⟩, ⟨.name "a", 2⟩, ⟨.punct .closeBracket, 3⟩,
    ⟨.punct .closeBracket, 4⟩]

/-- The greatest word. -/
def maxWord : Nat := 18446744073709551615

theorem reading_balanced_nested :
    8 * nestedTokens.length + 8 ≤ 48 ∧
    Formula.expression (descent ⟨nestedTokens, 0⟩ maxWord) 48 ⟨nestedTokens, 0⟩ =
      .ok (.list [.list [.name "a"]], ⟨[], 0⟩) ∧
    (Cursor.mk nestedTokens 0).Advances ⟨[], 0⟩ := by
  have hread : Formula.expression (.upTo maxWord) 48 ⟨nestedTokens, 0⟩ =
      .ok (.list [.list [.name "a"]], ⟨[], 0⟩) := rfl
  have hpasses := (reading_balanced maxWord 48 ⟨nestedTokens, 0⟩ (by decide)).1
  refine ⟨by decide, ?_, hpasses.advances hread⟩
  rw [hpasses.watched_eq, hread]
  rfl

end Watched

end LiveText
