import LiveText.Proofs.Formula.Completeness
import LiveText.Proofs.Formula.Outcome

/-!
# Room for the reading of formulas

No token raises the depth by more than two: at most by one for itself, and by one for the expression
behind it. So under a limit of one and twice the tokens nothing is too deep, and the reserve that is
chosen for the tokens lasts. With that, formulas are read exactly as the grammar says:
`ofTokens_grammar`.
-/

namespace LiveText

namespace NotTooDeep

variable {α β : Type}

/-- After something read and the place behind it. -/
theorem andThen {x : Except FormulaError (α × Cursor)} {f : α × Cursor → Except FormulaError β}
    (h : NotTooDeep x) (hf : ∀ a c, x = .ok (a, c) → NotTooDeep (f (a, c))) :
    NotTooDeep (x >>= f) := h.bind fun r => hf r.1 r.2

theorem enter {limit : Nat} {c : Cursor} (h : c.depth + 1 ≤ limit) :
    NotTooDeep (c.enter limit) := by
  rw [Cursor.enter, if_neg (Nat.not_lt.mpr h)]
  exact ok _

theorem unexpected (expected : Expectation) (c : Cursor) :
    NotTooDeep (.error (c.unexpected expected) : Except FormulaError α) := by
  intro limit h
  unfold Cursor.unexpected at h
  split at h <;> cases h

theorem expect (p : Punct) (c : Cursor) : NotTooDeep (c.expect p) := by
  unfold Cursor.expect
  split
  · exact ok _
  · exact unexpected _ _

end NotTooDeep

namespace Cursor

variable {c c' : Cursor}

theorem words_of_enter {limit : Nat} (h : c.enter limit = .ok c') :
    c'.word.length = c.word.length ∧ c'.depth = c.depth + 1 := by
  rw [length_word, length_word]
  exact length_rest_of_enter h

theorem Advances.words (h : c.Advances c') :
    c'.word.length < c.word.length ∧ c'.depth = c.depth := by
  rw [length_word, length_word]
  exact h.lengths

end Cursor

namespace Formula

/-- With a reserve, the parts of formulas are not too deep where the limit and the reserve have room
for the tokens that are left. -/
structure Fits (limit reserve : Nat) : Prop where
  expression : ∀ {c}, 8 * c.word.length + 5 ≤ reserve → c.depth + 2 * c.word.length + 1 ≤ limit →
    NotTooDeep (expression (.upTo limit) reserve c)
  operands : ∀ {level c}, 8 * c.word.length + 4 ≤ reserve → c.depth + 2 * c.word.length ≤ limit →
    NotTooDeep (operands (.upTo limit) reserve level c)
  chain : ∀ {level left c}, 8 * c.word.length + 1 ≤ reserve → c.depth + 2 * c.word.length ≤ limit →
    NotTooDeep (chain (.upTo limit) reserve level left c)
  operand : ∀ {c}, 8 * c.word.length + 3 ≤ reserve → c.depth + 2 * c.word.length ≤ limit →
    NotTooDeep (operand (.upTo limit) reserve c)
  accessed : ∀ {c}, 8 * c.word.length + 2 ≤ reserve → c.depth + 2 * c.word.length ≤ limit →
    NotTooDeep (accessed (.upTo limit) reserve c)
  accesses : ∀ {e c}, 8 * c.word.length + 1 ≤ reserve → c.depth + 2 * c.word.length ≤ limit →
    NotTooDeep (accesses (.upTo limit) reserve e c)
  list : ∀ {close c}, 8 * c.word.length + 7 ≤ reserve → c.depth + 2 * c.word.length + 1 ≤ limit →
    NotTooDeep (list (.upTo limit) reserve close c)
  items : ∀ {close c}, 8 * c.word.length + 6 ≤ reserve → c.depth + 2 * c.word.length + 1 ≤ limit →
    NotTooDeep (items (.upTo limit) reserve close c)
  primary : ∀ {c}, 8 * c.word.length + 1 ≤ reserve → c.depth + 2 * c.word.length ≤ limit →
    NotTooDeep (primary (.upTo limit) reserve c)

namespace Fits

open Cursor

variable {limit reserve : Nat} {c : Cursor}

private theorem expression_succ (ih : Fits limit reserve)
    (hreserve : 8 * c.word.length + 5 ≤ reserve + 1)
    (hdepth : c.depth + 2 * c.word.length + 1 ≤ limit) :
    NotTooDeep (Formula.expression (.upTo limit) (reserve + 1) c) := by
  rw [Formula.expression]
  refine (NotTooDeep.enter (by omega)).bind fun c₁ henter => ?_
  have h₁ := words_of_enter henter
  refine (ih.operands (by omega) (by omega)).andThen fun test c₂ htest => ?_
  have h₂ := ((balanced limit reserve).operands htest).words
  dsimp only
  cases heat : c₂.eat? .question with
  | none => exact .ok _
  | some c₃ =>
    have h₃ := (advances_of_eat? heat).words
    refine (ih.expression (by omega) (by omega)).andThen fun yes c₄ hyes => ?_
    have h₄ := ((balanced limit reserve).expression hyes).words
    dsimp only
    refine (NotTooDeep.expect _ _).bind fun c₅ hexpect => ?_
    have h₅ := (advances_of_expect hexpect).words
    exact (ih.expression (by omega) (by omega)).bind fun _ _ => .ok _

private theorem operands_succ (ih : Fits limit reserve) {level : Nat}
    (hreserve : 8 * c.word.length + 4 ≤ reserve + 1)
    (hdepth : c.depth + 2 * c.word.length ≤ limit) :
    NotTooDeep (Formula.operands (.upTo limit) (reserve + 1) level c) := by
  rw [Formula.operands]
  refine (ih.operand (by omega) hdepth).andThen fun left c₁ hleft => ?_
  have h₁ := ((balanced limit reserve).operand hleft).words
  exact (ih.chain (by omega) (by omega)).bind fun _ _ => .ok _

private theorem chain_succ (ih : Fits limit reserve) {level : Nat} {left : Expr}
    (hreserve : 8 * c.word.length + 1 ≤ reserve + 1)
    (hdepth : c.depth + 2 * c.word.length ≤ limit) :
    NotTooDeep (Formula.chain (.upTo limit) (reserve + 1) level left c) := by
  rw [Formula.chain]
  cases hlink : c.punct?.bind Punct.connective? with
  | none => exact .ok _
  | some link =>
    have hskip := (advances_of_bind hlink).words
    dsimp only
    split
    · exact .ok _
    · refine (NotTooDeep.enter (by omega)).bind fun c₁ henter => ?_
      have h₁ := words_of_enter henter
      refine (ih.operands (by omega) (by omega)).andThen fun right c₂ hright => ?_
      have h₂ := ((balanced limit reserve).operands hright).words
      dsimp only
      exact ih.chain (by omega) (by omega)

private theorem operand_succ (ih : Fits limit reserve)
    (hreserve : 8 * c.word.length + 3 ≤ reserve + 1)
    (hdepth : c.depth + 2 * c.word.length ≤ limit) :
    NotTooDeep (Formula.operand (.upTo limit) (reserve + 1) c) := by
  rw [Formula.operand]
  cases hunary : c.punct?.bind Punct.unary? with
  | none => exact ih.accessed (by omega) hdepth
  | some op =>
    have hskip := (advances_of_bind hunary).words
    refine (NotTooDeep.enter (by omega)).bind fun c₁ henter => ?_
    have h₁ := words_of_enter henter
    exact (ih.operand (by omega) (by omega)).bind fun _ _ => .ok _

private theorem accessed_succ (ih : Fits limit reserve)
    (hreserve : 8 * c.word.length + 2 ≤ reserve + 1)
    (hdepth : c.depth + 2 * c.word.length ≤ limit) :
    NotTooDeep (Formula.accessed (.upTo limit) (reserve + 1) c) := by
  rw [Formula.accessed]
  refine (ih.primary (by omega) hdepth).andThen fun first c₁ hfirst => ?_
  have h₁ := ((balanced limit reserve).primary hfirst).words
  exact (ih.accesses (by omega) (by omega)).bind fun _ _ => .ok _

private theorem accesses_succ (ih : Fits limit reserve) {e : Expr}
    (hreserve : 8 * c.word.length + 1 ≤ reserve + 1)
    (hdepth : c.depth + 2 * c.word.length ≤ limit) :
    NotTooDeep (Formula.accesses (.upTo limit) (reserve + 1) e c) := by
  rw [Formula.accesses]
  split
  case h_4 => exact .ok _
  all_goals
    rename_i hpunct
    have hskip := (advances_of_punct? hpunct).words
    refine (NotTooDeep.enter (by omega)).bind fun c₁ henter => ?_
    have h₁ := words_of_enter henter
  case h_1 =>
    split
    case h_1 hrest =>
      have h₂ := (advances_skip hrest).words
      exact ih.accesses (by omega) (by omega)
    case h_2 => exact .unexpected _ _
  case h_2 =>
    refine (ih.expression (by omega) (by omega)).andThen fun key c₂ hkey => ?_
    have h₂ := ((balanced limit reserve).expression hkey).words
    dsimp only
    refine (NotTooDeep.expect _ _).bind fun c₃ hexpect => ?_
    have h₃ := (advances_of_expect hexpect).words
    exact ih.accesses (by omega) (by omega)
  case h_3 =>
    refine (ih.list (by omega) (by omega)).andThen fun args c₂ hargs => ?_
    have h₂ := ((balanced limit reserve).list hargs).words
    exact ih.accesses (by omega) (by omega)

private theorem list_succ (ih : Fits limit reserve) {close : Punct}
    (hreserve : 8 * c.word.length + 7 ≤ reserve + 1)
    (hdepth : c.depth + 2 * c.word.length + 1 ≤ limit) :
    NotTooDeep (Formula.list (.upTo limit) (reserve + 1) close c) := by
  rw [Formula.list]
  cases c.eat? close with
  | none => exact ih.items (by omega) hdepth
  | some c₁ => exact .ok _

private theorem items_succ (ih : Fits limit reserve) {close : Punct}
    (hreserve : 8 * c.word.length + 6 ≤ reserve + 1)
    (hdepth : c.depth + 2 * c.word.length + 1 ≤ limit) :
    NotTooDeep (Formula.items (.upTo limit) (reserve + 1) close c) := by
  rw [Formula.items]
  refine (ih.expression (by omega) hdepth).andThen fun item c₁ hitem => ?_
  have h₁ := ((balanced limit reserve).expression hitem).words
  dsimp only
  cases c₁.eat? close with
  | some c₂ => exact .ok _
  | none =>
    cases hcomma : c₁.eat? .comma with
    | none => exact .unexpected _ _
    | some c₂ =>
      have h₂ := (advances_of_eat? hcomma).words
      exact (ih.items (by omega) (by omega)).bind fun _ _ => .ok _

private theorem primary_succ (ih : Fits limit reserve)
    (hreserve : 8 * c.word.length + 1 ≤ reserve + 1)
    (hdepth : c.depth + 2 * c.word.length ≤ limit) :
    NotTooDeep (Formula.primary (.upTo limit) (reserve + 1) c) := by
  rw [Formula.primary]
  split
  case h_1 => exact .error (by simp)
  case h_2 hrest =>
    have hskip := (advances_skip hrest).words
    split
    case h_4 =>
      refine (ih.expression (by omega) (by omega)).andThen fun inner c₁ _ => ?_
      exact (NotTooDeep.expect _ _).bind fun _ _ => .ok _
    case h_5 =>
      refine (NotTooDeep.enter (by omega)).bind fun c₁ henter => ?_
      have h₁ := words_of_enter henter
      exact (ih.list (by omega) (by omega)).bind fun _ _ => .ok _
    case h_1 | h_2 | h_3 => exact .ok _
    case h_6 => exact .error (by simp)

end Fits

private theorem fits (limit reserve : Nat) : Fits limit reserve := by
  induction reserve with
  | zero =>
    constructor
    all_goals
      intros
      omega
  | succ reserve ih =>
    exact ⟨ih.expression_succ, ih.operands_succ, ih.chain_succ, ih.operand_succ, ih.accessed_succ,
      ih.accesses_succ, ih.list_succ, ih.items_succ, ih.primary_succ⟩

/-- Under a limit of one and twice their number, tokens are never too deep. -/
theorem ofTokens_notTooDeep {limit : Nat} {tokens : List PlacedToken}
    (h : 2 * tokens.length + 1 ≤ limit) : NotTooDeep (ofTokens limit tokens) := by
  have hlength : (Cursor.mk tokens 0).word.length = tokens.length := Cursor.length_word _
  have hreserve : 8 * (Cursor.mk tokens 0).word.length + 5 ≤ reserveFor tokens.length := by
    rw [hlength, reserveFor]
    omega
  have hroom : 0 + 2 * (Cursor.mk tokens 0).word.length + 1 ≤ limit := by omega
  refine ((fits limit _).expression hreserve hroom).andThen fun e c _ => ?_
  dsimp only
  split
  · exact .ok _
  · exact .error (by simp)

/-- Tokens are read as a tree only where the grammar gives them that tree; the tree that the grammar
gives them is read unless it is too deep, and always under a limit of one and twice their number. -/
theorem ofTokens_grammar (limit : Nat) (tokens : List PlacedToken) (e : Expr) :
    (ofTokens limit tokens = .ok e → Derives .expression (tokens.map PlacedToken.token) e) ∧
    (Derives .expression (tokens.map PlacedToken.token) e →
      (ofTokens limit tokens = .ok e ∨ ofTokens limit tokens = .error (.tooDeep limit)) ∧
      (2 * tokens.length + 1 ≤ limit → ofTokens limit tokens = .ok e)) :=
  ⟨ofTokens_sound, fun h => ⟨ofTokens_complete h limit, fun hroom =>
    (ofTokens_complete h limit).resolve_right (ofTokens_notTooDeep hroom limit)⟩⟩

/-- The tokens of `a - b - [c]`. -/
def differenceTokens : List PlacedToken :=
  [⟨.name "a", 0⟩, ⟨.punct .minus, 2⟩, ⟨.name "b", 4⟩, ⟨.punct .minus, 6⟩, ⟨.punct .openBracket, 8⟩,
    ⟨.name "c", 9⟩, ⟨.punct .closeBracket, 10⟩]

/-- Equal connectives group to the left. -/
def differenceTree : Expr :=
  .binary .subtract (.binary .subtract (.name "a") (.name "b")) (.list [.name "c"])

theorem ofTokens_grammar_difference :
    Derives .expression (differenceTokens.map PlacedToken.token) differenceTree ∧
      ofTokens 15 differenceTokens = .ok differenceTree := by
  have hread : ofTokens 5 differenceTokens = .ok differenceTree := rfl
  have hderives := (ofTokens_grammar 5 differenceTokens differenceTree).1 hread
  exact ⟨hderives, ((ofTokens_grammar 15 differenceTokens differenceTree).2 hderives).2 (by decide)⟩

/-- The grammar gives a word one tree at most. -/
theorem Derives.unique {w : List Token} {e e' : Expr} (h : Derives .expression w e)
    (h' : Derives .expression w e') : e = e' := by
  obtain ⟨tokens, rfl⟩ : ∃ tokens : List PlacedToken, tokens.map PlacedToken.token = w :=
    ⟨w.map fun t => ⟨t, 0⟩, (List.map_map ..).trans (List.map_id w)⟩
  have hroom : NotTooDeep (ofTokens (2 * tokens.length + 1) tokens) :=
    ofTokens_notTooDeep (Nat.le_refl _)
  have hread := (ofTokens_complete h _).resolve_right (hroom _)
  have hread' := (ofTokens_complete h' _).resolve_right (hroom _)
  exact Except.ok.inj (hread.symm.trans hread')

end Formula

end LiveText
