import LiveText.Proofs.Formula.Effects

/-!
# Limits of formulas

The limits on the steps and on the depth of a formula cut its reading or its evaluation off and do
nothing else: `evaluate_limits`. Both limits are treated alike, by a kind of failure that cuts off:
`Loosened` limits are the same but for what failures of that kind leave open.
-/

namespace LiveText

open FormulaError SameUnless Budgeted

variable {cut : FormulaError → Prop} {limits limits' : FormulaLimits}

/-- Whether each limit stays or gives way to a greater one whose failure cuts off. -/
structure Loosened (cut : FormulaError → Prop) (limits limits' : FormulaLimits) : Prop where
  steps : limits.maxSteps = limits'.maxSteps ∨
    limits.maxSteps ≤ limits'.maxSteps ∧ ∀ limit, cut (stepBudget limit)
  depth : limits.maxDepth = limits'.maxDepth ∨
    limits.maxDepth ≤ limits'.maxDepth ∧ ∀ limit, cut (tooDeep limit)

/-! ### Reading -/

theorem Cursor.enter_sameUnless {limit limit' : Nat} (h : limit ≤ limit')
    (hcut : ∀ limit, cut (tooDeep limit)) (c : Cursor) :
    SameUnless cut (c.enter limit) (c.enter limit') := by
  unfold enter
  by_cases hdeep : limit < c.depth + 1
  · rw [if_pos hdeep]
    exact cutOff (hcut limit) _
  · rw [if_neg hdeep, if_neg (by omega)]
    exact refl _

namespace Formula

/-- With a reserve, the parts of formulas are read the same under two limits on the depth unless the
first one cuts the reading off. -/
structure ReadAlike (cut : FormulaError → Prop) (limit limit' reserve : Nat) : Prop where
  expression : ∀ c,
    SameUnless cut (expression (.upTo limit) reserve c) (expression (.upTo limit') reserve c)
  operands : ∀ level c,
    SameUnless cut (operands (.upTo limit) reserve level c)
      (operands (.upTo limit') reserve level c)
  chain : ∀ level left c,
    SameUnless cut (chain (.upTo limit) reserve level left c)
      (chain (.upTo limit') reserve level left c)
  operand : ∀ c, SameUnless cut (operand (.upTo limit) reserve c) (operand (.upTo limit') reserve c)
  accessed : ∀ c,
    SameUnless cut (accessed (.upTo limit) reserve c) (accessed (.upTo limit') reserve c)
  accesses : ∀ e c,
    SameUnless cut (accesses (.upTo limit) reserve e c) (accesses (.upTo limit') reserve e c)
  list : ∀ close c,
    SameUnless cut (list (.upTo limit) reserve close c) (list (.upTo limit') reserve close c)
  items : ∀ close c,
    SameUnless cut (items (.upTo limit) reserve close c) (items (.upTo limit') reserve close c)
  primary : ∀ c, SameUnless cut (primary (.upTo limit) reserve c) (primary (.upTo limit') reserve c)

namespace ReadAlike

variable {limit limit' reserve : Nat}

private theorem expression_succ (ih : ReadAlike cut limit limit' reserve) (h : limit ≤ limit')
    (hcut : ∀ limit, cut (tooDeep limit)) (c : Cursor) :
    SameUnless cut (Formula.expression (.upTo limit) (reserve + 1) c)
      (Formula.expression (.upTo limit') (reserve + 1) c) := by
  rw [Formula.expression, Formula.expression]
  refine (c.enter_sameUnless h hcut).bind fun c => (ih.operands 1 c).bind fun (test, c) => ?_
  dsimp only
  cases c.eat? .question with
  | none => exact refl _
  | some c =>
    exact (ih.expression c).bind fun (yes, c) => (refl _).bind fun c =>
      (ih.expression c).bind fun (no, c) => refl _

private theorem operands_succ (ih : ReadAlike cut limit limit' reserve) (level : Nat) (c : Cursor) :
    SameUnless cut (Formula.operands (.upTo limit) (reserve + 1) level c)
      (Formula.operands (.upTo limit') (reserve + 1) level c) := by
  rw [Formula.operands, Formula.operands]
  exact (ih.operand c).bind fun (left, c) => (ih.chain level left c).bind fun _ => refl _

private theorem chain_succ (ih : ReadAlike cut limit limit' reserve) (h : limit ≤ limit')
    (hcut : ∀ limit, cut (tooDeep limit)) (level : Nat) (left : Expr) (c : Cursor) :
    SameUnless cut (Formula.chain (.upTo limit) (reserve + 1) level left c)
      (Formula.chain (.upTo limit') (reserve + 1) level left c) := by
  rw [Formula.chain, Formula.chain]
  cases c.punct?.bind Punct.connective? with
  | none => exact refl _
  | some link =>
    obtain ⟨tightness, connective⟩ := link
    by_cases hlevel : tightness < level
    · simp only [hlevel, ite_true]
      exact refl _
    · simp only [hlevel, ite_false]
      exact (c.skip.enter_sameUnless h hcut).bind fun c =>
        (ih.operands (tightness + 1) c).bind fun (right, c) => ih.chain level _ c

private theorem operand_succ (ih : ReadAlike cut limit limit' reserve) (h : limit ≤ limit')
    (hcut : ∀ limit, cut (tooDeep limit)) (c : Cursor) :
    SameUnless cut (Formula.operand (.upTo limit) (reserve + 1) c)
      (Formula.operand (.upTo limit') (reserve + 1) c) := by
  rw [Formula.operand, Formula.operand]
  cases c.punct?.bind Punct.unary? with
  | none => exact ih.accessed c
  | some op =>
    exact (c.skip.enter_sameUnless h hcut).bind fun c => (ih.operand c).bind fun _ => refl _

private theorem accessed_succ (ih : ReadAlike cut limit limit' reserve) (c : Cursor) :
    SameUnless cut (Formula.accessed (.upTo limit) (reserve + 1) c)
      (Formula.accessed (.upTo limit') (reserve + 1) c) := by
  rw [Formula.accessed, Formula.accessed]
  exact (ih.primary c).bind fun (e, c) => (ih.accesses e c).bind fun _ => refl _

private theorem accesses_succ (ih : ReadAlike cut limit limit' reserve) (h : limit ≤ limit')
    (hcut : ∀ limit, cut (tooDeep limit)) (e : Expr) (c : Cursor) :
    SameUnless cut (Formula.accesses (.upTo limit) (reserve + 1) e c)
      (Formula.accesses (.upTo limit') (reserve + 1) e c) := by
  rw [Formula.accesses, Formula.accesses]
  split
  · refine (c.skip.enter_sameUnless h hcut).bind fun c => ?_
    split
    · exact ih.accesses _ _
    · exact refl _
  · exact (c.skip.enter_sameUnless h hcut).bind fun c => (ih.expression c).bind fun (key, c) =>
      (refl _).bind fun c => ih.accesses _ c
  · exact (c.skip.enter_sameUnless h hcut).bind fun c =>
      (ih.list .closeParen c).bind fun (args, c) => ih.accesses _ c
  · exact refl _

private theorem list_succ (ih : ReadAlike cut limit limit' reserve) (close : Punct) (c : Cursor) :
    SameUnless cut (Formula.list (.upTo limit) (reserve + 1) close c)
      (Formula.list (.upTo limit') (reserve + 1) close c) := by
  rw [Formula.list, Formula.list]
  cases c.eat? close with
  | none => exact ih.items close c
  | some c => exact refl _

private theorem items_succ (ih : ReadAlike cut limit limit' reserve) (close : Punct) (c : Cursor) :
    SameUnless cut (Formula.items (.upTo limit) (reserve + 1) close c)
      (Formula.items (.upTo limit') (reserve + 1) close c) := by
  rw [Formula.items, Formula.items]
  refine (ih.expression c).bind fun (item, c) => ?_
  dsimp only
  cases c.eat? close with
  | some c => exact refl _
  | none =>
    cases c.eat? .comma with
    | none => exact refl _
    | some c => exact (ih.items close c).bind fun _ => refl _

private theorem primary_succ (ih : ReadAlike cut limit limit' reserve) (h : limit ≤ limit')
    (hcut : ∀ limit, cut (tooDeep limit)) (c : Cursor) :
    SameUnless cut (Formula.primary (.upTo limit) (reserve + 1) c)
      (Formula.primary (.upTo limit') (reserve + 1) c) := by
  rw [Formula.primary, Formula.primary]
  split
  · exact refl _
  · split
    · exact refl _
    · exact refl _
    · exact refl _
    · exact (ih.expression c.skip).bind fun (e, c) => refl _
    · exact (c.skip.enter_sameUnless h hcut).bind fun c =>
        (ih.list .closeBracket c).bind fun _ => refl _
    · exact refl _

end ReadAlike

private theorem readAlike {limit limit' : Nat} (h : limit ≤ limit')
    (hcut : ∀ limit, cut (tooDeep limit)) (reserve : Nat) : ReadAlike cut limit limit' reserve := by
  induction reserve with
  | zero =>
    constructor
    all_goals intros; exact cutOff (hcut limit) _
  | succ reserve ih =>
    exact ⟨ih.expression_succ h hcut, ih.operands_succ, ih.chain_succ h hcut,
      ih.operand_succ h hcut, ih.accessed_succ, ih.accesses_succ h hcut, ih.list_succ,
      ih.items_succ, ih.primary_succ h hcut⟩

/-- Under loosened limits a text is read the same unless that is cut off. -/
theorem parse_sameUnless (h : Loosened cut limits limits') (source : String) :
    SameUnless cut (parse source limits) (parse source limits') := by
  unfold parse
  rcases h.depth with heq | ⟨hle, hcut⟩
  · rw [heq]
    exact refl _
  · exact (refl _).bind fun tokens =>
      ((readAlike hle hcut (reserveFor tokens.length)).expression _).bind fun _ => refl _

end Formula

/-! ### The two checks -/

namespace Budgeted

/-- A check against one of two limits ends an evaluation for a failure that cuts it off, or has the
outcome of the check against the other limit. -/
theorem Alike.check {e : Nat → FormulaError} {limit limit' : Nat}
    (h : limit = limit' ∨ limit ≤ limit' ∧ ∀ limit, cut (e limit)) (beyond : Nat → Prop)
    [DecidablePred beyond] (hbeyond : ∀ n n', n ≤ n' → beyond n' → beyond n) :
    Alike cut (if beyond limit then throw (e limit) else pure ())
      (if beyond limit' then throw (e limit') else pure ()) := by
  rcases h with rfl | ⟨hle, hcut⟩
  · exact .refl _
  · by_cases hlimit : beyond limit
    · rw [if_pos hlimit]
      exact fun u => Or.inl ⟨_, hcut limit, rfl⟩
    · rw [if_neg hlimit, if_neg (mt (hbeyond _ _ hle) hlimit)]
      exact .refl _

theorem outcome_spend (limits : FormulaLimits) (cost : Nat) (u : Usage) :
    outcome (spend limits cost) u =
      outcome (if limits.maxSteps < u.steps + cost then throw (.stepBudget limits.maxSteps)
        else pure ()) { u with steps := u.steps + cost } := rfl

private theorem spend_alike (h : Loosened cut limits limits') (cost : Nat) :
    Alike cut (spend limits cost) (spend limits' cost) := by
  intro u
  rw [outcome_spend, outcome_spend]
  exact Alike.check h.steps (· < u.steps + cost) (fun _ _ => Nat.lt_of_le_of_lt) _

end Budgeted

/-! ### Evaluation -/

namespace Formula

variable {s : Surroundings}

private theorem visit_alike (h : Loosened cut s.limits limits') (depth : Nat) :
    Alike cut (visit s depth) (visit { s with limits := limits' } depth) :=
  (spend_alike h 1).bind fun _ =>
    Alike.check h.depth (2 * · < depth) (fun _ _ hle hlt => by omega)

/-- Only the steps that are spent, and the check of the depth, depend on the limits. -/
theorem compatible_withLimits (h : Loosened cut s.limits limits') (deepest : Nat) :
    Compatible (fun _ => Alike cut) s { s with limits := limits' } deepest where
  result _ := .refl _
  failure _ := .refl _
  sequence := .bind
  spend := spend_alike h
  draw := .refl _
  visit _ := visit_alike h _

private theorem eval_alike (h : Loosened cut s.limits limits') (depth : Nat) (e : Expr) :
    Alike cut (eval s depth e) (eval { s with limits := limits' } depth e) :=
  eval_related (compatible_withLimits h _) e (fun _ _ => rfl) (Nat.le_refl _)

/-- Under loosened limits a formula is evaluated the same, with the same random draws, unless that
is cut off. -/
theorem evaluate_alike (h : Loosened cut s.limits limits') (drawn : Nat) (source : String) :
    (∃ e, cut e ∧ (evaluate s drawn source).1 = .error e) ∨
      evaluate s drawn source = evaluate { s with limits := limits' } drawn source := by
  unfold evaluate
  rcases parse_sameUnless h source with ⟨e, he, herror⟩ | hsame
  · rw [herror]
    exact Or.inl ⟨e, he, rfl⟩
  · dsimp only
    rw [← hsame]
    cases parse source s.limits with
    | error e => exact Or.inr rfl
    | ok e =>
      rcases eval_alike h 0 e { draws := drawn } with ⟨e, he, herror⟩ | houtcome
      · exact Or.inl ⟨e, he, herror⟩
      · exact Or.inr (congrArg (fun r => (r.1, r.2.draws)) houtcome)

private theorem evaluate_eq_of_loosened (h : Loosened cut s.limits limits') (drawn : Nat)
    (source : String) (hne : ∀ e, cut e → (evaluate s drawn source).1 ≠ .error e) :
    evaluate { s with limits := limits' } drawn source = evaluate s drawn source := by
  rcases evaluate_alike h drawn source with ⟨e, he, herror⟩ | hsame
  · exact absurd herror (hne e he)
  · exact hsame.symm

/-- A formula that does not run out of steps has the same outcome under every greater limit on its
steps, and one that is not too deep under every greater limit on its depth. -/
theorem evaluate_limits (s : Surroundings) (drawn : Nat) (source : String) :
    (∀ steps, s.limits.maxSteps ≤ steps →
      (∀ limit, (evaluate s drawn source).1 ≠ .error (.stepBudget limit)) →
      evaluate { s with limits := { s.limits with maxSteps := steps } } drawn source =
        evaluate s drawn source) ∧
    (∀ depth, s.limits.maxDepth ≤ depth →
      (∀ limit, (evaluate s drawn source).1 ≠ .error (.tooDeep limit)) →
      evaluate { s with limits := { s.limits with maxDepth := depth } } drawn source =
        evaluate s drawn source) := by
  constructor
  · intro steps hle hne
    have hloose : Loosened IsStepBudget s.limits { s.limits with maxSteps := steps } :=
      ⟨Or.inr ⟨hle, fun limit => ⟨limit, rfl⟩⟩, Or.inl rfl⟩
    refine evaluate_eq_of_loosened hloose drawn source ?_
    rintro _ ⟨limit, rfl⟩
    exact hne limit
  · intro depth hle hne
    have hloose : Loosened IsTooDeep s.limits { s.limits with maxDepth := depth } :=
      ⟨Or.inl rfl, Or.inr ⟨hle, fun limit => ⟨limit, rfl⟩⟩⟩
    refine evaluate_eq_of_loosened hloose drawn source ?_
    rintro _ ⟨limit, rfl⟩
    exact hne limit

/-- Limits that a joined list of two just keeps to. -/
def tightSurroundings : Surroundings :=
  { scope := [("a", .string "x")], limits := ⟨7, 4⟩, draw := fun _ => 0 }

theorem evaluate_limits_joined :
    (evaluate tightSurroundings 0 "[a, 'y'].join('-')").1.toOption.map Value.display =
      some "x-y" ∧
    evaluate { tightSurroundings with limits := { tightSurroundings.limits with maxSteps := 8 } } 0
        "[a, 'y'].join('-')" =
      evaluate tightSurroundings 0 "[a, 'y'].join('-')" ∧
    evaluate { tightSurroundings with limits := { tightSurroundings.limits with maxDepth := 5 } } 0
        "[a, 'y'].join('-')" =
      evaluate tightSurroundings 0 "[a, 'y'].join('-')" := by
  have hshown : (evaluate tightSurroundings 0 "[a, 'y'].join('-')").1.toOption.map Value.display =
      some "x-y" := by decide +kernel
  have hne : ∀ e, (evaluate tightSurroundings 0 "[a, 'y'].join('-')").1 ≠ .error e := by
    intro e herror
    rw [herror] at hshown
    cases hshown
  have hlimits := evaluate_limits tightSurroundings 0 "[a, 'y'].join('-')"
  exact ⟨hshown, hlimits.1 8 (by decide) fun _ => hne _, hlimits.2 5 (by decide) fun _ => hne _⟩

end Formula

end LiveText
