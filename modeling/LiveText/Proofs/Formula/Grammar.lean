import LiveText.Formula.Expr

/-!
# The grammar of formulas

Which words of tokens are formulas, and the tree that each stands for. The grammar is stated with
tables and left recursion of its own, independent of the way formulas are read. Operands of a chain
of equal tightness group to the left, and parentheses leave no trace in the tree.
-/

namespace LiveText.Formula

/-- The connectives of a level: the looser ones have the lower levels. -/
def connectivesAt : Nat → List (Punct × Connective)
  | 1 => [(.or, .logical .or), (.coalesce, .logical .coalesce)]
  | 2 => [(.and, .logical .and)]
  | 3 => [(.equal, .binary .equal), (.notEqual, .binary .notEqual),
      (.identical, .binary .identical), (.notIdentical, .binary .notIdentical)]
  | 4 => [(.below, .binary .below), (.atMost, .binary .atMost), (.above, .binary .above),
      (.atLeast, .binary .atLeast)]
  | 5 => [(.plus, .binary .add), (.minus, .binary .subtract)]
  | 6 => [(.times, .binary .multiply), (.slash, .binary .divide), (.percent, .binary .remainder)]
  | _ => []

/-- The operators in front of an operand. -/
def frontOperators : List (Punct × UnaryOp) :=
  [(.minus, .negate), (.plus, .number), (.bang, .not)]

/-- The names that are literals. -/
def constants : List (String × Value) :=
  [("true", .bool true), ("false", .bool false), ("null", .null), ("undefined", .undefined),
    ("NaN", .number .nan), ("Infinity", .number (.infinity false))]

/-- The categories of words. -/
inductive Category where
  | expression
  /-- Operands with connectives of a level or tighter ones; of the seventh level, one operand. -/
  | operands (level : Nat)
  /-- A value with the operators in front of it. -/
  | operand
  /-- A value with the accesses after it. -/
  | accessed
  | primary

/-- The words of a category and the tree of each. The items of a list, and the arguments of a call,
are words with their trees; commas stand between the words. -/
inductive Derives : Category → List Token → Expr → Prop
  | operands {w : List Token} {e : Expr} (h : Derives (.operands 1) w e) : Derives .expression w e
  | conditional {u v w : List Token} {test yes no : Expr} (htest : Derives (.operands 1) u test)
      (hyes : Derives .expression v yes) (hno : Derives .expression w no) :
      Derives .expression (u ++ .punct .question :: v ++ .punct .colon :: w)
        (.conditional test yes no)
  | link {level : Nat} {p : Punct} {op : Connective} {u v : List Token} {left right : Expr}
      (hop : (p, op) ∈ connectivesAt level) (hleft : Derives (.operands level) u left)
      (hright : Derives (.operands (level + 1)) v right) :
      Derives (.operands level) (u ++ .punct p :: v) (op.join left right)
  | tighter {level : Nat} {w : List Token} {e : Expr} (h : Derives (.operands (level + 1)) w e) :
      Derives (.operands level) w e
  | operand {w : List Token} {e : Expr} (h : Derives .operand w e) : Derives (.operands 7) w e
  | unary {p : Punct} {op : UnaryOp} {w : List Token} {e : Expr} (hop : (p, op) ∈ frontOperators)
      (h : Derives .operand w e) : Derives .operand (.punct p :: w) (.unary op e)
  | accessed {w : List Token} {e : Expr} (h : Derives .accessed w e) : Derives .operand w e
  | primary {w : List Token} {e : Expr} (h : Derives .primary w e) : Derives .accessed w e
  | member {w : List Token} {e : Expr} {property : String} (h : Derives .accessed w e) :
      Derives .accessed (w ++ [.punct .dot, .name property]) (.member e property)
  | index {u v : List Token} {e key : Expr} (h : Derives .accessed u e)
      (hkey : Derives .expression v key) :
      Derives .accessed (u ++ .punct .openBracket :: v ++ [.punct .closeBracket]) (.index e key)
  | call {w : List Token} {e : Expr} {args : List (List Token × Expr)} (h : Derives .accessed w e)
      (hargs : ∀ arg ∈ args, Derives .expression arg.1 arg.2) :
      Derives .accessed
        (w ++ .punct .openParen :: [.punct .comma].intercalate (args.map Prod.fst) ++
          [.punct .closeParen])
        (.call e (args.map Prod.snd))
  | number {x : Double} : Derives .primary [.number x] (.literal (.number x))
  | string {s : String} : Derives .primary [.string s] (.literal (.string s))
  | constant {name : String} {v : Value} (h : (name, v) ∈ constants) :
      Derives .primary [.name name] (.literal v)
  | name {name : String} (h : ∀ v, (name, v) ∉ constants) :
      Derives .primary [.name name] (.name name)
  | parenthesized {w : List Token} {e : Expr} (h : Derives .expression w e) :
      Derives .primary (.punct .openParen :: w ++ [.punct .closeParen]) e
  | list {items : List (List Token × Expr)}
      (h : ∀ item ∈ items, Derives .expression item.1 item.2) :
      Derives .primary
        (.punct .openBracket :: [.punct .comma].intercalate (items.map Prod.fst) ++
          [.punct .closeBracket])
        (.list (items.map Prod.snd))

/-! ### The tables of the reading -/

/-- What is a connective for the reading is one of the grammar, of the same level. -/
theorem connective?_eq_some_iff {p : Punct} {level : Nat} {op : Connective} :
    p.connective? = some (level, op) ↔ (p, op) ∈ connectivesAt level := by
  constructor
  · intro h
    cases p <;> simp only [Punct.connective?, reduceCtorEq, Option.some.injEq, Prod.mk.injEq] at h
    all_goals
      obtain ⟨rfl, rfl⟩ := h
      decide
  · have htable : ∀ entry ∈ connectivesAt level, entry.1.connective? = some (level, entry.2) := by
      match level with
      | 1 | 2 | 3 | 4 | 5 | 6 => decide
      | 0 | _ + 7 => simp [connectivesAt]
    exact htable (p, op)

theorem level_le_of_connective? {p : Punct} {level : Nat} {op : Connective}
    (h : p.connective? = some (level, op)) : level ≤ 6 := by
  cases p <;> simp only [Punct.connective?, reduceCtorEq, Option.some.injEq, Prod.mk.injEq] at h <;>
    omega

theorem unary?_eq_some_iff {p : Punct} {op : UnaryOp} :
    p.unary? = some op ↔ (p, op) ∈ frontOperators := by
  cases p <;> cases op <;> decide

/-- A name is read as the literal that it is, or else as itself. -/
theorem ofName_cases (name : String) :
    (∃ v, (name, v) ∈ constants ∧ Expr.ofName name = .literal v) ∨
      (∀ v, (name, v) ∉ constants) ∧ Expr.ofName name = .name name := by
  unfold Expr.ofName
  split
  case h_7 h₁ h₂ h₃ h₄ h₅ h₆ =>
    refine Or.inr ⟨fun v hv => ?_, rfl⟩
    have hname : name ∈ constants.map Prod.fst := List.mem_map_of_mem (f := Prod.fst) hv
    simp only [constants, List.map_cons, List.map_nil, List.mem_cons, List.not_mem_nil,
      or_false] at hname
    exact hname.elim h₁ (·.elim h₂ (·.elim h₃ (·.elim h₄ (·.elim h₅ h₆))))
  all_goals
    refine Or.inl ⟨_, ?_, rfl⟩
    simp [constants]

theorem ofName_constant {name : String} {v : Value} (h : (name, v) ∈ constants) :
    Expr.ofName name = .literal v := by
  simp only [constants, List.mem_cons, Prod.mk.injEq, List.not_mem_nil, or_false] at h
  rcases h with ⟨rfl, rfl⟩ | ⟨rfl, rfl⟩ | ⟨rfl, rfl⟩ | ⟨rfl, rfl⟩ | ⟨rfl, rfl⟩ | ⟨rfl, rfl⟩ <;> rfl

/-! ### The beginnings of words -/

/-- The punctuation that words of a category begin with. -/
def Category.MayBegin : Category → Punct → Prop
  | accessed, p | primary, p => p = .openParen ∨ p = .openBracket
  | _, p => p = .openParen ∨ p = .openBracket ∨ ∃ op, (p, op) ∈ frontOperators

private theorem Category.MayBegin.expression {cat : Category} {p : Punct} (h : cat.MayBegin p) :
    Category.expression.MayBegin p := by
  cases cat with
  | accessed | primary => exact h.imp_right Or.inl
  | _ => exact h

theorem not_mayBegin_close {p : Punct} (h : p ∈ [.closeParen, .closeBracket]) :
    ¬ Category.expression.MayBegin p := by
  simp only [List.mem_cons, List.not_mem_nil, or_false] at h
  rintro (hp | hp | ⟨op, hop⟩)
  · rcases h with rfl | rfl <;> cases hp
  · rcases h with rfl | rfl <;> cases hp
  · have hunary := unary?_eq_some_iff.mpr hop
    rcases h with rfl | rfl <;> cases hunary

/-- A word of a category has a first token, which is no punctuation or one that may begin it. -/
theorem Derives.exists_head {cat : Category} {w : List Token} {e : Expr} (h : Derives cat w e) :
    ∃ t rest, w = t :: rest ∧ ∀ p, t = .punct p → cat.MayBegin p := by
  induction h with
  | operands _ ih | tighter _ ih | operand _ ih | primary _ ih => exact ih
  | accessed _ ih =>
    obtain ⟨t, rest, hw, hbegin⟩ := ih
    exact ⟨t, rest, hw, fun p hp => (hbegin p hp).expression⟩
  | conditional _ _ _ ih | link _ _ _ ih | member _ ih | index _ _ ih | call _ _ ih =>
    obtain ⟨t, rest, rfl, hbegin⟩ := ih
    simp only [List.cons_append]
    exact ⟨t, _, rfl, hbegin⟩
  | @unary p op _ _ hop =>
    refine ⟨_, _, rfl, fun q hq => ?_⟩
    cases hq
    exact Or.inr (Or.inr ⟨op, hop⟩)
  | number | string | constant | name => exact ⟨_, _, rfl, nofun⟩
  | parenthesized =>
    refine ⟨_, _, rfl, fun p hp => ?_⟩
    cases hp
    exact Or.inl rfl
  | list =>
    refine ⟨_, _, rfl, fun p hp => ?_⟩
    cases hp
    exact Or.inr rfl

/-- Operands of a level are operands of every looser one. -/
theorem Derives.loosened {level level' : Nat} {w : List Token} {e : Expr}
    (h : Derives (.operands level') w e) (hle : level ≤ level') :
    Derives (.operands level) w e := by
  induction hle with
  | refl => exact h
  | step _ ih => exact ih h.tighter

end LiveText.Formula
