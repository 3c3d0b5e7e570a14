import LiveText.Proofs.Formula.Depth

/-!
# Formulas as high as the limit allows

A tower puts a formula in parentheses, and behind them as many accesses, sums and a conditional as
the limit still allows; the next level does the same with one more. So the bound on the height of
what is read is exact, and under every limit above two there are formulas that are read and then are
too deep to be evaluated: `exists_read_tooDeep`.
-/

namespace LiveText

namespace Formula

open Budgeted
open LiveText.Expr hiding name

/-! ### The tokens and their tree -/

/-- A punctuation; where it stands does not matter to reading. -/
def mark (p : Punct) : PlacedToken := ⟨.punct p, 0⟩

/-- A name. -/
def letter : PlacedToken := ⟨.name "a", 0⟩

/-- Names behind a punctuation each, in front of a rest. -/
def links (p : Punct) : Nat → List PlacedToken → List PlacedToken
  | 0, rest => rest
  | k + 1, rest => mark p :: letter :: links p k rest

/-- A formula with so many levels of parentheses in front of a rest. -/
def tower : Nat → List PlacedToken → List PlacedToken
  | 0, rest => letter :: rest
  | n + 1, rest => mark .openParen :: tower n (mark .closeParen :: links .dot (n + 1)
      (links .plus (n + 1) (mark .question :: letter :: mark .colon :: letter :: rest)))

/-- The tree of accesses. -/
def dotted : Nat → Expr → Expr
  | 0, e => e
  | k + 1, e => dotted k (.member e "a")

/-- The tree of sums. -/
def summed : Nat → Expr → Expr
  | 0, e => e
  | k + 1, e => summed k (.binary .add e (.name "a"))

/-- The tree of a tower. -/
def towerTree : Nat → Expr
  | 0 => .name "a"
  | n + 1 => .conditional (summed (n + 1) (dotted (n + 1) (towerTree n))) (.name "a") (.name "a")

private theorem height_dotted (k : Nat) (e : Expr) : (dotted k e).height = e.height + k := by
  induction k generalizing e with
  | zero => rfl
  | succ k ih =>
    rw [dotted, ih, height]
    omega

private theorem height_summed (k : Nat) (e : Expr) : (summed k e).height = e.height + k := by
  induction k generalizing e with
  | zero => rfl
  | succ k ih =>
    rw [summed, ih, height, height]
    omega

/-- Every level adds two for each access of it and one. -/
theorem height_towerTree (n : Nat) : (towerTree n).height + 1 = (n + 1) * (n + 1) := by
  induction n with
  | zero => rw [towerTree, height]
  | succ n ih =>
    have hsquare := succ_mul_succ_self (n + 1)
    rw [towerTree, height, height, height_summed, height_dotted]
    omega

/-! ### Reading a tower -/

variable {limit reserve d : Nat} {rest : List PlacedToken}

/-- The punctuation in front of tokens. -/
def front? (rest : List PlacedToken) : Option Punct := (Cursor.mk rest 0).punct?

/-- What no access and no connective goes on with. -/
def Closed (rest : List PlacedToken) : Prop :=
  front? rest ∈ [none, some .question, some .colon, some .closeParen]

private theorem closed_mark {p : Punct} (h : p ∈ [.question, .colon, .closeParen]) :
    Closed (mark p :: rest) := by
  have hfront : front? (mark p :: rest) = some p := rfl
  simpa [Closed, hfront] using h

private theorem enter_of_le (h : d + 1 ≤ limit) :
    (Descent.upTo limit).enter ⟨rest, d⟩ = .ok ⟨rest, d + 1⟩ := if_neg (Nat.not_lt.mpr h)

private theorem accesses_end_of_front {e : Expr}
    (h : ∀ p ∈ accessPunctuation, front? rest ≠ some p) :
    accesses (.upTo limit) (reserve + 1) e ⟨rest, d⟩ = .ok (e, ⟨rest, d⟩) := by
  rw [accesses]
  split
  case h_4 => rfl
  case h_1 hfront => exact absurd hfront (h .dot (by decide))
  case h_2 hfront => exact absurd hfront (h .openBracket (by decide))
  case h_3 hfront => exact absurd hfront (h .openParen (by decide))

private theorem chain_end_of_closed {level : Nat} {e : Expr} (h : Closed rest) :
    chain (.upTo limit) (reserve + 1) level e ⟨rest, d⟩ = .ok (e, ⟨rest, d⟩) := by
  have hnone : (Cursor.mk rest d).punct?.bind Punct.connective? = none := by
    have hfront : (Cursor.mk rest d).punct? = front? rest := rfl
    rw [hfront]
    simp only [Closed, List.mem_cons, List.not_mem_nil, or_false] at h
    rcases h with h | h | h | h <;> rw [h] <;> rfl
  rw [chain, hnone]

/-- A name in front of what is no access. -/
theorem operand_letter (h : ∀ p ∈ accessPunctuation, front? rest ≠ some p) :
    operand (.upTo limit) (reserve + 3) ⟨letter :: rest, d⟩ = .ok (.name "a", ⟨rest, d⟩) := by
  have hread : primary (.upTo limit) (reserve + 1) ⟨letter :: rest, d⟩ =
      .ok (.name "a", ⟨rest, d⟩) := rfl
  have hend : accesses (.upTo limit) (reserve + 1) (.name "a") ⟨rest, d⟩ =
      .ok (.name "a", ⟨rest, d⟩) := accesses_end_of_front h
  have hnone : (Cursor.mk (letter :: rest) d).punct?.bind Punct.unary? = none := rfl
  rw [operand, hnone]
  dsimp only
  rw [accessed, hread]
  dsimp only [Bind.bind, Except.bind]
  rw [hend]
  rfl

private theorem Closed.not_access (h : Closed rest) :
    ∀ p ∈ accessPunctuation, front? rest ≠ some p := by
  simp only [Closed, List.mem_cons, List.not_mem_nil, or_false] at h
  rcases h with h | h | h | h <;> rw [h] <;> decide

private theorem accesses_links {k : Nat} {e : Expr} (hreserve : k < reserve)
    (hdepth : d + k ≤ limit) (hrest : ∀ p ∈ accessPunctuation, front? rest ≠ some p) :
    accesses (.upTo limit) reserve e ⟨links .dot k rest, d⟩ = .ok (dotted k e, ⟨rest, d + k⟩) := by
  induction k generalizing reserve d e with
  | zero =>
    obtain ⟨reserve, rfl⟩ := Nat.exists_eq_succ_of_ne_zero (Nat.ne_of_gt hreserve)
    exact accesses_end_of_front hrest
  | succ k ih =>
    obtain ⟨reserve, rfl⟩ := Nat.exists_eq_succ_of_ne_zero (Nat.ne_zero_of_lt hreserve)
    have hskip : (Cursor.mk (links .dot (k + 1) rest) d).skip =
      ⟨letter :: links .dot k rest, d⟩ := rfl
    have hfront : (Cursor.mk (links .dot (k + 1) rest) d).punct? = some .dot := rfl
    rw [accesses, hfront]
    dsimp only
    rw [hskip, enter_of_le (by omega)]
    have hmore : accesses (.upTo limit) reserve (.member e "a") ⟨links .dot k rest, d + 1⟩ =
        .ok (dotted k (.member e "a"), ⟨rest, d + 1 + k⟩) := ih (by omega) (by omega)
    rw [Nat.add_right_comm d 1 k] at hmore
    exact hmore

/-- A sum in front of what goes on with no access takes the name behind it. -/
private theorem operands_letter (h : front? rest = some .plus ∨ Closed rest) :
    operands (.upTo limit) (reserve + 4) 6 ⟨letter :: rest, d⟩ = .ok (.name "a", ⟨rest, d⟩) := by
  have hend : chain (.upTo limit) (reserve + 3) 6 (.name "a") ⟨rest, d⟩ =
      .ok (.name "a", ⟨rest, d⟩) := by
    rcases h with hplus | hclosed
    · have hlink : (Cursor.mk rest d).punct?.bind Punct.connective? = some (5, .binary .add) := by
        have hfront : (Cursor.mk rest d).punct? = front? rest := rfl
        rw [hfront, hplus]
        rfl
      rw [chain, hlink]
      rfl
    · exact chain_end_of_closed hclosed
  have hrest : ∀ p ∈ accessPunctuation, front? rest ≠ some p := by
    rcases h with hplus | hclosed
    · rw [hplus]
      decide
    · exact hclosed.not_access
  have hoperand : operand (.upTo limit) (reserve + 3) ⟨letter :: rest, d⟩ =
      .ok (.name "a", ⟨rest, d⟩) :=
    operand_letter hrest
  rw [operands, hoperand]
  dsimp only [Bind.bind, Except.bind]
  rw [hend]
  rfl

private theorem chain_links {k : Nat} {e : Expr} (hreserve : k + 4 ≤ reserve)
    (hdepth : d + k ≤ limit) (hrest : Closed rest) :
    chain (.upTo limit) reserve 1 e ⟨links .plus k rest, d⟩ = .ok (summed k e, ⟨rest, d + k⟩) := by
  induction k generalizing reserve d e with
  | zero =>
    obtain ⟨reserve, rfl⟩ := Nat.exists_eq_add_of_le' hreserve
    exact chain_end_of_closed hrest
  | succ k ih =>
    obtain ⟨reserve, rfl⟩ := Nat.exists_eq_add_of_le' hreserve
    have hskip : (Cursor.mk (links .plus (k + 1) rest) d).skip =
      ⟨letter :: links .plus k rest, d⟩ := rfl
    have hlink : (Cursor.mk (links .plus (k + 1) rest) d).punct?.bind Punct.connective? =
      some (5, .binary .add) := rfl
    have hright : operands (.upTo limit) (reserve + k + 4) 6 ⟨letter :: links .plus k rest, d + 1⟩ =
        .ok (.name "a", ⟨links .plus k rest, d + 1⟩) := by
      refine operands_letter ?_
      cases k with
      | zero => exact .inr hrest
      | succ k => exact .inl rfl
    have hmore : chain (.upTo limit) (reserve + k + 4) 1 (.binary .add e (.name "a"))
        ⟨links .plus k rest, d + 1⟩ =
          .ok (summed k (.binary .add e (.name "a")), ⟨rest, d + 1 + k⟩) :=
      ih (by omega) (by omega)
    have hreserve' : reserve + (k + 1 + 4) = reserve + k + 4 + 1 := by omega
    rw [hreserve', chain, hlink]
    dsimp only
    rw [if_neg (by decide), hskip, enter_of_le (by omega)]
    dsimp only [Bind.bind, Except.bind]
    rw [hright]
    dsimp only
    rw [Nat.add_right_comm d 1 k] at hmore
    exact hmore

/-- A name is a whole formula in front of what closes one. -/
theorem expression_letter (hreserve : 5 ≤ reserve) (hdepth : d + 1 ≤ limit) (hrest : Closed rest)
    (hne : front? rest ≠ some .question) :
    expression (.upTo limit) reserve ⟨letter :: rest, d⟩ = .ok (.name "a", ⟨rest, d⟩) := by
  obtain ⟨reserve, rfl⟩ := Nat.exists_eq_add_of_le' hreserve
  have hoperand : operand (.upTo limit) (reserve + 3) ⟨letter :: rest, d + 1⟩ =
      .ok (.name "a", ⟨rest, d + 1⟩) := operand_letter hrest.not_access
  have hend : chain (.upTo limit) (reserve + 3) 1 (.name "a") ⟨rest, d + 1⟩ =
      .ok (.name "a", ⟨rest, d + 1⟩) := chain_end_of_closed hrest
  have htest : operands (.upTo limit) (reserve + 4) 1 ⟨letter :: rest, d + 1⟩ =
      .ok (.name "a", ⟨rest, d + 1⟩) := by
    rw [operands, hoperand]
    dsimp only [Bind.bind, Except.bind]
    rw [hend]
    rfl
  have hquestion : (Cursor.mk rest (d + 1)).eat? .question = none := if_neg hne
  rw [expression, enter_of_le hdepth]
  dsimp only [Bind.bind, Except.bind]
  rw [htest]
  dsimp only
  rw [hquestion]
  rfl

/-- A level of a tower is read if what its parentheses enclose is. -/
private theorem operands_level {k : Nat} {e : Expr} {inside : List PlacedToken}
    (hinside : expression (.upTo limit) reserve ⟨inside, d⟩ =
      .ok (e, ⟨mark .closeParen :: links .dot k (links .plus k rest), d⟩))
    (hreserve : k + 2 ≤ reserve) (hdepth : d + k ≤ limit) (hrest : Closed rest) (hk : 0 < k) :
    operands (.upTo limit) (reserve + 4) 1 ⟨mark .openParen :: inside, d⟩ =
      .ok (summed k (dotted k e), ⟨rest, d⟩) := by
  have hprimary : primary (.upTo limit) (reserve + 1) ⟨mark .openParen :: inside, d⟩ =
      .ok (e, ⟨links .dot k (links .plus k rest), d⟩) := by
    have hskip : (Cursor.mk (mark .openParen :: inside) d).skip = ⟨inside, d⟩ := rfl
    rw [primary]
    dsimp only [mark]
    rw [← mark, hskip, hinside]
    rfl
  have hlinks : ∀ p ∈ accessPunctuation, front? (links .plus k rest) ≠ some p := by
    obtain ⟨k, rfl⟩ := Nat.exists_eq_succ_of_ne_zero (Nat.ne_of_gt hk)
    have hfront : front? (links .plus (k + 1) rest) = some .plus := rfl
    rw [hfront]
    decide
  have haccesses : accesses (.upTo limit) (reserve + 1) e ⟨links .dot k (links .plus k rest), d⟩ =
      .ok (dotted k e, ⟨links .plus k rest, d + k⟩) := accesses_links (by omega) hdepth hlinks
  have hchain : chain (.upTo limit) (reserve + 3) 1 (dotted k e) ⟨links .plus k rest, d⟩ =
      .ok (summed k (dotted k e), ⟨rest, d + k⟩) := chain_links (by omega) hdepth hrest
  have hoperand : operand (.upTo limit) (reserve + 3) ⟨mark .openParen :: inside, d⟩ =
      .ok (dotted k e, ⟨links .plus k rest, d⟩) := by
    have hnone : (Cursor.mk (mark .openParen :: inside) d).punct?.bind Punct.unary? = none := rfl
    rw [operand, hnone]
    dsimp only
    rw [accessed, hprimary]
    dsimp only [Bind.bind, Except.bind]
    rw [haccesses]
    rfl
  rw [operands, hoperand]
  dsimp only [Bind.bind, Except.bind]
  rw [hchain]
  rfl

/-- A tower is read under a limit of one level more than it has, whatever closes it. -/
theorem expression_tower {n : Nat} (hreserve : 5 * n + 5 ≤ reserve) (hdepth : d + n + 1 ≤ limit)
    (hrest : Closed rest) (hne : front? rest ≠ some .question) :
    expression (.upTo limit) reserve ⟨tower n rest, d⟩ = .ok (towerTree n, ⟨rest, d⟩) := by
  induction n generalizing reserve d rest with
  | zero => exact expression_letter hreserve hdepth hrest hne
  | succ n ih =>
    obtain ⟨reserve, rfl⟩ := Nat.exists_eq_add_of_le' hreserve
    let tail := mark .question :: letter :: mark .colon :: letter :: rest
    let behind := links .dot (n + 1) (links .plus (n + 1) tail)
    have hinside : expression (.upTo limit) (reserve + 5 * n + 5)
        ⟨tower n (mark .closeParen :: behind), d + 1⟩ =
        .ok (towerTree n, ⟨mark .closeParen :: behind, d + 1⟩) :=
      ih (by omega) (by omega) (closed_mark (by decide)) nofun
    have htest : operands (.upTo limit) (reserve + 5 * n + 9) 1 ⟨tower (n + 1) rest, d + 1⟩ =
        .ok (summed (n + 1) (dotted (n + 1) (towerTree n)), ⟨tail, d + 1⟩) :=
      operands_level hinside (by omega) (by omega) (closed_mark (by decide)) n.succ_pos
    have hyes : expression (.upTo limit) (reserve + 5 * n + 9)
        ⟨letter :: mark .colon :: letter :: rest, d + 1⟩ =
        .ok (.name "a", ⟨mark .colon :: letter :: rest, d + 1⟩) :=
      expression_letter (by omega) (by omega) (closed_mark (by decide)) nofun
    have hno : expression (.upTo limit) (reserve + 5 * n + 9) ⟨letter :: rest, d + 1⟩ =
        .ok (.name "a", ⟨rest, d + 1⟩) := expression_letter (by omega) (by omega) hrest hne
    have hreserve' : reserve + (5 * (n + 1) + 5) = reserve + 5 * n + 9 + 1 := by omega
    have hquestion : (Cursor.mk tail (d + 1)).eat? .question =
      some ⟨letter :: mark .colon :: letter :: rest, d + 1⟩ := rfl
    have hcolon : (Descent.upTo limit).lift
      ((Cursor.mk (mark .colon :: letter :: rest) (d + 1)).expect .colon) =
        .ok ⟨letter :: rest, d + 1⟩ := rfl
    rw [hreserve', expression, enter_of_le (by omega)]
    dsimp only [Bind.bind, Except.bind]
    rw [htest]
    dsimp only
    rw [hquestion]
    dsimp only
    rw [hyes]
    dsimp only
    rw [hcolon]
    dsimp only
    rw [hno]
    rfl

private theorem length_links (p : Punct) (k : Nat) (rest : List PlacedToken) :
    (links p k rest).length = 2 * k + rest.length := by
  induction k with
  | zero => rw [links, Nat.mul_zero, Nat.zero_add]
  | succ k ih =>
    rw [links, List.length_cons, List.length_cons, ih]
    omega

private theorem length_tower (n : Nat) (rest : List PlacedToken) :
    n + rest.length ≤ (tower n rest).length := by
  induction n generalizing rest with
  | zero =>
    rw [tower, List.length_cons]
    omega
  | succ n ih =>
    have hinside := ih (mark .closeParen :: links .dot (n + 1) (links .plus (n + 1)
      (mark .question :: letter :: mark .colon :: letter :: rest)))
    simp only [List.length_cons, length_links] at hinside
    rw [tower, List.length_cons]
    omega

/-- A tower of one level less than the limit is read as its tree. -/
theorem ofTokens_tower (n : Nat) : ofTokens (n + 1) (tower n []) = .ok (towerTree n) := by
  have hlength := length_tower n []
  have hread : expression (.upTo (n + 1)) (reserveFor (tower n []).length) ⟨tower n [], 0⟩ =
      .ok (towerTree n, ⟨[], 0⟩) := by
    refine expression_tower ?_ (by omega) (List.mem_cons_self ..) nofun
    rw [reserveFor]
    omega
  rw [ofTokens, hread]
  rfl

/-! ### Evaluating a tower -/

variable {s : Surroundings}

/-- A failure is not recovered from. -/
theorem outcome_bind_of_error {α β : Type} {m : Budgeted α} {u : Usage} {e : FormulaError}
    (h : (outcome m u).1 = .error e) (f : α → Budgeted β) :
    (outcome (m >>= f) u).1 = .error e := by
  rw [outcome_bind]
  rcases houtcome : outcome m u with ⟨x, used⟩
  rw [houtcome] at h
  subst h
  rfl

private theorem outcome_visit {depth : Nat} {u : Usage} (h : u.steps + 1 ≤ s.limits.maxSteps) :
    outcome (visit s depth) u = (if 2 * s.limits.maxDepth < depth
      then .error (.tooDeep s.limits.maxDepth) else .ok (), { u with steps := u.steps + 1 }) := by
  unfold visit
  rw [outcome_bind, outcome_spend, if_neg (Nat.not_lt.mpr h)]
  by_cases hdeep : 2 * s.limits.maxDepth < depth
  · rw [if_pos hdeep, if_pos hdeep]
    rfl
  · rw [if_neg hdeep, if_neg hdeep]
    rfl

/-- Whether an evaluation goes down the whole height of an expression before anything else: with
steps enough it is too deep where that is beyond twice the limit. -/
def Sinks (s : Surroundings) (e : Expr) : Prop :=
  ∀ depth u, depth ≤ 2 * s.limits.maxDepth + 1 → 2 * s.limits.maxDepth < depth + e.height →
    u.steps + (2 * s.limits.maxDepth + 2) ≤ s.limits.maxSteps + depth →
    (outcome (eval s depth e) u).1 = .error (.tooDeep s.limits.maxDepth)

/-- An expression sinks with its first part, if that is the highest. -/
theorem Sinks.first {first e : Expr} (h : Sinks s first) (hheight : e.height ≤ first.height + 1)
    {f : Nat → Value → Budgeted Value}
    (heval : ∀ depth, eval s depth e =
      visit s depth >>= fun _ => eval s (depth + 1) first >>= f depth) : Sinks s e := by
  intro depth u hdepth hbeyond hsteps
  rw [heval, outcome_bind, outcome_visit (by omega)]
  by_cases hdeep : 2 * s.limits.maxDepth < depth
  · rw [if_pos hdeep]
  · rw [if_neg hdeep]
    have hsteps' : u.steps + 1 + (2 * s.limits.maxDepth + 2) ≤ s.limits.maxSteps + (depth + 1) := by
      omega
    exact outcome_bind_of_error (h (depth + 1) { u with steps := u.steps + 1 } (by omega)
      (by omega) hsteps') _

private theorem sinks_name : Sinks s (.name "a") := by
  intro depth u hdepth hbeyond hsteps
  rw [height] at hbeyond
  rw [eval]
  refine outcome_bind_of_error ?_ _
  rw [outcome_visit (by omega), if_pos (by omega)]

private theorem Sinks.member {e : Expr} (h : Sinks s e) (hconstant : constant? s e "a" = none) :
    Sinks s (.member e "a") := by
  refine h.first (Nat.le_of_eq (by rw [height])) (f := fun _ v => lift (v.property "a"))
    fun depth => ?_
  rw [eval, hconstant]

private theorem Sinks.binary {op : BinaryOp} {left right : Expr} (h : Sinks s left)
    (hle : right.height ≤ left.height) : Sinks s (.binary op left right) := by
  refine h.first (by rw [height]; omega)
    (f := fun depth v => do return op.apply v (← eval s (depth + 1) right)) fun depth => ?_
  rw [eval]

private theorem Sinks.conditional {test yes no : Expr} (h : Sinks s test)
    (hyes : yes.height ≤ test.height)
    (hno : no.height ≤ test.height) : Sinks s (.conditional test yes no) := by
  refine h.first (by rw [height]; omega)
    (f := fun depth v => if v.truthy then eval s (depth + 1) yes else eval s (depth + 1) no)
    fun depth => ?_
  rw [eval]

theorem height_letter_le (e : Expr) : (Expr.name "a").height ≤ e.height := by
  rw [height]
  exact Nat.zero_le _

private theorem constant?_eq_none {e : Expr} (h : ∀ name, e = .name name → name = "a") :
    constant? s e "a" = none := by
  cases e with
  | name name =>
    rw [h name rfl, constant?, namespace?]
    split <;> rfl
  | _ => rfl

private theorem Sinks.dotted {e : Expr} (h : Sinks s e)
    (hname : ∀ name, e = .name name → name = "a") (k : Nat) : Sinks s (dotted k e) := by
  induction k generalizing e with
  | zero => exact h
  | succ k ih => exact ih (h.member (constant?_eq_none hname)) nofun

private theorem Sinks.summed {e : Expr} (h : Sinks s e) (k : Nat) : Sinks s (summed k e) := by
  induction k generalizing e with
  | zero => exact h
  | succ k ih => exact ih (h.binary (height_letter_le e))

private theorem sinks_towerTree (n : Nat) : Sinks s (towerTree n) := by
  induction n with
  | zero => exact sinks_name
  | succ n ih =>
    have hname : ∀ name, towerTree n = .name name → name = "a" := by
      cases n with
      | zero =>
        rintro name ⟨⟩
        rfl
      | succ n => exact nofun
    exact ((ih.dotted hname (n + 1)).summed (n + 1)).conditional (height_letter_le _)
      (height_letter_le _)

/-- The height of what is read comes up to the square of the limit. Above a limit of two there is
something that is read and, with steps enough, is too deep to be evaluated in any scope. -/
theorem exists_read_tooDeep (limit : Nat) (h : 0 < limit) : ∃ tokens e,
    ofTokens limit tokens = .ok e ∧ e.height + 1 = limit * limit ∧
      ∀ s : Surroundings, s.limits.maxDepth = limit → 2 < limit →
        2 * limit + 2 ≤ s.limits.maxSteps →
          ∀ drawn, (outcome (eval s 0 e) { draws := drawn }).1 = .error (.tooDeep limit) := by
  obtain ⟨n, rfl⟩ := Nat.exists_eq_succ_of_ne_zero (Nat.ne_of_gt h)
  refine ⟨tower n [], towerTree n, ofTokens_tower n, height_towerTree n, ?_⟩
  intro s hlimit habove hsteps drawn
  have hheight := height_towerTree n
  have hsquare : (n + 1) * 3 ≤ (n + 1) * (n + 1) := Nat.mul_le_mul_left _ habove
  rw [← hlimit] at hsteps ⊢
  refine sinks_towerTree n 0 _ (Nat.zero_le _) (by omega) ?_
  dsimp only
  omega

end Formula

end LiveText
