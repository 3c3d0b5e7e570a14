import LiveText.Proofs.Formula.Soundness

/-!
# Completeness of the reading of formulas

Every word of the grammar is read as its tree unless that is too deep: `ofTokens_complete`. The
grammar is left-recursive where the reading loops; so for operands and for accesses the statement is
about the loop: with the word behind it, it has come to the tree of the word.
-/

namespace LiveText

/-- Whether a reading is too deep or has come to a place with `rest` to read, where `next` goes
on. -/
def GoesOn {α : Type} (limit : Nat) (x : Except FormulaError α) (rest : List Token)
    (next : Nat → Cursor → Except FormulaError α) : Prop :=
  x = .error (.tooDeep limit) ∨ ∃ reserve c, c.word = rest ∧ x = next reserve c

namespace GoesOn

variable {α β : Type} {limit : Nat} {rest rest' : List Token}

theorem tooDeep {next : Nat → Cursor → Except FormulaError α} :
    GoesOn limit (.error (.tooDeep limit)) rest next := Or.inl rfl

private theorem here {c : Cursor} (h : c.word = rest) (reserve : Nat)
    (next : Nat → Cursor → Except FormulaError α) : GoesOn limit (next reserve c) rest next :=
  Or.inr ⟨reserve, c, h, rfl⟩

theorem done {a : α} {c : Cursor} (h : c.word = rest) :
    GoesOn limit (.ok (a, c)) rest fun _ c => .ok (a, c) := Or.inr ⟨0, c, h, rfl⟩

theorem trans {x : Except FormulaError α} {next next' : Nat → Cursor → Except FormulaError α}
    (h : GoesOn limit x rest next)
    (hnext : ∀ reserve c, c.word = rest → GoesOn limit (next reserve c) rest' next') :
    GoesOn limit x rest' next' := by
  rcases h with rfl | ⟨reserve, c, hword, rfl⟩
  · exact tooDeep
  · exact hnext reserve c hword

theorem bind {x : Except FormulaError α} {next : Nat → Cursor → Except FormulaError α}
    {f : α → Except FormulaError β} {next' : Nat → Cursor → Except FormulaError β}
    (h : GoesOn limit x rest next)
    (hnext : ∀ reserve c, c.word = rest → GoesOn limit (next reserve c >>= f) rest' next') :
    GoesOn limit (x >>= f) rest' next' := by
  rcases h with rfl | ⟨reserve, c, hword, rfl⟩
  · exact tooDeep
  · exact hnext reserve c hword

/-- After a result, what follows goes on from it. -/
theorem andThen {x : Except FormulaError α} {result : Cursor → α}
    {f : α → Except FormulaError β} {next : Nat → Cursor → Except FormulaError β}
    (h : GoesOn limit x rest fun _ c => .ok (result c))
    (hnext : ∀ c, c.word = rest → GoesOn limit (f (result c)) rest' next) :
    GoesOn limit (x >>= f) rest' next := h.bind fun _ c hword => hnext c hword

theorem enter (c : Cursor) : GoesOn limit (c.enter limit) c.word fun _ c => .ok c := by
  unfold Cursor.enter
  split
  · exact tooDeep
  · exact Or.inr ⟨0, { c with depth := c.depth + 1 }, rfl, rfl⟩

end GoesOn

namespace Cursor

variable {c : Cursor} {p : Punct} {w : List Token}

private theorem eat?_of_word (h : c.word = .punct p :: w) : c.eat? p = some c.skip := by
  rw [eat?, if_pos (punct?_eq_some_iff.mpr ⟨w, h⟩)]

private theorem eat?_eq_none (h : ∀ w, c.word ≠ .punct p :: w) : c.eat? p = none := by
  rw [eat?, if_neg fun hfront => (punct?_eq_some_iff.mp hfront).elim h]

private theorem expect_of_word (h : c.word = .punct p :: w) : c.expect p = .ok c.skip := by
  rw [expect, eat?_of_word h]

private theorem exists_rest_of_word {t : Token} (h : c.word = t :: w) :
    ∃ position rest, c.rest = ⟨t, position⟩ :: rest := by
  obtain ⟨⟨token, position⟩, rest, hrest, rfl, -⟩ := List.map_eq_cons_iff.mp h
  exact ⟨position, rest, hrest⟩

end Cursor

namespace Formula

/-- The punctuation behind a word of a category that does not go on with it. -/
def Category.EndsAt : Category → Punct → Prop
  | expression, p => p ≠ .question ∧ p.connective? = none ∧ p ∉ accessPunctuation
  | operands level, p =>
    (∀ tightness op, p.connective? = some (tightness, op) → tightness ≤ level) ∧
      p ∉ accessPunctuation
  | operand, p => p ∉ accessPunctuation
  | accessed, _ | primary, _ => True

/-- Whether a word of a category ends before the rest. -/
def EndsBefore (cat : Category) (rest : List Token) : Prop :=
  ∀ p w, rest = .punct p :: w → cat.EndsAt p

private theorem endsBefore_cons {cat : Category} {p : Punct} {w : List Token} (h : cat.EndsAt p) :
    EndsBefore cat (.punct p :: w) := by
  rintro _ _ ⟨⟩
  exact h

/-- The punctuation that encloses or separates expressions ends them. -/
theorem endsBefore_closer {p : Punct} {w : List Token}
    (h : p ∈ [.closeParen, .closeBracket, .comma, .colon]) :
    EndsBefore .expression (.punct p :: w) := by
  refine endsBefore_cons ?_
  simp only [List.mem_cons, List.not_mem_nil, or_false] at h
  rcases h with rfl | rfl | rfl | rfl <;> exact ⟨by decide, rfl, by decide⟩

private theorem endsAt_question : (Category.operands 0).EndsAt .question :=
  ⟨fun _ _ hop => (by cases hop), by decide⟩

theorem EndsBefore.operands {rest : List Token} (h : EndsBefore .expression rest) :
    EndsBefore (.operands 0) rest := fun p w hw =>
  ⟨fun _ _ hop => by simp [(h p w hw).2.1] at hop, (h p w hw).2.2⟩

private theorem EndsBefore.operand {level : Nat} {rest : List Token}
    (h : EndsBefore (.operands level) rest) : EndsBefore .operand rest := fun p w hw => (h p w hw).2

theorem EndsBefore.tighter {level : Nat} {rest : List Token}
    (h : EndsBefore (.operands level) rest) : EndsBefore (.operands (level + 1)) rest :=
  fun p w hw =>
    ⟨fun tightness op hop => Nat.le_succ_of_le ((h p w hw).1 tightness op hop), (h p w hw).2⟩

variable {limit : Nat}

/-! ### The loops -/

/-- Both loops begin at the depth that is restored after them. -/
theorem operands_eq (limit reserve level : Nat) (c : Cursor) :
    operands (.upTo limit) (reserve + 1) level c =
      (operand (.upTo limit) reserve c >>= fun r =>
        chain (.upTo limit) reserve level r.1 r.2) >>= fun r =>
        .ok (r.1, r.2.atDepth c.depth) := by
  rw [operands]
  cases hleft : operand (.upTo limit) reserve c with
  | error e => rfl
  | ok r =>
    have hdepth : r.2.depth = c.depth := ((sound limit reserve).operand hleft).depth
    rw [← hdepth]
    rfl

private theorem accessed_eq (limit reserve : Nat) (c : Cursor) :
    accessed (.upTo limit) (reserve + 1) c =
      (primary (.upTo limit) reserve c >>= fun r =>
        accesses (.upTo limit) reserve r.1 r.2) >>= fun r =>
        .ok (r.1, r.2.atDepth c.depth) := by
  rw [accessed]
  cases hfirst : primary (.upTo limit) reserve c with
  | error e => rfl
  | ok r =>
    have hdepth : r.2.depth = c.depth := ((sound limit reserve).primary hfirst).depth
    rw [← hdepth]
    rfl

private theorem chain_ends {level : Nat} (reserve : Nat) (e : Expr) {c : Cursor}
    (h : EndsBefore (.operands level) c.word) :
    GoesOn limit (chain (.upTo limit) reserve (level + 1) e c) c.word fun _ c => .ok (e, c) := by
  cases reserve with
  | zero => exact .tooDeep
  | succ reserve =>
    rw [chain]
    cases hlink : c.punct?.bind Punct.connective? with
    | none => exact .done rfl
    | some link =>
      obtain ⟨p, w, hw, hop⟩ := Cursor.punct?_bind_eq_some_iff.mp hlink
      dsimp only
      rw [if_pos (Nat.lt_succ_of_le ((h p w hw).1 _ _ hop))]
      exact .done rfl

private theorem accesses_end (reserve : Nat) (e : Expr) {c : Cursor}
    (h : EndsBefore .operand c.word) :
    GoesOn limit (accesses (.upTo limit) reserve e c) c.word fun _ c => .ok (e, c) := by
  cases reserve with
  | zero => exact .tooDeep
  | succ reserve =>
    rw [accesses]
    split
    case h_4 => exact .done rfl
    all_goals
      rename_i hpunct
      obtain ⟨w, hw⟩ := Cursor.punct?_eq_some_iff.mp hpunct
      exact absurd (by decide) (h _ _ hw)

/-! ### Each category -/

/-- What completeness says of a word of a category and its tree. -/
def Found (limit : Nat) : Category → List Token → Expr → Prop
  | .expression, used, e => ∀ reserve c rest, c.word = used ++ rest → EndsBefore .expression rest →
      GoesOn limit (expression (.upTo limit) reserve c) rest fun _ c => .ok (e, c)
  | .operands level, used, e => ∀ reserve least c rest, least ≤ level → c.word = used ++ rest →
      EndsBefore (.operands level) rest →
      GoesOn limit (operand (.upTo limit) reserve c >>= fun r =>
          chain (.upTo limit) reserve least r.1 r.2) rest
        fun reserve c => chain (.upTo limit) reserve least e c
  | .operand, used, e => ∀ reserve c rest, c.word = used ++ rest → EndsBefore .operand rest →
      GoesOn limit (operand (.upTo limit) reserve c) rest fun _ c => .ok (e, c)
  | .accessed, used, e => ∀ reserve c rest, c.word = used ++ rest →
      GoesOn limit (primary (.upTo limit) reserve c >>= fun r =>
          accesses (.upTo limit) reserve r.1 r.2) rest
        fun reserve c => accesses (.upTo limit) reserve e c
  | .primary, used, e => ∀ reserve c rest, c.word = used ++ rest →
      GoesOn limit (primary (.upTo limit) reserve c) rest fun _ c => .ok (e, c)

namespace Found

variable {w : List Token} {e : Expr}

/-- A chain of operands is read to its end. -/
theorem operands {level : Nat} (h : Found limit (.operands (level + 1)) w e) (reserve : Nat)
    {c : Cursor} {rest : List Token} (hword : c.word = w ++ rest)
    (hends : EndsBefore (.operands level) rest) :
    GoesOn limit (Formula.operands (.upTo limit) reserve (level + 1) c) rest
      fun _ c => .ok (e, c) := by
  cases reserve with
  | zero => exact .tooDeep
  | succ reserve =>
    rw [operands_eq]
    refine (h reserve _ c rest (Nat.le_refl _) hword hends.tighter).bind fun reserve c' hc' => ?_
    subst hc'
    exact (chain_ends reserve e hends).andThen fun c'' hc'' => .done hc''

private theorem expression_of_operands (h : Found limit (.operands 1) w e) :
    Found limit .expression w e := by
  intro reserve c rest hword hends
  cases reserve with
  | zero => exact .tooDeep
  | succ reserve =>
    rw [expression]
    refine (GoesOn.enter c).andThen fun c hc => ?_
    refine (h.operands reserve (hc.trans hword) hends.operands).andThen fun c hc => ?_
    have hquestion : c.eat? .question = none :=
      Cursor.eat?_eq_none fun w hw => (hends _ w (hc.symm.trans hw)).1 rfl
    dsimp only
    rw [hquestion]
    exact .done hc

private theorem conditional {u v w : List Token} {test yes no : Expr}
    (htest : Found limit (.operands 1) u test) (hyes : Found limit .expression v yes)
    (hno : Found limit .expression w no) :
    Found limit .expression (u ++ .punct .question :: v ++ .punct .colon :: w)
      (.conditional test yes no) := by
  intro reserve c rest hword hends
  cases reserve with
  | zero => exact .tooDeep
  | succ reserve =>
    have hsplit : c.word = u ++ .punct .question :: (v ++ .punct .colon :: (w ++ rest)) := by
      simp [hword]
    rw [expression]
    refine (GoesOn.enter c).andThen fun c hc => ?_
    refine (htest.operands reserve (hc.trans hsplit)
      (endsBefore_cons endsAt_question)).andThen fun c hc => ?_
    dsimp only
    rw [Cursor.eat?_of_word hc]
    refine (hyes reserve c.skip _ (Cursor.word_skip_eq hc)
      (endsBefore_closer (by decide))).andThen fun c hc => ?_
    dsimp only
    rw [Cursor.expect_of_word hc]
    exact (hno reserve c.skip rest (Cursor.word_skip_eq hc) hends).andThen fun c hc => .done hc

private theorem link {level : Nat} {p : Punct} {op : Connective} {u v : List Token}
    {left right : Expr}
    (hop : (p, op) ∈ connectivesAt level) (hleft : Found limit (.operands level) u left)
    (hright : Found limit (.operands (level + 1)) v right) :
    Found limit (.operands level) (u ++ .punct p :: v) (op.join left right) := by
  intro reserve least c rest hleast hword hends
  have hp : p.connective? = some (level, op) := connective?_eq_some_iff.mpr hop
  have hsplit : c.word = u ++ .punct p :: (v ++ rest) := by simp [hword]
  -- The connective ends the operands to its left, which may hold links of its own level.
  have hlink : (Category.operands level).EndsAt p := by
    refine ⟨fun tightness op' hop' => ?_, fun haccess => ?_⟩
    · rw [hp] at hop'
      cases hop'
      exact Nat.le_refl _
    · simp only [accessPunctuation, List.mem_cons, List.not_mem_nil, or_false] at haccess
      rcases haccess with rfl | rfl | rfl <;> cases hp
  refine (hleft reserve least c _ hleast hsplit (endsBefore_cons hlink)).trans
    fun reserve c hc => ?_
  cases reserve with
  | zero => exact .tooDeep
  | succ reserve =>
    rw [chain, Cursor.punct?_bind_eq_some_iff.mpr ⟨p, _, hc, hp⟩]
    dsimp only
    rw [if_neg (Nat.not_lt.mpr hleast)]
    refine (GoesOn.enter c.skip).andThen fun c' hc' => ?_
    rw [Cursor.word_skip_eq hc] at hc'
    exact (hright.operands reserve hc' hends).andThen fun c hc =>
      .here hc reserve fun reserve c => chain (.upTo limit) reserve least (op.join left right) c

private theorem tighter {level : Nat} (h : Found limit (.operands (level + 1)) w e) :
    Found limit (.operands level) w e :=
  fun reserve least c rest hleast hword hends =>
    h reserve least c rest (Nat.le_succ_of_le hleast) hword hends.tighter

private theorem operands_of_operand (h : Found limit .operand w e) :
    Found limit (.operands 7) w e := by
  intro reserve least c rest hleast hword hends
  exact (h reserve c rest hword hends.operand).andThen fun c hc =>
    .here hc reserve fun reserve c => chain (.upTo limit) reserve least e c

private theorem unary {p : Punct} {op : UnaryOp} (hop : (p, op) ∈ frontOperators)
    (h : Found limit .operand w e) : Found limit .operand (.punct p :: w) (.unary op e) := by
  intro reserve c rest hword hends
  cases reserve with
  | zero => exact .tooDeep
  | succ reserve =>
    rw [operand, Cursor.punct?_bind_eq_some_iff.mpr ⟨p, _, hword, unary?_eq_some_iff.mpr hop⟩]
    refine (GoesOn.enter c.skip).andThen fun c' hc' => ?_
    rw [Cursor.word_skip_eq hword] at hc'
    exact (h reserve c' rest hc' hends).andThen fun c hc => .done hc

private theorem operand_of_accessed (hw : Derives .accessed w e) (h : Found limit .accessed w e) :
    Found limit .operand w e := by
  intro reserve c rest hword hends
  cases reserve with
  | zero => exact .tooDeep
  | succ reserve =>
    -- A value with accesses begins with no operator, so the reading takes none off.
    have hnone : c.punct?.bind Punct.unary? = none := by
      refine Option.eq_none_iff_forall_ne_some.mpr fun op hop => ?_
      obtain ⟨p, v, hv, hop⟩ := Cursor.punct?_bind_eq_some_iff.mp hop
      obtain ⟨t, more, rfl, hbegin⟩ := hw.exists_head
      rw [hv] at hword
      rcases hbegin p (List.cons.inj hword).1.symm with rfl | rfl <;> cases hop
    rw [operand, hnone]
    cases reserve with
    | zero => exact .tooDeep
    | succ reserve =>
      dsimp only
      rw [accessed_eq]
      refine (h reserve c rest hword).bind fun reserve c' hc' => ?_
      subst hc'
      exact (accesses_end reserve e hends).andThen fun c'' hc'' => .done hc''

private theorem accessed_of_primary (h : Found limit .primary w e) : Found limit .accessed w e :=
  fun reserve c rest hword => (h reserve c rest hword).andThen fun _ hc =>
    .here hc reserve fun reserve c => accesses (.upTo limit) reserve e c

private theorem member {property : String} (h : Found limit .accessed w e) :
    Found limit .accessed (w ++ [.punct .dot, .name property]) (.member e property) := by
  intro reserve c rest hword
  have hsplit : c.word = w ++ .punct .dot :: .name property :: rest := by simp [hword]
  refine (h reserve c _ hsplit).trans fun reserve c hc => ?_
  cases reserve with
  | zero => exact .tooDeep
  | succ reserve =>
    rw [accesses, Cursor.punct?_eq_some_iff.mpr ⟨_, hc⟩]
    refine (GoesOn.enter c.skip).andThen fun c' hc' => ?_
    rw [Cursor.word_skip_eq hc] at hc'
    obtain ⟨position, tail, hrest⟩ := Cursor.exists_rest_of_word hc'
    rw [hrest]
    exact .here (Cursor.word_skip_eq hc') reserve fun reserve c =>
      accesses (.upTo limit) reserve (.member e property) c

private theorem index {u v : List Token} {key : Expr} (h : Found limit .accessed u e)
    (hkey : Found limit .expression v key) :
    Found limit .accessed (u ++ .punct .openBracket :: v ++ [.punct .closeBracket])
      (.index e key) := by
  intro reserve c rest hword
  have hsplit : c.word = u ++ .punct .openBracket :: (v ++ .punct .closeBracket :: rest) := by
    simp [hword]
  refine (h reserve c _ hsplit).trans fun reserve c hc => ?_
  cases reserve with
  | zero => exact .tooDeep
  | succ reserve =>
    rw [accesses, Cursor.punct?_eq_some_iff.mpr ⟨_, hc⟩]
    refine (GoesOn.enter c.skip).andThen fun c' hc' => ?_
    rw [Cursor.word_skip_eq hc] at hc'
    refine (hkey reserve c' _ hc' (endsBefore_closer (by decide))).andThen fun c hc => ?_
    dsimp only
    rw [Cursor.expect_of_word hc]
    exact .here (Cursor.word_skip_eq hc) reserve fun reserve c =>
      accesses (.upTo limit) reserve (.index e key) c

private theorem items {close : Punct} (hclose : close ∈ [.closeParen, .closeBracket])
    {items : List (List Token × Expr)} (hne : items ≠ [])
    (h : ∀ item ∈ items, Found limit .expression item.1 item.2) (reserve : Nat) {c : Cursor}
    {rest : List Token}
    (hword : c.word = [.punct .comma].intercalate (items.map Prod.fst) ++ .punct close :: rest) :
    GoesOn limit (Formula.items (.upTo limit) reserve close c) rest
      fun _ c => .ok (items.map Prod.snd, c) := by
  have hcloser : close ∈ [.closeParen, .closeBracket, .comma, .colon] :=
    List.mem_append_left [Punct.comma, Punct.colon] hclose
  induction items generalizing reserve c with
  | nil => exact absurd rfl hne
  | cons item others ih =>
    obtain ⟨hitem, hothers⟩ := List.forall_mem_cons.mp h
    cases reserve with
    | zero => exact .tooDeep
    | succ reserve =>
      rw [Formula.items]
      cases others with
      | nil =>
        rw [List.map_singleton, List.intercalate_singleton] at hword
        refine (hitem reserve c _ hword (endsBefore_closer hcloser)).andThen fun c hc => ?_
        dsimp only
        rw [Cursor.eat?_of_word hc]
        exact .done (Cursor.word_skip_eq hc)
      | cons second others =>
        simp only [List.map_cons, List.intercalate_cons_cons, List.append_assoc,
          List.singleton_append] at hword
        refine (hitem reserve c _ hword (endsBefore_closer (by decide))).andThen fun c hc => ?_
        have hopen : c.eat? close = none := by
          refine Cursor.eat?_eq_none fun w hw => ?_
          rw [hc] at hw
          cases hw
          revert hclose
          decide
        dsimp only
        rw [hopen, Cursor.eat?_of_word hc]
        exact (ih (by simp) hothers reserve (Cursor.word_skip_eq hc)).andThen fun c hc => .done hc

theorem list {close : Punct} (hclose : close ∈ [.closeParen, .closeBracket])
    {items : List (List Token × Expr)}
    (hderives : ∀ item ∈ items, Derives .expression item.1 item.2)
    (h : ∀ item ∈ items, Found limit .expression item.1 item.2) (reserve : Nat)
    {c : Cursor} {rest : List Token}
    (hword : c.word = [.punct .comma].intercalate (items.map Prod.fst) ++ .punct close :: rest) :
    GoesOn limit (Formula.list (.upTo limit) reserve close c) rest
      fun _ c => .ok (items.map Prod.snd, c) := by
  cases reserve with
  | zero => exact .tooDeep
  | succ reserve =>
    rw [Formula.list]
    cases items with
    | nil =>
      rw [Cursor.eat?_of_word hword]
      exact .done (Cursor.word_skip_eq hword)
    | cons item others =>
      -- The list is not taken for an empty one: no expression begins with the closing token.
      have hopen : c.eat? close = none := by
        refine Cursor.eat?_eq_none fun w hw => ?_
        obtain ⟨t, more, hitem, hbegin⟩ := (hderives item List.mem_cons_self).exists_head
        have ht : t = .punct close := by
          rw [hw] at hword
          cases others <;> simp [hitem] at hword <;> exact hword.1.symm
        exact not_mayBegin_close hclose (hbegin close ht)
      rw [hopen]
      exact items hclose (by simp) h reserve hword

private theorem call {args : List (List Token × Expr)} (h : Found limit .accessed w e)
    (hderives : ∀ arg ∈ args, Derives .expression arg.1 arg.2)
    (hargs : ∀ arg ∈ args, Found limit .expression arg.1 arg.2) :
    Found limit .accessed
      (w ++ .punct .openParen :: [.punct .comma].intercalate (args.map Prod.fst) ++
        [.punct .closeParen])
      (.call e (args.map Prod.snd)) := by
  intro reserve c rest hword
  have hsplit : c.word = w ++ .punct .openParen ::
      ([.punct .comma].intercalate (args.map Prod.fst) ++ .punct .closeParen :: rest) := by
    simp [hword]
  refine (h reserve c _ hsplit).trans fun reserve c hc => ?_
  cases reserve with
  | zero => exact .tooDeep
  | succ reserve =>
    rw [accesses, Cursor.punct?_eq_some_iff.mpr ⟨_, hc⟩]
    refine (GoesOn.enter c.skip).andThen fun c' hc' => ?_
    rw [Cursor.word_skip_eq hc] at hc'
    refine (list (by decide) hderives hargs reserve hc').andThen fun c hc => ?_
    exact .here hc reserve fun reserve c =>
      accesses (.upTo limit) reserve (.call e (args.map Prod.snd)) c

private theorem parenthesized (h : Found limit .expression w e) :
    Found limit .primary (.punct .openParen :: w ++ [.punct .closeParen]) e := by
  intro reserve c rest hword
  cases reserve with
  | zero => exact .tooDeep
  | succ reserve =>
    have hsplit : c.word = .punct .openParen :: (w ++ .punct .closeParen :: rest) := by simp [hword]
    obtain ⟨position, tail, hrest⟩ := Cursor.exists_rest_of_word hsplit
    rw [primary, hrest]
    refine (h reserve c.skip _ (Cursor.word_skip_eq hsplit)
      (endsBefore_closer (by decide))).andThen fun c hc => ?_
    dsimp only
    rw [Cursor.expect_of_word hc]
    exact .done (Cursor.word_skip_eq hc)

private theorem list_primary {items : List (List Token × Expr)}
    (hderives : ∀ item ∈ items, Derives .expression item.1 item.2)
    (h : ∀ item ∈ items, Found limit .expression item.1 item.2) :
    Found limit .primary
      (.punct .openBracket :: [.punct .comma].intercalate (items.map Prod.fst) ++
        [.punct .closeBracket])
      (.list (items.map Prod.snd)) := by
  intro reserve c rest hword
  cases reserve with
  | zero => exact .tooDeep
  | succ reserve =>
    have hsplit : c.word = .punct .openBracket ::
        ([.punct .comma].intercalate (items.map Prod.fst) ++ .punct .closeBracket :: rest) := by
      simp [hword]
    obtain ⟨position, tail, hrest⟩ := Cursor.exists_rest_of_word hsplit
    rw [primary, hrest]
    refine (GoesOn.enter c.skip).andThen fun c' hc' => ?_
    rw [Cursor.word_skip_eq hsplit] at hc'
    refine (list (by decide) hderives h reserve hc').andThen fun c hc => ?_
    exact .done hc

/-- A primary of one token. -/
theorem single {t : Token} (h : ∀ reserve c position tail, c.rest = ⟨t, position⟩ :: tail →
    primary (.upTo limit) (reserve + 1) c = .ok (e, c.skip)) : Found limit .primary [t] e := by
  intro reserve c rest hword
  cases reserve with
  | zero => exact .tooDeep
  | succ reserve =>
    obtain ⟨position, tail, hrest⟩ := Cursor.exists_rest_of_word hword
    rw [h reserve c position tail hrest]
    exact .done (Cursor.word_skip_eq hword)

end Found

/-- Every word of a category is found, by the productions that it derives from. -/
theorem found (limit : Nat) {cat : Category} {w : List Token} {e : Expr} (h : Derives cat w e) :
    Found limit cat w e := by
  induction h with
  | operands _ ih => exact ih.expression_of_operands
  | conditional _ _ _ htest hyes hno => exact .conditional htest hyes hno
  | link hop _ _ hleft hright => exact .link hop hleft hright
  | tighter _ ih => exact ih.tighter
  | operand _ ih => exact ih.operands_of_operand
  | unary hop _ ih => exact ih.unary hop
  | accessed h ih => exact .operand_of_accessed h ih
  | primary _ ih => exact ih.accessed_of_primary
  | member _ ih => exact ih.member
  | index _ _ ih hkey => exact ih.index hkey
  | call _ hderives ih hargs => exact ih.call hderives hargs
  | number => exact .single fun _ _ _ _ hrest => by rw [primary, hrest]
  | string => exact .single fun _ _ _ _ hrest => by rw [primary, hrest]
  | constant h => exact .single fun _ _ _ _ hrest => by rw [primary, hrest, ← ofName_constant h]
  | name h =>
    refine .single fun _ _ _ _ hrest => ?_
    rcases ofName_cases _ with ⟨v, hv, -⟩ | ⟨-, hread⟩
    · exact absurd hv (h v)
    · rw [primary, hrest, ← hread]
  | parenthesized _ ih => exact ih.parenthesized
  | list hderives ih => exact .list_primary hderives ih

/-- Tokens that are a word of the grammar are read as its tree unless that is too deep. -/
theorem ofTokens_complete {tokens : List PlacedToken} {e : Expr}
    (h : Derives .expression (tokens.map PlacedToken.token) e) (limit : Nat) :
    ofTokens limit tokens = .ok e ∨ ofTokens limit tokens = .error (.tooDeep limit) := by
  have hgoes := found limit h (reserveFor tokens.length) ⟨tokens, 0⟩ []
    (List.append_nil _).symm nofun
  unfold ofTokens
  rcases hgoes with hdeep | ⟨_, ⟨rest, depth⟩, hword, hok⟩
  · rw [hdeep]
    exact Or.inr rfl
  · obtain rfl : rest = [] := List.map_eq_nil_iff.mp hword
    rw [hok]
    exact Or.inl rfl

end Formula

end LiveText
