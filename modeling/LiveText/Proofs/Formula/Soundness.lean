import LiveText.Proofs.Formula.Grammar
import LiveText.Proofs.Formula.Progress

/-!
# Soundness of the reading of formulas

Whatever is read as a formula is a word of the grammar with that tree: `ofTokens_sound`. On the way,
a chain of operands ends only before a connective that binds more loosely.
-/

namespace LiveText

namespace Cursor

variable {c c' : Cursor} {p : Punct}

/-- The tokens left to read. -/
def word (c : Cursor) : List Token := c.rest.map PlacedToken.token

private theorem word_skip (c : Cursor) : c.skip.word = c.word.tail := List.map_tail

theorem length_word (c : Cursor) : c.word.length = c.rest.length := List.length_map ..

@[simp] theorem word_leave (c : Cursor) : c.leave.word = c.word := rfl

@[simp] theorem word_atDepth (depth : Nat) (c : Cursor) : (c.atDepth depth).word = c.word := rfl

private theorem word_eq_cons {t : PlacedToken} {rest : List PlacedToken} (h : c.rest = t :: rest) :
    c.word = t.token :: c.skip.word := by
  rw [word_skip, word, h]
  rfl

theorem word_of_enter {limit : Nat} (h : c.enter limit = .ok c') : c.word = c'.word :=
  congrArg (List.map PlacedToken.token) (rest_of_enter h).1.symm

theorem punct?_eq_some_iff : c.punct? = some p ↔ ∃ w, c.word = .punct p :: w := by
  obtain ⟨rest, depth⟩ := c
  rcases rest with _ | ⟨⟨token, position⟩, rest⟩
  · simp [punct?, word]
  · cases token <;> simp [punct?, word]

/-- What the punctuation in front is for the reading. -/
theorem punct?_bind_eq_some_iff {α : Type} {f : Punct → Option α} {a : α} :
    c.punct?.bind f = some a ↔ ∃ p w, c.word = .punct p :: w ∧ f p = some a := by
  simp only [Option.bind_eq_some_iff, punct?_eq_some_iff]
  exact ⟨fun ⟨p, ⟨w, hw⟩, h⟩ => ⟨p, w, hw, h⟩, fun ⟨p, w, hw, h⟩ => ⟨p, ⟨w, hw⟩, h⟩⟩

theorem word_skip_eq {t : Token} {w : List Token} (h : c.word = t :: w) : c.skip.word = w := by
  rw [word_skip, h]
  rfl

/-- Past a punctuation that stands in front. -/
theorem word_of_eat? (h : c.eat? p = some c') : c.word = .punct p :: c'.word := by
  unfold eat? at h
  split at h
  case isTrue hfront =>
    obtain rfl := Option.some.inj h
    obtain ⟨w, hw⟩ := punct?_eq_some_iff.mp hfront
    rw [hw, word_skip_eq hw]
  case isFalse => cases h

theorem word_of_expect (h : c.expect p = .ok c') : c.word = .punct p :: c'.word :=
  word_of_eat? (eat?_of_expect h)

end Cursor

namespace Formula

/-- Whether no connective of a level or a tighter one stands in front of a word. -/
def LooserInFront (level : Nat) (w : List Token) : Prop :=
  ∀ p rest, w = .punct p :: rest → ∀ tightness op, p.connective? = some (tightness, op) →
    tightness < level

private theorem looserInFront_of_link {level : Nat} {c : Cursor}
    (h : ∀ tightness op, c.punct?.bind Punct.connective? = some (tightness, op) →
      tightness < level) : LooserInFront level c.word := fun p w hw tightness op hop =>
  h tightness op (Cursor.punct?_bind_eq_some_iff.mpr ⟨p, w, hw, hop⟩)

/-- Whether the tokens between two places are a word of a category with a tree, and both places have
one depth. -/
structure Reads (cat : Category) (c : Cursor) (e : Expr) (c' : Cursor) : Prop where
  depth : c'.depth = c.depth
  derives : ∃ used, c.word = used ++ c'.word ∧ Derives cat used e

/-- Whether the tokens between two places are the items of a list and its end, and both places have
one depth. -/
structure ReadsItems (close : Punct) (c : Cursor) (es : List Expr) (c' : Cursor) : Prop where
  depth : c'.depth = c.depth
  derives : ∃ items : List (List Token × Expr),
    c.word = [.punct .comma].intercalate (items.map Prod.fst) ++ .punct close :: c'.word ∧
      es = items.map Prod.snd ∧ ∀ item ∈ items, Derives .expression item.1 item.2

/-- With a reserve, the parts of formulas are read as words of their categories. A chain goes on
from what has been read of it, which are operands of the level of its last connective. -/
structure Sound (limit reserve : Nat) : Prop where
  expression : ∀ {c e c'},
    expression (.upTo limit) reserve c = .ok (e, c') → Reads .expression c e c'
  operands : ∀ {level c e c'}, level ≤ 7 → operands (.upTo limit) reserve level c = .ok (e, c') →
    Reads (.operands level) c e c' ∧ LooserInFront level c'.word
  chain : ∀ {level reached used left c e c'}, level ≤ reached →
    Derives (.operands reached) used left → LooserInFront (reached + 1) c.word →
    chain (.upTo limit) reserve level left c = .ok (e, c') →
    (∃ more, c.word = more ++ c'.word ∧ Derives (.operands level) (used ++ more) e) ∧
      LooserInFront level c'.word
  operand : ∀ {c e c'}, operand (.upTo limit) reserve c = .ok (e, c') → Reads .operand c e c'
  accessed : ∀ {c e c'}, accessed (.upTo limit) reserve c = .ok (e, c') → Reads .accessed c e c'
  accesses : ∀ {used first c e c'}, Derives .accessed used first →
    accesses (.upTo limit) reserve first c = .ok (e, c') →
    ∃ more, c.word = more ++ c'.word ∧ Derives .accessed (used ++ more) e
  list : ∀ {close c es c'},
    list (.upTo limit) reserve close c = .ok (es, c') → ReadsItems close c es c'
  items : ∀ {close c es c'}, items (.upTo limit) reserve close c = .ok (es, c') →
    ReadsItems close c es c' ∧ es ≠ []
  primary : ∀ {c e c'}, primary (.upTo limit) reserve c = .ok (e, c') → Reads .primary c e c'

namespace Sound

open Cursor

variable {limit reserve : Nat} {c c' : Cursor} {e : Expr}

private theorem expression_succ (ih : Sound limit reserve)
    (h : Formula.expression (.upTo limit) (reserve + 1) c = .ok (e, c')) :
    Reads .expression c e c' := by
  have hdepth := ((balanced limit (reserve + 1)).expression h).depth
  cases expression_step h with
  | operands henter hread =>
    obtain ⟨⟨-, u, hu, hderives⟩, -⟩ := ih.operands (by decide) hread
    exact ⟨hdepth, u, (word_of_enter henter).trans hu, .operands hderives⟩
  | conditional henter htest heat hyes hexpect hno =>
    obtain ⟨⟨-, u, hu, htest⟩, -⟩ := ih.operands (by decide) htest
    obtain ⟨-, v, hv, hyes⟩ := ih.expression hyes
    obtain ⟨-, w, hw, hno⟩ := ih.expression hno
    refine ⟨hdepth, _, ?_, .conditional htest hyes hno⟩
    rw [word_of_enter henter, hu, word_of_eat? heat, hv, word_of_expect hexpect, hw]
    simp

private theorem operands_succ (ih : Sound limit reserve) {level : Nat} (hlevel : level ≤ 7)
    (h : Formula.operands (.upTo limit) (reserve + 1) level c = .ok (e, c')) :
    Reads (.operands level) c e c' ∧ LooserInFront level c'.word := by
  obtain ⟨left, c₁, c₂, hleft, hchain, rfl⟩ := operands_step h
  obtain ⟨hdepth, u, hu, hleft⟩ := ih.operand hleft
  have hfront : LooserInFront 8 c₁.word := fun p _ _ tightness op hop =>
    Nat.lt_of_le_of_lt (level_le_of_connective? hop) (by decide)
  obtain ⟨⟨v, hv, hwhole⟩, hlooser⟩ := ih.chain hlevel (.operand hleft) hfront hchain
  exact ⟨⟨hdepth, u ++ v, by rw [hu, hv, word_atDepth, List.append_assoc], hwhole⟩, hlooser⟩

private theorem chain_succ (ih : Sound limit reserve) {level reached : Nat} {used : List Token}
    {left : Expr} (hlevel : level ≤ reached)
    (hleft : Derives (.operands reached) used left) (hfront : LooserInFront (reached + 1) c.word)
    (h : Formula.chain (.upTo limit) (reserve + 1) level left c = .ok (e, c')) :
    (∃ more, c.word = more ++ c'.word ∧ Derives (.operands level) (used ++ more) e) ∧
      LooserInFront level c'.word := by
  cases chain_step h with
  | stop hloose =>
    exact ⟨⟨[], rfl, by simpa using hleft.loosened hlevel⟩, looserInFront_of_link hloose⟩
  | @link tightness op _ _ _ _ _ hop htight henter hright hchain =>
    obtain ⟨p, w, hw, hp⟩ := punct?_bind_eq_some_iff.mp hop
    have hmost : tightness ≤ 6 := level_le_of_connective? hp
    obtain ⟨⟨-, v, hv, hright⟩, hnext⟩ := ih.operands (by omega) hright
    -- What has been read so far is a left operand of every level up to the one it has reached.
    have hreach : tightness ≤ reached := Nat.lt_succ_iff.mp (hfront p w hw tightness _ hp)
    have hjoined := Derives.link (connective?_eq_some_iff.mp hp) (hleft.loosened hreach) hright
    obtain ⟨⟨more, hmore, he⟩, hlooser⟩ := ih.chain htight hjoined hnext hchain
    refine ⟨⟨.punct p :: v ++ more, ?_, by simpa using he⟩, hlooser⟩
    rw [← word_of_enter henter, word_skip_eq hw] at hv
    rw [hw, hv, hmore]
    simp

private theorem operand_succ (ih : Sound limit reserve)
    (h : Formula.operand (.upTo limit) (reserve + 1) c = .ok (e, c')) : Reads .operand c e c' := by
  have hdepth := ((balanced limit (reserve + 1)).operand h).depth
  cases operand_step h with
  | accessed _ hread =>
    obtain ⟨-, u, hu, he⟩ := ih.accessed hread
    exact ⟨hdepth, u, hu, .accessed he⟩
  | unary hop henter hread =>
    obtain ⟨p, w, hw, hp⟩ := punct?_bind_eq_some_iff.mp hop
    obtain ⟨-, u, hu, hinner⟩ := ih.operand hread
    rw [← word_of_enter henter, word_skip_eq hw] at hu
    refine ⟨hdepth, .punct p :: u, ?_, .unary (unary?_eq_some_iff.mp hp) hinner⟩
    rw [hw, hu]
    rfl

private theorem accessed_succ (ih : Sound limit reserve)
    (h : Formula.accessed (.upTo limit) (reserve + 1) c = .ok (e, c')) :
    Reads .accessed c e c' := by
  obtain ⟨first, c₁, c₂, hfirst, haccesses, rfl⟩ := accessed_step h
  obtain ⟨hdepth, u, hu, hfirst⟩ := ih.primary hfirst
  obtain ⟨v, hv, hwhole⟩ := ih.accesses (.primary hfirst) haccesses
  exact ⟨hdepth, u ++ v, by rw [hu, hv, word_atDepth, List.append_assoc], hwhole⟩

private theorem accesses_succ (ih : Sound limit reserve) {used : List Token} {first : Expr}
    (hfirst : Derives .accessed used first)
    (h : Formula.accesses (.upTo limit) (reserve + 1) first c = .ok (e, c')) :
    ∃ more, c.word = more ++ c'.word ∧ Derives .accessed (used ++ more) e := by
  cases accesses_step h with
  | stop => exact ⟨[], rfl, by simpa using hfirst⟩
  | @member _ _ property _ _ _ hdot henter hname haccesses =>
    obtain ⟨w, hw⟩ := punct?_eq_some_iff.mp hdot
    obtain ⟨more, hmore, he⟩ := ih.accesses (.member hfirst) haccesses
    refine ⟨.punct .dot :: .name property :: more, ?_, by simpa using he⟩
    rw [hw, ← word_skip_eq hw, word_of_enter henter, word_eq_cons hname, hmore]
    rfl
  | index hopen henter hkey hclose haccesses =>
    obtain ⟨w, hw⟩ := punct?_eq_some_iff.mp hopen
    obtain ⟨-, v, hv, hkey⟩ := ih.expression hkey
    obtain ⟨more, hmore, he⟩ := ih.accesses (.index hfirst hkey) haccesses
    refine ⟨.punct .openBracket :: v ++ .punct .closeBracket :: more, ?_, by simpa using he⟩
    rw [← word_of_enter henter, word_skip_eq hw] at hv
    rw [hw, hv, word_of_expect hclose, hmore]
    simp
  | call hopen henter hargs haccesses =>
    obtain ⟨w, hw⟩ := punct?_eq_some_iff.mp hopen
    obtain ⟨-, items, hitems, rfl, hderives⟩ := ih.list hargs
    obtain ⟨more, hmore, he⟩ := ih.accesses (.call hfirst hderives) haccesses
    refine ⟨.punct .openParen :: [.punct .comma].intercalate (items.map Prod.fst) ++
      .punct .closeParen :: more, ?_, by simpa using he⟩
    rw [← word_of_enter henter, word_skip_eq hw] at hitems
    rw [hw, hitems, hmore]
    simp

private theorem list_succ (ih : Sound limit reserve) {close : Punct} {es : List Expr}
    (h : Formula.list (.upTo limit) (reserve + 1) close c = .ok (es, c')) :
    ReadsItems close c es c' := by
  have hdepth := ((balanced limit (reserve + 1)).list h).depth
  cases list_step h with
  | empty hclose => exact ⟨hdepth, [], word_of_eat? hclose, rfl, nofun⟩
  | items _ hitems => exact (ih.items hitems).1

private theorem items_succ (ih : Sound limit reserve) {close : Punct} {es : List Expr}
    (h : Formula.items (.upTo limit) (reserve + 1) close c = .ok (es, c')) :
    ReadsItems close c es c' ∧ es ≠ [] := by
  have hdepth := ((balanced limit (reserve + 1)).items h).depth
  cases items_step h with
  | @last _ _ item hitem hclose =>
    obtain ⟨-, u, hu, hitem⟩ := ih.expression hitem
    refine ⟨⟨hdepth, [(u, item)], ?_, rfl, by simpa using hitem⟩, by simp⟩
    rw [hu, word_of_eat? hclose, List.map_singleton, List.intercalate_singleton]
  | @more _ _ _ item _ hitem _ hcomma hmore =>
    obtain ⟨-, u, hu, hitem⟩ := ih.expression hitem
    obtain ⟨⟨-, items, hitems, rfl, hderives⟩, hne⟩ := ih.items hmore
    refine ⟨⟨hdepth, (u, item) :: items, ?_, rfl, ?_⟩, by simp⟩
    · obtain ⟨second, others, rfl⟩ := List.exists_cons_of_ne_nil (mt List.map_eq_nil_iff.mpr hne)
      rw [hu, word_of_eat? hcomma, hitems]
      simp only [List.map_cons, List.intercalate_cons_cons, List.append_assoc,
        List.cons_append, List.nil_append]
    · exact List.forall_mem_cons.mpr ⟨hitem, hderives⟩

private theorem primary_succ (ih : Sound limit reserve)
    (h : Formula.primary (.upTo limit) (reserve + 1) c = .ok (e, c')) : Reads .primary c e c' := by
  have hdepth := ((balanced limit (reserve + 1)).primary h).depth
  cases primary_step h with
  | number hrest => exact ⟨hdepth, [_], word_eq_cons hrest, .number⟩
  | string hrest => exact ⟨hdepth, [_], word_eq_cons hrest, .string⟩
  | @name name _ _ hrest =>
    refine ⟨hdepth, [_], word_eq_cons hrest, ?_⟩
    rcases ofName_cases name with ⟨v, hv, hread⟩ | ⟨hnone, hread⟩
    · rw [hread]
      exact .constant hv
    · rw [hread]
      exact .name hnone
  | parenthesized hrest hread hclose =>
    obtain ⟨-, u, hu, hinner⟩ := ih.expression hread
    refine ⟨hdepth, _, ?_, .parenthesized hinner⟩
    rw [word_eq_cons hrest, hu, word_of_expect hclose]
    simp
  | list hrest henter hlist =>
    obtain ⟨-, items, hitems, rfl, hderives⟩ := ih.list hlist
    refine ⟨hdepth, _, ?_, .list hderives⟩
    rw [word_eq_cons hrest, word_of_enter henter, hitems]
    simp

end Sound

theorem sound (limit reserve : Nat) : Sound limit reserve := by
  induction reserve with
  | zero =>
    constructor
    all_goals
      intros
      rename_i h
      cases h
  | succ reserve ih =>
    exact ⟨ih.expression_succ, ih.operands_succ, ih.chain_succ, ih.operand_succ, ih.accessed_succ,
      ih.accesses_succ, ih.list_succ, ih.items_succ, ih.primary_succ⟩

/-- What tokens as a whole are read as is a tree that the grammar gives them. -/
theorem ofTokens_sound {limit : Nat} {tokens : List PlacedToken} {e : Expr}
    (h : ofTokens limit tokens = .ok e) :
    Derives .expression (tokens.map PlacedToken.token) e := by
  unfold ofTokens at h
  obtain ⟨⟨whole, c⟩, hwhole, h⟩ := exists_ok_of_bind h
  obtain ⟨-, used, hused, hderives⟩ := (sound limit _).expression hwhole
  dsimp only at h
  split at h
  case h_1 hrest =>
    cases h
    have hword : c.word = [] := by rw [Cursor.word, hrest, List.map_nil]
    rw [hword, List.append_nil] at hused
    rw [← hused] at hderives
    exact hderives
  case h_2 => cases h

end Formula

end LiveText
