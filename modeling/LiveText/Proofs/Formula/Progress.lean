import LiveText.Proofs.Formula.Steps

/-!
# Progress in the reading of formulas

Every part of a formula takes at least one token and leaves the depth as it found it, at every level
and with every reserve: `balanced`. The loops behind an operand and behind a primary take what links
and accesses there are; what they add to the depth is taken back by the part that they belong to.
-/

namespace LiveText

namespace Cursor

variable {c c' c'' : Cursor} {p : Punct} {limit : Nat}

/-- Whether one place is further on than another, with the same depth: at least one of the tokens
left has been taken, and no more than there were. -/
structure Advances (c c' : Cursor) : Prop where
  suffix : c'.rest <:+ c.rest
  shorter : c'.rest.length < c.rest.length
  depth : c'.depth = c.depth

theorem suffix_skip (c : Cursor) : c.skip.rest <:+ c.rest := List.tail_suffix c.rest

theorem advances_skip {t : PlacedToken} {rest : List PlacedToken} (h : c.rest = t :: rest) :
    c.Advances c.skip := by
  refine ⟨c.suffix_skip, ?_, rfl⟩
  rw [skip, h]
  exact Nat.lt_succ_self _

private theorem exists_rest_of_punct? (h : c.punct? = some p) :
    ∃ t rest, c.rest = t :: rest := by
  cases hrest : c.rest with
  | nil =>
    rw [punct?, hrest] at h
    cases h
  | cons t rest => exact ⟨t, rest, rfl⟩

theorem advances_of_punct? (h : c.punct? = some p) : c.Advances c.skip := by
  obtain ⟨t, rest, hrest⟩ := exists_rest_of_punct? h
  exact advances_skip hrest

/-- The punctuation in front is something to the reading. -/
theorem advances_of_bind {α : Type} {f : Punct → Option α} {a : α}
    (h : c.punct?.bind f = some a) : c.Advances c.skip := by
  obtain ⟨p, hp, -⟩ := Option.bind_eq_some_iff.mp h
  exact advances_of_punct? hp

theorem advances_of_eat? (h : c.eat? p = some c') : c.Advances c' := by
  unfold eat? at h
  split at h
  case isTrue hfront =>
    obtain rfl := Option.some.inj h
    exact advances_of_punct? hfront
  case isFalse => cases h

theorem eat?_of_expect (h : c.expect p = .ok c') : c.eat? p = some c' := by
  unfold expect at h
  cases heat : c.eat? p with
  | none =>
    rw [heat] at h
    cases h
  | some after =>
    rw [heat] at h
    rw [Except.ok.inj h]

theorem advances_of_expect (h : c.expect p = .ok c') : c.Advances c' :=
  advances_of_eat? (eat?_of_expect h)

theorem rest_of_enter (h : c.enter limit = .ok c') : c'.rest = c.rest ∧ c'.depth = c.depth + 1 := by
  unfold enter at h
  split at h
  · cases h
  · cases h
    exact ⟨rfl, rfl⟩

theorem length_rest_of_enter (h : c.enter limit = .ok c') :
    c'.rest.length = c.rest.length ∧ c'.depth = c.depth + 1 :=
  ⟨congrArg List.length (rest_of_enter h).1, (rest_of_enter h).2⟩

theorem suffix_of_enter_skip (h : c.skip.enter limit = .ok c') : c'.rest <:+ c.rest :=
  (rest_of_enter h).1 ▸ c.suffix_skip

namespace Advances

theorem lengths (h : c.Advances c') : c'.rest.length < c.rest.length ∧ c'.depth = c.depth :=
  ⟨h.shorter, h.depth⟩

theorem trans (h : c.Advances c') (h' : c'.Advances c'') : c.Advances c'' :=
  ⟨h'.suffix.trans h.suffix, Nat.lt_trans h'.shorter h.shorter, h'.depth.trans h.depth⟩

/-- A loop may take further tokens if the depth before it is restored. -/
theorem atDepth (h : c.Advances c') (hsuffix : c''.rest <:+ c'.rest) :
    c.Advances (c''.atDepth c'.depth) :=
  ⟨hsuffix.trans h.suffix, Nat.lt_of_le_of_lt hsuffix.length_le h.shorter, h.depth⟩

/-- What is read one level down is left one level up again. -/
theorem leave (henter : c.enter limit = .ok c') (h : c'.Advances c'') : c.Advances c''.leave := by
  obtain ⟨hrest, hdepth⟩ := rest_of_enter henter
  refine ⟨hrest ▸ h.suffix, hrest ▸ h.shorter, ?_⟩
  rw [Cursor.leave, h.depth, hdepth, Nat.add_sub_cancel]

end Advances

end Cursor

namespace Formula

open Cursor

/-- With a reserve, each part of a formula advances. The loops `chain` and `accesses` take no more
than there is. -/
structure Balanced (limit reserve : Nat) : Prop where
  expression : ∀ {c e c'}, expression (.upTo limit) reserve c = .ok (e, c') → c.Advances c'
  operands : ∀ {level c e c'}, operands (.upTo limit) reserve level c = .ok (e, c') → c.Advances c'
  chain : ∀ {level left c e c'}, chain (.upTo limit) reserve level left c = .ok (e, c') →
    c'.rest <:+ c.rest
  operand : ∀ {c e c'}, operand (.upTo limit) reserve c = .ok (e, c') → c.Advances c'
  accessed : ∀ {c e c'}, accessed (.upTo limit) reserve c = .ok (e, c') → c.Advances c'
  accesses : ∀ {first c e c'},
    accesses (.upTo limit) reserve first c = .ok (e, c') → c'.rest <:+ c.rest
  list : ∀ {close c es c'}, list (.upTo limit) reserve close c = .ok (es, c') → c.Advances c'
  items : ∀ {close c es c'}, items (.upTo limit) reserve close c = .ok (es, c') → c.Advances c'
  primary : ∀ {c e c'}, primary (.upTo limit) reserve c = .ok (e, c') → c.Advances c'

namespace Balanced

variable {limit reserve : Nat} {c c' : Cursor} {e : Expr}

private theorem expression_succ (ih : Balanced limit reserve)
    (h : Formula.expression (.upTo limit) (reserve + 1) c = .ok (e, c')) : c.Advances c' := by
  cases expression_step h with
  | operands henter hread => exact .leave henter (ih.operands hread)
  | conditional henter htest heat hyes hexpect hno =>
    have hyes := (advances_of_eat? heat).trans (ih.expression hyes)
    have hno := (advances_of_expect hexpect).trans (ih.expression hno)
    exact .leave henter ((ih.operands htest).trans (hyes.trans hno))

private theorem operands_succ (ih : Balanced limit reserve) {level : Nat}
    (h : Formula.operands (.upTo limit) (reserve + 1) level c = .ok (e, c')) : c.Advances c' := by
  obtain ⟨left, c₁, c₂, hleft, hchain, rfl⟩ := operands_step h
  exact (ih.operand hleft).atDepth (ih.chain hchain)

private theorem chain_succ (ih : Balanced limit reserve) {level : Nat} {left : Expr}
    (h : Formula.chain (.upTo limit) (reserve + 1) level left c = .ok (e, c')) :
    c'.rest <:+ c.rest := by
  cases chain_step h with
  | stop => exact List.suffix_rfl
  | link _ _ henter hright hchain =>
    exact (ih.chain hchain).trans ((ih.operands hright).suffix.trans (suffix_of_enter_skip henter))

private theorem operand_succ (ih : Balanced limit reserve)
    (h : Formula.operand (.upTo limit) (reserve + 1) c = .ok (e, c')) : c.Advances c' := by
  cases operand_step h with
  | accessed _ hread => exact ih.accessed hread
  | unary hop henter hread => exact (advances_of_bind hop).trans (.leave henter (ih.operand hread))

private theorem accessed_succ (ih : Balanced limit reserve)
    (h : Formula.accessed (.upTo limit) (reserve + 1) c = .ok (e, c')) : c.Advances c' := by
  obtain ⟨first, c₁, c₂, hfirst, haccesses, rfl⟩ := accessed_step h
  exact (ih.primary hfirst).atDepth (ih.accesses haccesses)

private theorem accesses_succ (ih : Balanced limit reserve) {first : Expr}
    (h : Formula.accesses (.upTo limit) (reserve + 1) first c = .ok (e, c')) :
    c'.rest <:+ c.rest := by
  cases accesses_step h with
  | stop => exact List.suffix_rfl
  | @member c₁ _ _ _ _ _ _ henter _ haccesses =>
    exact (ih.accesses haccesses).trans (c₁.suffix_skip.trans (suffix_of_enter_skip henter))
  | index _ henter hkey hclose haccesses =>
    have hclosed := (ih.expression hkey).trans (advances_of_expect hclose)
    exact (ih.accesses haccesses).trans (hclosed.suffix.trans (suffix_of_enter_skip henter))
  | call _ henter hargs haccesses =>
    exact (ih.accesses haccesses).trans ((ih.list hargs).suffix.trans (suffix_of_enter_skip henter))

private theorem list_succ (ih : Balanced limit reserve) {close : Punct} {es : List Expr}
    (h : Formula.list (.upTo limit) (reserve + 1) close c = .ok (es, c')) : c.Advances c' := by
  cases list_step h with
  | empty hclose => exact advances_of_eat? hclose
  | items _ hitems => exact ih.items hitems

private theorem items_succ (ih : Balanced limit reserve) {close : Punct} {es : List Expr}
    (h : Formula.items (.upTo limit) (reserve + 1) close c = .ok (es, c')) : c.Advances c' := by
  cases items_step h with
  | last hitem hclose => exact (ih.expression hitem).trans (advances_of_eat? hclose)
  | more hitem _ hcomma hmore =>
    exact (ih.expression hitem).trans ((advances_of_eat? hcomma).trans (ih.items hmore))

private theorem primary_succ (ih : Balanced limit reserve)
    (h : Formula.primary (.upTo limit) (reserve + 1) c = .ok (e, c')) : c.Advances c' := by
  cases primary_step h with
  | number hrest | string hrest | name hrest => exact advances_skip hrest
  | parenthesized hrest hread hclose =>
    exact (advances_skip hrest).trans ((ih.expression hread).trans (advances_of_expect hclose))
  | list hrest henter hlist => exact (advances_skip hrest).trans (.leave henter (ih.list hlist))

end Balanced

/-- Each part of a formula advances, whatever the limit on the depth and the reserve. -/
theorem balanced (limit reserve : Nat) : Balanced limit reserve := by
  induction reserve with
  | zero =>
    constructor
    all_goals
      intros
      rename_i h
      cases h
  | succ reserve ih =>
    exact ⟨ih.expression_succ, ih.operands_succ, ih.chain_succ, ih.operand_succ, ih.accessed_succ,
      ih.accesses_succ, ih.list_succ, ih.items_succ, ih.primary_succ⟩

end Formula

end LiveText
