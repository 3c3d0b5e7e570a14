import LiveText.Proofs.Formula.Effects
import LiveText.Proofs.Formula.Progress

/-!
# The height of formulas

The reading bounds how deep it is nested itself, and gives a level back where a chain, an access or
a parenthesis ends; the tree stays as high as it has become. So under a limit the trees that are
read may be higher than the limit, but they are lower than its square: `height_of_parse`.
-/

namespace LiveText

namespace Expr

private theorem height_join (op : Connective) (left right : Expr) :
    (op.join left right).height = max left.height right.height + 1 := by
  cases op <;> rw [Connective.join, height]

private theorem height_call_le (callee : Expr) (args : List Expr) :
    (call callee args).height ≤ max (callee.height + 1) (heightBelow args) := by
  cases callee with
  | member object property =>
    rw [height, height]
    omega
  | _ =>
    rw [height]
    · exact Nat.le_max_right ..
    all_goals simp

private theorem height_ofName (name : String) : (ofName name).height = 0 := by
  unfold ofName
  split <;> rw [height]

end Expr

namespace Formula

open LiveText.Expr (height heightBelow height_join height_call_le height_ofName)

private theorem exists_room_of_enter {limit room : Nat} {c c' : Cursor} (h : c.enter limit = .ok c')
    (hroom : limit - c.depth = room) : ∃ inner, room = inner + 1 ∧ limit - c'.depth = inner := by
  unfold Cursor.enter at h
  split at h
  · cases h
  · cases h
    exact ⟨limit - (c.depth + 1), by omega, rfl⟩

/-- The room up to the limit is what it was where something has been read. -/
theorem room_of_advances {limit room : Nat} {c c' : Cursor} (h : c.Advances c')
    (hroom : limit - c.depth = room) : limit - c'.depth = room := by rw [h.depth, hroom]

/-- With a reserve, the trees that are read with a room of some levels up to the limit are low. A
loop has a height to keep to: what has been read of it comes to no more if each level left adds one,
and the room below one level leaves the next operand lower. -/
structure Low (limit reserve : Nat) : Prop where
  expression : ∀ {c e c' room}, limit - c.depth = room →
    expression (.upTo limit) reserve c = .ok (e, c') → e.height < room * room
  operands : ∀ {level c e c' room}, limit - c.depth = room →
    operands (.upTo limit) reserve level c = .ok (e, c') → e.height ≤ room * room - 1 + 2 * room
  chain : ∀ {level left c e c' room bound}, limit - c.depth = room →
    left.height + room ≤ bound → room * room + room ≤ bound + 1 →
    chain (.upTo limit) reserve level left c = .ok (e, c') → e.height ≤ bound
  operand : ∀ {c e c' room}, limit - c.depth = room →
    operand (.upTo limit) reserve c = .ok (e, c') → e.height ≤ room * room - 1 + room
  accessed : ∀ {c e c' room}, limit - c.depth = room →
    accessed (.upTo limit) reserve c = .ok (e, c') → e.height ≤ room * room - 1 + room
  accesses : ∀ {first c e c' room bound}, limit - c.depth = room →
    first.height + room ≤ bound → room * room + room ≤ bound + 1 →
    accesses (.upTo limit) reserve first c = .ok (e, c') → e.height ≤ bound
  list : ∀ {close c es c' room}, limit - c.depth = room →
    list (.upTo limit) reserve close c = .ok (es, c') → heightBelow es ≤ room * room
  items : ∀ {close c es c' room}, limit - c.depth = room →
    items (.upTo limit) reserve close c = .ok (es, c') → heightBelow es ≤ room * room
  primary : ∀ {c e c' room}, limit - c.depth = room →
    primary (.upTo limit) reserve c = .ok (e, c') → e.height ≤ room * room - 1

theorem succ_mul_succ_self (n : Nat) : (n + 1) * (n + 1) = n * n + 2 * n + 1 := by
  rw [Nat.succ_mul, Nat.mul_succ]
  omega

namespace Low

open Cursor

variable {limit reserve room : Nat} {c c' : Cursor} {e : Expr}

private theorem expression_succ (ih : Low limit reserve) (hroom : limit - c.depth = room)
    (h : Formula.expression (.upTo limit) (reserve + 1) c = .ok (e, c')) :
    e.height < room * room := by
  cases expression_step h with
  | operands henter hread =>
    obtain ⟨inner, rfl, hinner⟩ := exists_room_of_enter henter hroom
    have hheight := ih.operands hinner hread
    have hsquare := succ_mul_succ_self inner
    omega
  | conditional henter htest heat hyes hexpect hno =>
    obtain ⟨inner, rfl, hinner⟩ := exists_room_of_enter henter hroom
    have hroom₂ := room_of_advances ((balanced limit reserve).operands htest) hinner
    have hroom₃ := room_of_advances (advances_of_eat? heat) hroom₂
    have hroom₄ := room_of_advances ((balanced limit reserve).expression hyes) hroom₃
    have hroom₅ := room_of_advances (advances_of_expect hexpect) hroom₄
    have htest := ih.operands hinner htest
    have hyes := ih.expression hroom₃ hyes
    have hno := ih.expression hroom₅ hno
    have hsquare := succ_mul_succ_self inner
    simp only [height]
    omega

private theorem operands_succ (ih : Low limit reserve) {level : Nat}
    (hroom : limit - c.depth = room)
    (h : Formula.operands (.upTo limit) (reserve + 1) level c = .ok (e, c')) :
    e.height ≤ room * room - 1 + 2 * room := by
  obtain ⟨left, c₁, c₂, hleft, hchain, rfl⟩ := operands_step h
  have hroom₁ := room_of_advances ((balanced limit reserve).operand hleft) hroom
  have hleft := ih.operand hroom hleft
  have hsquare : room ≤ room * room := Nat.le_mul_self room
  exact ih.chain hroom₁ (by omega) (by omega) hchain

private theorem chain_succ (ih : Low limit reserve) {level bound : Nat} {left : Expr}
    (hroom : limit - c.depth = room) (hleft : left.height + room ≤ bound)
    (hbound : room * room + room ≤ bound + 1)
    (h : Formula.chain (.upTo limit) (reserve + 1) level left c = .ok (e, c')) :
    e.height ≤ bound := by
  cases chain_step h with
  | stop => omega
  | @link _ op _ _ _ right _ _ _ henter hright hchain =>
    obtain ⟨inner, rfl, hinner⟩ := exists_room_of_enter henter hroom
    have hroom₂ := room_of_advances ((balanced limit reserve).operands hright) hinner
    have hright := ih.operands hinner hright
    have hsquare := succ_mul_succ_self inner
    have hle : inner ≤ inner * inner := Nat.le_mul_self inner
    have hjoined := height_join op left right
    exact ih.chain hroom₂ (by omega) (by omega) hchain

private theorem operand_succ (ih : Low limit reserve) (hroom : limit - c.depth = room)
    (h : Formula.operand (.upTo limit) (reserve + 1) c = .ok (e, c')) :
    e.height ≤ room * room - 1 + room := by
  cases operand_step h with
  | accessed _ hread => exact ih.accessed hroom hread
  | unary _ henter hread =>
    obtain ⟨inner, rfl, hinner⟩ := exists_room_of_enter henter hroom
    have hoperand := ih.operand hinner hread
    have hsquare := succ_mul_succ_self inner
    simp only [height]
    omega

private theorem accessed_succ (ih : Low limit reserve) (hroom : limit - c.depth = room)
    (h : Formula.accessed (.upTo limit) (reserve + 1) c = .ok (e, c')) :
    e.height ≤ room * room - 1 + room := by
  obtain ⟨first, c₁, c₂, hfirst, haccesses, rfl⟩ := accessed_step h
  have hroom₁ := room_of_advances ((balanced limit reserve).primary hfirst) hroom
  have hfirst := ih.primary hroom hfirst
  have hsquare : room ≤ room * room := Nat.le_mul_self room
  exact ih.accesses hroom₁ (by omega) (by omega) haccesses

private theorem accesses_succ (ih : Low limit reserve) {bound : Nat} {first : Expr}
    (hroom : limit - c.depth = room) (hfirst : first.height + room ≤ bound)
    (hbound : room * room + room ≤ bound + 1)
    (h : Formula.accesses (.upTo limit) (reserve + 1) first c = .ok (e, c')) :
    e.height ≤ bound := by
  cases accesses_step h with
  | stop => omega
  | @member c₁ _ property _ _ _ _ henter _ haccesses =>
    obtain ⟨inner, rfl, hinner⟩ := exists_room_of_enter henter hroom
    have hsquare := succ_mul_succ_self inner
    have hskip : limit - c₁.skip.depth = inner := hinner
    have hmember : (first.member property).height = first.height + 1 := by rw [height]
    exact ih.accesses hskip (by omega) (by omega) haccesses
  | @index _ _ _ _ key _ _ henter hkey hclose haccesses =>
    obtain ⟨inner, rfl, hinner⟩ := exists_room_of_enter henter hroom
    have hroom₂ := room_of_advances ((balanced limit reserve).expression hkey) hinner
    have hroom₃ := room_of_advances (advances_of_expect hclose) hroom₂
    have hkey := ih.expression hinner hkey
    have hsquare := succ_mul_succ_self inner
    have hindex : (first.index key).height = max first.height key.height + 1 := by rw [height]
    exact ih.accesses hroom₃ (by omega) (by omega) haccesses
  | @call _ _ _ args _ _ henter hargs haccesses =>
    obtain ⟨inner, rfl, hinner⟩ := exists_room_of_enter henter hroom
    have hroom₂ := room_of_advances ((balanced limit reserve).list hargs) hinner
    have hargs := ih.list hinner hargs
    have hsquare := succ_mul_succ_self inner
    have hcall := height_call_le first args
    exact ih.accesses hroom₂ (by omega) (by omega) haccesses

private theorem list_succ (ih : Low limit reserve) {close : Punct} {es : List Expr}
    (hroom : limit - c.depth = room)
    (h : Formula.list (.upTo limit) (reserve + 1) close c = .ok (es, c')) :
    heightBelow es ≤ room * room := by
  cases list_step h with
  | empty => exact Nat.zero_le _
  | items _ hitems => exact ih.items hroom hitems

private theorem items_succ (ih : Low limit reserve) {close : Punct} {es : List Expr}
    (hroom : limit - c.depth = room)
    (h : Formula.items (.upTo limit) (reserve + 1) close c = .ok (es, c')) :
    heightBelow es ≤ room * room := by
  cases items_step h with
  | last hitem =>
    have hitem := ih.expression hroom hitem
    simp only [heightBelow]
    omega
  | more hitem _ hcomma hmore =>
    have hroom₁ := room_of_advances ((balanced limit reserve).expression hitem) hroom
    have hroom₂ := room_of_advances (advances_of_eat? hcomma) hroom₁
    have hitem := ih.expression hroom hitem
    have hmore := ih.items hroom₂ hmore
    simp only [heightBelow]
    omega

private theorem primary_succ (ih : Low limit reserve) (hroom : limit - c.depth = room)
    (h : Formula.primary (.upTo limit) (reserve + 1) c = .ok (e, c')) :
    e.height ≤ room * room - 1 := by
  cases primary_step h with
  | number | string => exact Nat.zero_le _
  | name =>
    rw [height_ofName]
    exact Nat.zero_le _
  | parenthesized _ hread =>
    have hskip : limit - c.skip.depth = room := hroom
    have hinside := ih.expression hskip hread
    omega
  | list _ henter hlist =>
    obtain ⟨inner, rfl, hinner⟩ := exists_room_of_enter henter hroom
    have hes := ih.list hinner hlist
    have hsquare := succ_mul_succ_self inner
    simp only [height]
    omega

end Low

private theorem low (limit reserve : Nat) : Low limit reserve := by
  induction reserve with
  | zero =>
    constructor
    all_goals
      intros
      rename_i h
      cases h
  | succ reserve ih =>
    exact ⟨ih.expression_succ, ih.operands_succ, ih.chain_succ, ih.operand_succ, ih.accessed_succ,
      ih.accesses_succ, ih.list_succ, ih.items_succ, ih.primary_succ⟩

/-- What is read under a limit is lower than the square of the limit. -/
theorem height_of_ofTokens {limit : Nat} {tokens : List PlacedToken} {e : Expr}
    (h : ofTokens limit tokens = .ok e) : e.height < limit * limit := by
  unfold ofTokens at h
  obtain ⟨⟨whole, c⟩, hwhole, h⟩ := exists_ok_of_bind h
  have hlow : whole.height < limit * limit := (low limit _).expression rfl hwhole
  dsimp only at h
  split at h
  case h_1 =>
    cases h
    exact hlow
  case h_2 => cases h

theorem height_of_parse {source : String} {limits : FormulaLimits} {e : Expr}
    (h : parse source limits = .ok e) : e.height < limits.maxDepth * limits.maxDepth := by
  obtain ⟨tokens, -, h⟩ := exists_ok_of_bind h
  exact height_of_ofTokens h

end Formula

end LiveText
