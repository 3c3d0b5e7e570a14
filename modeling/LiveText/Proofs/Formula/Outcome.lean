import LiveText.Formula.Budget

/-!
# Outcomes that are the same unless one is cut off

Two readings or evaluations under different limits go the same way until one of them fails for its
limit. `SameUnless` says so of their outcomes, and is kept when one step follows another.
-/

namespace LiveText

variable {cut : FormulaError → Prop} {α β : Type}

namespace FormulaError

/-- The failure of spending more steps than the limit. -/
def IsStepBudget (e : FormulaError) : Prop := ∃ limit, e = stepBudget limit

/-- The failure of nesting deeper than the limit. -/
def IsTooDeep (e : FormulaError) : Prop := ∃ limit, e = tooDeep limit

end FormulaError

/-- Whether the first outcome is cut off by a failure of a kind or else is the second one. -/
def SameUnless (cut : FormulaError → Prop) (x y : Except FormulaError α) : Prop :=
  (∃ e, cut e ∧ x = .error e) ∨ x = y

namespace SameUnless

theorem refl (x : Except FormulaError α) : SameUnless cut x x := Or.inr rfl

theorem cutOff {e : FormulaError} (h : cut e) (y : Except FormulaError α) :
    SameUnless cut (.error e) y := Or.inl ⟨e, h, rfl⟩

/-- What follows an outcome that is cut off is cut off as well. -/
theorem bind {x y : Except FormulaError α} {f g : α → Except FormulaError β}
    (h : SameUnless cut x y) (hf : ∀ a, SameUnless cut (f a) (g a)) :
    SameUnless cut (x >>= f) (y >>= g) := by
  rcases h with ⟨e, he, rfl⟩ | rfl
  · exact cutOff he _
  · cases x with
    | error e => exact refl _
    | ok a => exact hf a

end SameUnless

/-- Whether an outcome is not the failure of nesting too deep. -/
def NotTooDeep (x : Except FormulaError α) : Prop := ∀ limit, x ≠ .error (.tooDeep limit)

namespace NotTooDeep

theorem ok (a : α) : NotTooDeep (.ok a) := fun _ h => by cases h

theorem error {e : FormulaError} (h : ∀ limit, e ≠ .tooDeep limit) :
    NotTooDeep (.error e : Except FormulaError α) := fun limit he => h limit (Except.error.inj he)

theorem bind {x : Except FormulaError α} {f : α → Except FormulaError β} (h : NotTooDeep x)
    (hf : ∀ a, x = .ok a → NotTooDeep (f a)) : NotTooDeep (x >>= f) := by
  cases x with
  | error e => exact fun limit hdeep => h limit (congrArg Except.error (Except.error.inj hdeep))
  | ok a => exact hf a rfl

end NotTooDeep

namespace Budgeted

/-- The outcome of an evaluation and what has been used by then. -/
def outcome (m : Budgeted α) (u : Usage) : Except FormulaError α × Usage := m.run.run u

/-- A failure ends an evaluation, and a value is handed on with what has been used. -/
theorem outcome_bind (m : Budgeted α) (f : α → Budgeted β) (u : Usage) :
    outcome (m >>= f) u =
      match outcome m u with
      | (.ok a, u) => outcome (f a) u
      | (.error e, u) => (.error e, u) := by
  have hrun : outcome (m >>= f) u = (ExceptT.bindCont f (outcome m u).1).run (outcome m u).2 := rfl
  rw [hrun]
  rcases outcome m u with ⟨e | a, u⟩ <;> rfl

/-- Whether the first evaluation is cut off by a failure of a kind or else is the second one, from
whatever has been used before. -/
def Alike (cut : FormulaError → Prop) (m m' : Budgeted α) : Prop :=
  ∀ u, (∃ e, cut e ∧ (outcome m u).1 = .error e) ∨ outcome m u = outcome m' u

theorem Alike.refl (m : Budgeted α) : Alike cut m m := fun _ => Or.inr rfl

/-- What follows an evaluation that is cut off is cut off as well. -/
theorem Alike.bind {m m' : Budgeted α} {f f' : α → Budgeted β} (h : Alike cut m m')
    (hf : ∀ a, Alike cut (f a) (f' a)) : Alike cut (m >>= f) (m' >>= f') := by
  intro u
  rw [outcome_bind, outcome_bind]
  rcases h u with ⟨e, he, herror⟩ | hsame
  · left
    refine ⟨e, he, ?_⟩
    rcases hm : outcome m u with ⟨x, used⟩
    rw [hm] at herror
    subst herror
    rfl
  · rw [← hsame]
    rcases outcome m u with ⟨e | a, used⟩
    · exact Or.inr rfl
    · exact hf a used

end Budgeted

end LiveText
