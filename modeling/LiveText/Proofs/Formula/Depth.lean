import LiveText.Proofs.Formula.Height
import LiveText.Proofs.Formula.Limits

/-!
# The depth of evaluations

An evaluation fails for its depth only at a node, so never where the height of the expression keeps
to twice the limit: `eval_shallow`. What is read under a limit is lower than the limit's square,
which is more than that above two: `accepted_depth`.
-/

namespace LiveText

namespace Budgeted

variable {α β : Type}

/-- Whether an evaluation never fails for its depth, whatever has been used before. -/
def Shallow (m : Budgeted α) : Prop := ∀ u, NotTooDeep (outcome m u).1

namespace Shallow

theorem pure (a : α) : Shallow (pure a) := fun _ => .ok a

theorem throw {e : FormulaError} (h : ∀ limit, e ≠ .tooDeep limit) :
    Shallow (throw e : Budgeted α) := fun _ => .error h

theorem bind {m : Budgeted α} {f : α → Budgeted β} (h : Shallow m) (hf : ∀ a, Shallow (f a)) :
    Shallow (m >>= f) := by
  intro u
  rw [outcome_bind]
  have hm := h u
  rcases houtcome : outcome m u with ⟨e | a, used⟩
  · rw [houtcome] at hm
    exact .error fun limit he => hm limit (congrArg Except.error he)
  · exact hf a used

theorem spend (limits : FormulaLimits) (cost : Nat) : Shallow (spend limits cost) := by
  intro u
  rw [outcome_spend]
  split
  · exact throw (by simp) _
  · exact pure () _

private theorem draw (s : Surroundings) : Shallow (draw s) := fun _ => .ok _

end Shallow

end Budgeted

open Budgeted

namespace Formula

variable {s : Surroundings}

private theorem visit_shallow {depth : Nat} (h : depth ≤ 2 * s.limits.maxDepth) :
    Shallow (visit s depth) := by
  unfold visit
  rw [if_neg (Nat.not_lt.mpr h)]
  exact (Shallow.spend _ _).bind fun _ => .pure _

/-- No effect fails for its depth down to twice the limit. -/
theorem compatible_shallow (s : Surroundings) :
    Compatible (fun _ m _ => Shallow m) s s (2 * s.limits.maxDepth) where
  result := .pure
  failure := .throw
  sequence := .bind
  spend := .spend _
  draw := .draw s
  visit := visit_shallow

/-- An evaluation goes no deeper than the height of the expression. -/
theorem eval_shallow (depth : Nat) (e : Expr) (h : depth + e.height ≤ 2 * s.limits.maxDepth) :
    Shallow (eval s depth e) :=
  eval_related (compatible_shallow s) e (fun _ _ => rfl) h

/-- A tree that is read under a limit is lower than the limit's square. Its evaluation fails for its
depth only where the tree is higher than twice the limit of the evaluation, so a text does not under
a limit up to two. -/
theorem accepted_depth (source : String) (limits : FormulaLimits) (e : Expr)
    (h : parse source limits = .ok e) :
    e.height < limits.maxDepth * limits.maxDepth ∧
    (∀ s : Surroundings, e.height ≤ 2 * s.limits.maxDepth → Shallow (eval s 0 e)) ∧
    (limits.maxDepth ≤ 2 → ∀ s : Surroundings, s.limits = limits → ∀ drawn,
      NotTooDeep (evaluate s drawn source).1) := by
  have hheight := height_of_parse h
  have hshallow (s : Surroundings) (hs : e.height ≤ 2 * s.limits.maxDepth) :
      Shallow (eval s 0 e) := eval_shallow 0 e (by omega)
  refine ⟨hheight, hshallow, ?_⟩
  rintro hlimit s rfl drawn
  have hsquare : s.limits.maxDepth * s.limits.maxDepth ≤ s.limits.maxDepth * 2 :=
    Nat.mul_le_mul_left _ hlimit
  unfold evaluate
  rw [h]
  exact hshallow s (by omega) { draws := drawn }

/-- A text whose tree is as high as a limit of two allows. -/
def lowSource : String := "(a).b + c ? d : 0"

/-- A scope of its names, under a limit of two. -/
def lowSurroundings : Surroundings :=
  { scope := [("a", .object [("b", .string "x")]), ("c", .string "y"), ("d", .string "z")]
    limits := ⟨20, 2⟩
    draw := fun _ => 0 }

theorem accepted_depth_low :
    (parse lowSource ⟨20, 2⟩).toOption.map Expr.height = some 3 ∧
      (evaluate lowSurroundings 0 lowSource).1.toOption.map Value.display = some "z" ∧
      NotTooDeep (evaluate lowSurroundings 0 lowSource).1 := by
  have hheight : (parse lowSource ⟨20, 2⟩).toOption.map Expr.height = some 3 := by decide +kernel
  refine ⟨hheight, by decide +kernel, ?_⟩
  cases hread : parse lowSource ⟨20, 2⟩ with
  | error _ =>
    rw [hread] at hheight
    cases hheight
  | ok e => exact (accepted_depth lowSource ⟨20, 2⟩ e hread).2.2 (by decide) lowSurroundings rfl 0

/-- A text with a longer sum behind every parenthesis. -/
def steepSource : String := "(((((1)+1)+1+1)+1+1+1)+1+1+1+1)+1+1+1+1+1"

/-- A text can be read under a limit and then be too deep to be evaluated under the same one. -/
theorem steep_tooDeep : (parse steepSource ⟨10000, 6⟩).toOption.map Expr.height = some 15 ∧
    (evaluate ⟨[], ⟨10000, 6⟩, fun _ => 0⟩ 0 steepSource).1 = .error (.tooDeep 6) := by
  refine ⟨by decide +kernel, ?_⟩
  have hfailure : (match (evaluate ⟨[], ⟨10000, 6⟩, fun _ => 0⟩ 0 steepSource).1 with
      | .error e => decide (e = .tooDeep 6)
      | .ok _ => false) = true := by decide +kernel
  cases hvalue : (evaluate ⟨[], ⟨10000, 6⟩, fun _ => 0⟩ 0 steepSource).1 with
  | error e =>
    rw [hvalue] at hfailure
    rw [of_decide_eq_true hfailure]
  | ok v =>
    rw [hvalue] at hfailure
    cases hfailure

end Formula

end LiveText
