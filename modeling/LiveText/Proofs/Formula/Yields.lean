import Mathlib
import LiveText.Formula.Evaluation
import LiveText.Proofs.Formula.Limits

/-!
# Values of expressions

An expression yields a value if it is evaluated to that value wherever the limits leave enough steps
and room. What an expression yields is one value (`Yields.unique`) and follows from what its parts
yield.
-/

namespace LiveText

namespace Budgeted

variable {limits : FormulaLimits} {α β : Type}

/-- Whether an evaluation gives a value for so many steps, if the limits leave them. -/
def Gives (limits : FormulaLimits) (m : Budgeted α) (steps : Nat) (a : α) : Prop :=
  ∀ u, u.steps + steps ≤ limits.maxSteps →
    outcome m u = (.ok a, { u with steps := u.steps + steps })

theorem gives_pure (a : α) : Gives limits (pure a) 0 a := fun _ _ => rfl

theorem gives_spend (cost : Nat) : Gives limits (spend limits cost) cost () := by
  intro u h
  rw [outcome_spend, if_neg (Nat.not_lt.mpr h)]
  rfl

/-- Steps add up when one evaluation follows another. -/
theorem Gives.bind {m : Budgeted α} {f : α → Budgeted β} {a : α} {b : β} {steps more : Nat}
    (h : Gives limits m steps a) (hf : Gives limits (f a) more b) :
    Gives limits (m >>= f) (steps + more) b := by
  intro u hu
  rw [outcome_bind, h u (by omega)]
  refine (hf { u with steps := u.steps + steps } (by dsimp only; omega)).trans ?_
  rw [Nat.add_assoc]

end Budgeted

namespace Formula

open Budgeted

variable {scope : Members Value} {e left right : Expr} {v w : Value}

/-- Whether an expression is evaluated to a value in a scope wherever enough steps and depth are
left. -/
def Yields (scope : Members Value) (e : Expr) (v : Value) : Prop :=
  ∃ steps height, ∀ s : Surroundings, s.scope = scope →
    ∀ depth, depth + height ≤ 2 * s.limits.maxDepth → Gives s.limits (eval s depth e) steps v

/-- Whether expressions are evaluated to values, one after another. -/
def YieldsAll (scope : Members Value) (es : List Expr) (vs : List Value) : Prop :=
  ∃ steps height, ∀ s : Surroundings, s.scope = scope →
    ∀ depth, depth + height ≤ 2 * s.limits.maxDepth → Gives s.limits (evalItems s depth es) steps vs

/-- Whether a call of a method gives a value wherever enough steps are left. -/
def Calls (target : Value) (name : String) (args : List Value) (v : Value) : Prop :=
  ∃ steps, ∀ limits, Gives limits (Method.call limits target name args) steps v

theorem gives_visit {s : Surroundings} {depth : Nat} (h : depth ≤ 2 * s.limits.maxDepth) :
    Gives s.limits (visit s depth) 1 () := by
  have hdepth : (if 2 * s.limits.maxDepth < depth then throw (.tooDeep s.limits.maxDepth)
      else pure () : Budgeted Unit) = pure () := if_neg (Nat.not_lt.mpr h)
  rw [visit, hdepth]
  exact (gives_spend 1).bind (gives_pure ())

/-- Surroundings that leave so many steps and so much room. -/
def roomy (scope : Members Value) (steps height : Nat) : Surroundings where
  scope := scope
  limits := { maxSteps := steps, maxDepth := height }
  draw _ := 0

theorem Yields.unique (hv : Yields scope e v) (hw : Yields scope e w) : v = w := by
  obtain ⟨steps, height, hv⟩ := hv
  obtain ⟨steps', height', hw⟩ := hw
  have hleft := hv (roomy scope (steps + steps') (height + height')) rfl 0
    (by simp only [roomy]; omega) {} (by simp only [roomy]; omega)
  have hright := hw (roomy scope (steps + steps') (height + height')) rfl 0
    (by simp only [roomy]; omega) {} (by simp only [roomy]; omega)
  exact Except.ok.inj (congrArg Prod.fst (hleft.symm.trans hright))

/-- What yields a value is no namespace. -/
theorem Yields.namespace?_eq_none {s : Surroundings}
    (h : Yields s.scope e v) : namespace? s e = none := by
  cases e with
  | name name =>
    cases hentry : s.scope.get? name with
    | some w => simp only [namespace?, hentry, Option.isSome_some, ite_true]
    | none =>
      -- a name without an entry is unknown wherever it is evaluated
      obtain ⟨steps, height, h⟩ := h
      have hfound := h (roomy s.scope (steps + 1) height) rfl 0 (by simp only [roomy]; omega) {}
        (by simp only [roomy]; omega)
      have hvisit := gives_visit (s := roomy s.scope (steps + 1) height) (Nat.zero_le _) {}
        (by simp only [roomy]; omega)
      have hscope : (roomy s.scope (steps + 1) height).scope.get? name = none := hentry
      rw [eval, outcome_bind, hvisit, hscope] at hfound
      cases congrArg Prod.fst hfound
  | _ => rfl

/-! ### Rules -/

theorem yields_literal (scope : Members Value) (v : Value) : Yields scope (.literal v) v := by
  refine ⟨1 + 0, 0, fun s _ depth hdepth => ?_⟩
  rw [eval]
  refine (gives_visit hdepth).bind ?_
  exact gives_pure v

theorem yields_name {name : String} (h : scope.get? name = some v) :
    Yields scope (.name name) v := by
  refine ⟨1 + 0, 0, fun s hs depth hdepth => ?_⟩
  rw [eval, hs, h]
  refine (gives_visit hdepth).bind ?_
  exact gives_pure v

theorem Yields.binary (op : BinaryOp) (hv : Yields scope left v) (hw : Yields scope right w) :
    Yields scope (.binary op left right) (op.apply v w) := by
  obtain ⟨steps, height, hv⟩ := hv
  obtain ⟨steps', height', hw⟩ := hw
  refine ⟨1 + (steps + (steps' + 0)), 1 + height + height', fun s hs depth hdepth => ?_⟩
  rw [eval]
  exact (gives_visit (by omega)).bind ((hv s hs (depth + 1) (by omega)).bind
    ((hw s hs (depth + 1) (by omega)).bind (gives_pure _)))

theorem yieldsAll_nil (scope : Members Value) : YieldsAll scope [] [] := by
  refine ⟨0, 0, fun s _ depth _ => ?_⟩
  rw [evalItems]
  exact gives_pure []

theorem YieldsAll.cons {es : List Expr} {vs : List Value} (hv : Yields scope e v)
    (hvs : YieldsAll scope es vs) : YieldsAll scope (e :: es) (v :: vs) := by
  obtain ⟨steps, height, hv⟩ := hv
  obtain ⟨steps', height', hvs⟩ := hvs
  refine ⟨steps + (steps' + 0), height + height', fun s hs depth hdepth => ?_⟩
  rw [evalItems]
  exact (hv s hs depth (by omega)).bind ((hvs s hs depth (by omega)).bind (gives_pure _))

/-- A property of what an expression yields. -/
theorem Yields.member {property : String} (hv : Yields scope e v)
    (h : v.property property = .ok w) : Yields scope (.member e property) w := by
  obtain ⟨steps, height, hsteps⟩ := id hv
  refine ⟨1 + (steps + 0), 1 + height, fun s hs depth hdepth => ?_⟩
  have hnone : constant? s e property = none := by
    rw [constant?, Yields.namespace?_eq_none (hs ▸ hv), Option.bind_none]
  rw [eval, hnone]
  refine (gives_visit (by omega)).bind ((hsteps s hs (depth + 1) (by omega)).bind ?_)
  rw [h]
  exact gives_pure w

/-- A method of what an expression yields, on what others yield. -/
theorem Yields.call {name : String} {es : List Expr} {vs : List Value} (hv : Yields scope e v)
    (hvs : YieldsAll scope es vs) (h : Calls v name vs w) :
    Yields scope (.call (.member e name) es) w := by
  obtain ⟨steps, height, hsteps⟩ := id hv
  obtain ⟨steps', height', hvs⟩ := hvs
  obtain ⟨cost, hcall⟩ := h
  refine ⟨1 + (steps' + (steps + cost)), 1 + height + height', fun s hs depth hdepth => ?_⟩
  rw [eval, Yields.namespace?_eq_none (hs ▸ hv)]
  exact (gives_visit (by omega)).bind ((hvs s hs (depth + 1) (by omega)).bind
    ((hsteps s hs (depth + 1) (by omega)).bind (hcall s.limits)))

end Formula

end LiveText
