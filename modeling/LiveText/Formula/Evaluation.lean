import LiveText.Formula.Method
import LiveText.Formula.Namespace
import LiveText.Formula.Operators

/-!
# Evaluation of formulas

Every node that is evaluated costs a step and lies at a depth; both are limited. The arguments of a
call are evaluated before what is called. Names that the scope does not hold are unknown, except for
the namespaces and the global functions.
-/

namespace LiveText.Formula

open Budgeted

/-- The namespace that an expression names, unless the scope holds the name. -/
def namespace? (s : Surroundings) : Expr → Option Namespace
  | .name name => if (s.scope.get? name).isSome then none else Namespace.ofName? name
  | _ => none

/-- The step for a node at a depth. -/
def visit (s : Surroundings) (depth : Nat) : Budgeted Unit := do
  spend s.limits 1
  if 2 * s.limits.maxDepth < depth then throw (.tooDeep s.limits.maxDepth)

/-- The constant that a property of an expression is. -/
def constant? (s : Surroundings) (object : Expr) (property : String) : Option Double :=
  (namespace? s object).bind (·.constant? property)

/-- A value that may be missing for a cause. -/
def lift (r : Except FormulaError Value) : Budgeted Value := ExceptT.mk (pure r)

mutual

/-- The value of an expression at a depth. -/
@[simp] def eval (s : Surroundings) (depth : Nat) : Expr → Budgeted Value
  | .literal v => do
    visit s depth
    return v
  | .name name => do
    visit s depth
    match s.scope.get? name with
    | some v => return v
    | none => throw (.unknownIdentifier name)
  | .list items => do
    visit s depth
    return .array (← evalItems s (depth + 1) items)
  | .unary op e => do
    visit s depth
    return op.apply (← eval s (depth + 1) e)
  | .binary op left right => do
    visit s depth
    let v ← eval s (depth + 1) left
    let w ← eval s (depth + 1) right
    return op.apply v w
  | .logical op left right => do
    visit s depth
    let v ← eval s (depth + 1) left
    if op.settledBy v then return v else eval s (depth + 1) right
  | .conditional test yes no => do
    visit s depth
    let v ← eval s (depth + 1) test
    if v.truthy then eval s (depth + 1) yes else eval s (depth + 1) no
  | .member object property => do
    visit s depth
    match constant? s object property with
    | some x => return .number x
    | none =>
      let v ← eval s (depth + 1) object
      lift (v.property property)
  | .index object key => do
    visit s depth
    let v ← eval s (depth + 1) object
    let k ← eval s (depth + 1) key
    lift (v.property k.display)
  | .call (.name name) args => do
    visit s depth
    let vs ← evalItems s (depth + 1) args
    if (s.scope.get? name).isSome then throw (.notCallable name)
    else lift (Namespace.callGlobal name vs)
  | .call (.member object property) args => do
    visit s depth
    let vs ← evalItems s (depth + 1) args
    match namespace? s object with
    | some ns => ns.call s property vs
    | none =>
      let v ← eval s (depth + 1) object
      Method.call s.limits v property vs
  | .call _ args => do
    visit s depth
    let _ ← evalItems s (depth + 1) args
    throw (.notCallable "expression")

/-- The values of expressions from left to right. -/
@[simp] def evalItems (s : Surroundings) (depth : Nat) : List Expr → Budgeted (List Value)
  | [] => return []
  | e :: rest => do
    let v ← eval s depth e
    let vs ← evalItems s depth rest
    return v :: vs

end

/-- The value of the formula that a text spells, and the count of random draws taken by then. Draws
are counted from `drawn`. -/
def evaluate (s : Surroundings) (drawn : Nat) (source : String) : Except FormulaError Value × Nat :=
  match parse source s.limits with
  | .error e => (.error e, drawn)
  | .ok e =>
    let (result, usage) := ((eval s 0 e).run.run { draws := drawn })
    (result, usage.draws)

end LiveText.Formula
