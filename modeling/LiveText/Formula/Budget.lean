import LiveText.Formula.Error
import LiveText.Formula.Parser
import LiveText.Value.Members

/-!
# Budgeted evaluation

An evaluation spends steps and takes random draws. Both are counted, and the counts outlive a
failure.
-/

namespace LiveText

/-- What an evaluation has used. -/
structure Usage where
  steps : Nat := 0
  /-- The random draws taken. -/
  draws : Nat := 0
deriving DecidableEq, Repr

/-- What an evaluation depends on besides the expression. -/
structure Surroundings where
  /-- The values of names. -/
  scope : Members Value
  limits : FormulaLimits
  /-- The random numbers, each at least zero and below one. -/
  draw : Nat → Double

/-- An evaluation that counts its use. -/
abbrev Budgeted (α : Type) := ExceptT FormulaError (StateM Usage) α

namespace Budgeted

/-- Spends steps; fails if that is more than the limit. -/
def spend (limits : FormulaLimits) (cost : Nat) : Budgeted Unit := do
  let used := (← get).steps + cost
  modify ({ · with steps := used })
  if limits.maxSteps < used then throw (.stepBudget limits.maxSteps)

/-- Takes a random draw. -/
def draw (s : Surroundings) : Budgeted Double := do
  let n := (← get).draws
  modify ({ · with draws := n + 1 })
  return s.draw n

end Budgeted

end LiveText
