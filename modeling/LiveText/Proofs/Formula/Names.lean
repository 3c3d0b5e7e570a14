import LiveText.Proofs.Formula.Effects

/-!
# The names that a formula sees

An evaluation looks names up in four places: a name by itself, the namespace of a constant or of a
call, and a global function, which a name of the scope hides. All of them occur in the expression,
so scopes with the same entries under the names of a formula cannot be told apart by it:
`evaluate_sees_only_names`.
-/

namespace LiveText

namespace Formula

variable {s : Surroundings} {other : Members Value}

/-- Only the scope differs, so the effects of evaluations are the same. -/
theorem compatible_withScope (s : Surroundings) (other : Members Value) (deepest : Nat) :
    Compatible (fun _ m m' => m' = m) s { s with scope := other } deepest where
  result _ := rfl
  failure _ := rfl
  sequence h hf := by rw [h, funext hf]
  spend _ := rfl
  draw := rfl
  visit _ := rfl

/-- An expression has the same value, or fails for the same cause, in both scopes. -/
theorem eval_congr (depth : Nat) (e : Expr) (h : SameScope e.names s.scope other) :
    eval { s with scope := other } depth e = eval s depth e :=
  eval_related (compatible_withScope s other _) e h (Nat.le_refl _)

/-- Two scopes that have the same entries under the names of a formula give it the same value or
the same failure, after the same random draws. -/
theorem evaluate_sees_only_names (s : Surroundings) (drawn : Nat) (source : String)
    {other : Members Value}
    (h : ∀ e, parse source s.limits = .ok e → SameScope e.names s.scope other) :
    evaluate { s with scope := other } drawn source = evaluate s drawn source := by
  unfold evaluate
  cases hparse : parse source s.limits with
  | error e => rfl
  | ok e => simp only [eval_congr 0 e (h e hparse)]

/-- A scope that hides the namespace `JSON` and the function `String` but not what the formula
`Math.max(a, Number(b)) + b.length` calls. -/
def hidingScope : Members Value :=
  [("JSON", .null), ("String", .bool true), ("a", .number 2), ("b", .string "10"), ("c", .number 3)]

theorem evaluate_sees_only_names_hiding :
    (∀ e, parse "Math.max(a, Number(b)) + b.length" ⟨100, 8⟩ = .ok e →
      SameScope e.names hidingScope [("a", .number 2), ("b", .string "10")]) ∧
    (evaluate ⟨[("a", .number 2), ("b", .string "10")], ⟨100, 8⟩, fun _ => 0⟩ 0
      "Math.max(a, Number(b)) + b.length").1.toOption.map Value.display = some "12" := by
  have hnames : (parse "Math.max(a, Number(b)) + b.length" ⟨100, 8⟩).toOption.map Expr.names =
      some ["Math", "a", "Number", "b", "b"] := by decide +kernel
  have hsame : ∀ e, parse "Math.max(a, Number(b)) + b.length" ⟨100, 8⟩ = .ok e →
      SameScope e.names hidingScope [("a", .number 2), ("b", .string "10")] := by
    intro e he
    rw [he] at hnames
    rw [Option.some.inj hnames]
    simp only [SameScope, List.forall_mem_cons]
    exact ⟨rfl, rfl, rfl, rfl, rfl, nofun⟩
  refine ⟨hsame, ?_⟩
  rw [evaluate_sees_only_names ⟨hidingScope, ⟨100, 8⟩, fun _ => 0⟩ 0
    "Math.max(a, Number(b)) + b.length" hsame]
  decide +kernel

end Formula

end LiveText
