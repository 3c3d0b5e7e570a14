import LiveText.Formula.Evaluation
import LiveText.Proofs.Formula.Outcome

/-!
# The effects of evaluations

An evaluation looks up names of the expression, spends steps, takes random draws and checks its
depth, which comes to the height of the expression at most. It depends on its surroundings in no
other way: a relation that results, failures and sequences keep relates the evaluations in two
surroundings if it relates these effects. Each kind of expression has a lemma of its own, and
`eval_related` puts them together.
-/

namespace LiveText

namespace Expr

mutual

/-- The names that occur in an expression, those of functions and of namespaces included. -/
@[simp] def names : Expr → List String
  | .literal _ => []
  | .name n => [n]
  | .list items => namesOfItems items
  | .unary _ operand => operand.names
  | .binary _ left right => left.names ++ right.names
  | .logical _ left right => left.names ++ right.names
  | .conditional test yes no => test.names ++ yes.names ++ no.names
  | .member object _ => object.names
  | .index object key => object.names ++ key.names
  | .call callee args => callee.names ++ namesOfItems args

/-- The names that occur in expressions. -/
@[simp] def namesOfItems : List Expr → List String
  | [] => []
  | e :: rest => e.names ++ namesOfItems rest

end

mutual

/-- The greatest depth at which a node of an expression may be evaluated. What is called is no such
node, but the object of a method is. -/
@[simp] def height : Expr → Nat
  | .literal _ | .name _ => 0
  | .list items => heightBelow items
  | .unary _ operand => operand.height + 1
  | .binary _ left right | .logical _ left right => max left.height right.height + 1
  | .conditional test yes no => max test.height (max yes.height no.height) + 1
  | .member object _ => object.height + 1
  | .index object key => max object.height key.height + 1
  | .call (.member object _) args => max (object.height + 1) (heightBelow args)
  | .call _ args => heightBelow args

/-- The greatest depth at which a node may be evaluated of expressions one level down; zero if there
are none. -/
@[simp] def heightBelow : List Expr → Nat
  | [] => 0
  | e :: rest => max (e.height + 1) (heightBelow rest)

end

theorem heightBelow_le_height_call (callee : Expr) (args : List Expr) :
    heightBelow args ≤ (call callee args).height := by
  cases callee with
  | member object property =>
    rw [height]
    exact Nat.le_max_right ..
  | _ =>
    rw [height]
    all_goals simp

end Expr

namespace Formula

/-- Whether two scopes have the same entries, or none, under given names. -/
def SameScope (names : List String) (scope other : Members Value) : Prop :=
  ∀ name ∈ names, scope.get? name = other.get? name

theorem sameScope_append {xs ys : List String} {scope other : Members Value} :
    SameScope (xs ++ ys) scope other ↔ SameScope xs scope other ∧ SameScope ys scope other :=
  List.forall_mem_append

end Formula

open Budgeted

/-! ### Failures that are not for depth -/

theorem Value.property_notTooDeep (v : Value) (name : String) : NotTooDeep (v.property name) := by
  unfold property
  split
  case h_1 | h_2 => exact .error (by simp)
  case h_3 =>
    split
    · exact .ok _
    · split <;> exact .ok _
  case h_4 =>
    split <;> exact .ok _
  all_goals exact .ok _

namespace Namespace

private theorem callJson_notTooDeep (name : String) (args : List Value) :
    NotTooDeep (callJson name args) := by
  unfold callJson
  split
  · split <;> exact .ok _
  · split
    · exact .ok _
    · exact .error (by simp)
  · exact .error (by simp)

private theorem callGlobal_notTooDeep (name : String) (args : List Value) :
    NotTooDeep (callGlobal name args) := by
  unfold callGlobal
  dsimp only
  split
  case h_8 => exact .error (by simp)
  all_goals exact .ok _

end Namespace

/-! ### Relations between evaluations -/

/-- Whether a relation is kept by results, by failures that are not for depth and by sequences, and
relates the effects in two surroundings down to a depth. -/
structure Compatible (R : (α : Type) → Budgeted α → Budgeted α → Prop) (s s' : Surroundings)
    (deepest : Nat) : Prop where
  result : ∀ {α} (a : α), R α (pure a) (pure a)
  failure : ∀ {α e}, (∀ limit, e ≠ .tooDeep limit) → R α (throw e) (throw e)
  sequence : ∀ {α β m m'} {f f' : α → Budgeted β}, R α m m' → (∀ a, R β (f a) (f' a)) →
    R β (m >>= f) (m' >>= f')
  spend : ∀ cost, R Unit (spend s.limits cost) (spend s'.limits cost)
  draw : R Double (draw s) (draw s')
  visit : ∀ {depth}, depth ≤ deepest → R Unit (Formula.visit s depth) (Formula.visit s' depth)

variable {R : (α : Type) → Budgeted α → Budgeted α → Prop} {s s' : Surroundings} {deepest : Nat}

/-- A value that may be missing for another cause than depth. -/
theorem Compatible.lift (h : Compatible R s s' deepest) {r : Except FormulaError Value}
    (hr : NotTooDeep r) : R Value (Formula.lift r) (Formula.lift r) := by
  cases r with
  | ok v => exact h.result v
  | error e => exact h.failure fun limit he => hr limit (congrArg Except.error he)

namespace Method

private theorem padded_related (h : Compatible R s s' deepest) (name : String) (cs : List Char)
    (args : List Value) :
    R Value (padded s.limits name cs args) (padded s'.limits name cs args) := by
  unfold padded
  dsimp only
  split
  · exact h.failure (by simp)
  · exact h.sequence (h.spend _) fun _ => h.result _

private theorem onText_related (h : Compatible R s s' deepest) (cs : List Char) (name : String)
    (args : List Value) :
    R Value (onText s.limits cs name args) (onText s'.limits cs name args) := by
  unfold onText
  refine h.sequence (h.spend _) fun _ => ?_
  split
  case h_12 =>
    split
    all_goals exact h.result _
  case h_13 | h_14 => exact padded_related h _ cs args
  case h_16 => exact h.failure (by simp)
  all_goals exact h.result _

private theorem onArray_related (h : Compatible R s s' deepest) (items : List Value) (name : String)
    (args : List Value) :
    R Value (onArray s.limits items name args) (onArray s'.limits items name args) := by
  unfold onArray
  split
  case h_1 | h_2 | h_3 => exact h.sequence (h.spend _) fun _ => h.result _
  case h_4 => exact h.result _
  case h_5 => exact h.failure (by simp)

private theorem onNumber_related (h : Compatible R s s' deepest) (x : Double) (name : String)
    (args : List Value) : R Value (onNumber x name args) (onNumber x name args) := by
  unfold onNumber
  split
  case h_1 => exact h.result _
  case h_2 =>
    dsimp only
    split
    · exact h.result _
    · exact h.failure (by simp)
  case h_3 => exact h.failure (by simp)

private theorem call_related (h : Compatible R s s' deepest) (target : Value) (name : String)
    (args : List Value) :
    R Value (call s.limits target name args) (call s'.limits target name args) := by
  unfold call
  split
  case h_1 => exact onNumber_related h _ _ _
  case h_2 =>
    split
    · exact h.result _
    · exact onText_related h _ _ _
  case h_3 =>
    split
    · exact h.result _
    · exact h.failure (by simp)
  case h_4 => exact onArray_related h _ _ _
  all_goals exact h.failure (by simp)

end Method

theorem Namespace.call_related (h : Compatible R s s' deepest) (ns : Namespace) (name : String)
    (args : List Value) : R Value (ns.call s name args) (ns.call s' name args) := by
  unfold call
  split
  · split
    · exact h.sequence h.draw fun _ => h.result _
    · split
      · exact h.result _
      · exact h.failure (by simp)
  · exact h.lift (callJson_notTooDeep _ _)

namespace Formula

open LiveText.Expr hiding name

/-- An expression is the same namespace, or none, in both scopes. -/
theorem namespace?_congr {e : Expr} (h : SameScope e.names s.scope s'.scope) :
    (namespace? s' e) = namespace? s e := by
  cases e with
  | name n =>
    have hentry : s.scope.get? n = s'.scope.get? n := h n (by simp)
    simp only [namespace?, hentry]
  | _ => rfl

/-- Whether evaluations of an expression are related: at every depth that leaves its nodes within
the deepest, where its names have the same entries. -/
def Related (R : (α : Type) → Budgeted α → Budgeted α → Prop) (s s' : Surroundings) (deepest : Nat)
    (e : Expr) : Prop :=
  ∀ {depth}, SameScope e.names s.scope s'.scope → depth + e.height ≤ deepest →
    R Value (eval s depth e) (eval s' depth e)

/-- Whether evaluations of expressions one after another, one level down, are related likewise. -/
def ItemsRelated (R : (α : Type) → Budgeted α → Budgeted α → Prop) (s s' : Surroundings)
    (deepest : Nat) (items : List Expr) : Prop :=
  ∀ {depth}, SameScope (namesOfItems items) s.scope s'.scope →
    depth + heightBelow items ≤ deepest →
    R (List Value) (evalItems s (depth + 1) items) (evalItems s' (depth + 1) items)

section Constructors

variable {e left right test yes no object key : Expr} {items args : List Expr}

private theorem related_literal (h : Compatible R s s' deepest) (v : Value) :
    Related R s s' deepest (.literal v) := by
  intro depth _ hdepth
  rw [eval, eval]
  exact h.sequence (h.visit (by omega)) fun _ => h.result v

private theorem related_name (h : Compatible R s s' deepest) (n : String) :
    Related R s s' deepest (.name n) := by
  intro depth hscope hdepth
  have hentry : s.scope.get? n = s'.scope.get? n := hscope n (by simp)
  rw [eval, eval, ← hentry]
  refine h.sequence (h.visit (by omega)) fun _ => ?_
  cases s.scope.get? n with
  | some v => exact h.result v
  | none => exact h.failure (by simp)

private theorem related_list (h : Compatible R s s' deepest)
    (hitems : ItemsRelated R s s' deepest items) :
    Related R s s' deepest (.list items) := by
  intro depth hscope hdepth
  rw [names] at hscope
  rw [height] at hdepth
  rw [eval, eval]
  exact h.sequence (h.visit (by omega)) fun _ =>
    h.sequence (hitems hscope hdepth) fun _ => h.result _

private theorem related_unary (h : Compatible R s s' deepest) (op : UnaryOp)
    (he : Related R s s' deepest e) : Related R s s' deepest (.unary op e) := by
  intro depth hscope hdepth
  rw [names] at hscope
  rw [height] at hdepth
  rw [eval, eval]
  exact h.sequence (h.visit (by omega)) fun _ =>
    h.sequence (he hscope (by omega)) fun _ => h.result _

private theorem related_binary (h : Compatible R s s' deepest) (op : BinaryOp)
    (hleft : Related R s s' deepest left) (hright : Related R s s' deepest right) :
    Related R s s' deepest (.binary op left right) := by
  intro depth hscope hdepth
  rw [names, sameScope_append] at hscope
  rw [height] at hdepth
  rw [eval, eval]
  exact h.sequence (h.visit (by omega)) fun _ =>
    h.sequence (hleft hscope.1 (by omega)) fun _ =>
      h.sequence (hright hscope.2 (by omega)) fun _ => h.result _

private theorem related_logical (h : Compatible R s s' deepest) (op : LogicalOp)
    (hleft : Related R s s' deepest left) (hright : Related R s s' deepest right) :
    Related R s s' deepest (.logical op left right) := by
  intro depth hscope hdepth
  rw [names, sameScope_append] at hscope
  rw [height] at hdepth
  rw [eval, eval]
  refine h.sequence (h.visit (by omega)) fun _ =>
    h.sequence (hleft hscope.1 (by omega)) fun v => ?_
  cases op.settledBy v with
  | true => exact h.result v
  | false => exact hright hscope.2 (by omega)

private theorem related_conditional (h : Compatible R s s' deepest)
    (htest : Related R s s' deepest test)
    (hyes : Related R s s' deepest yes) (hno : Related R s s' deepest no) :
    Related R s s' deepest (.conditional test yes no) := by
  intro depth hscope hdepth
  rw [names, sameScope_append, sameScope_append] at hscope
  rw [height] at hdepth
  rw [eval, eval]
  refine h.sequence (h.visit (by omega)) fun _ =>
    h.sequence (htest hscope.1.1 (by omega)) fun v => ?_
  cases v.truthy with
  | true => exact hyes hscope.1.2 (by omega)
  | false => exact hno hscope.2 (by omega)

private theorem related_member (h : Compatible R s s' deepest)
    (hobject : Related R s s' deepest object)
    (property : String) : Related R s s' deepest (.member object property) := by
  intro depth hscope hdepth
  rw [names] at hscope
  rw [height] at hdepth
  rw [eval, eval, constant?, constant?, namespace?_congr hscope]
  refine h.sequence (h.visit (by omega)) fun _ => ?_
  cases (namespace? s object).bind (·.constant? property) with
  | some x => exact h.result _
  | none =>
    exact h.sequence (hobject hscope (by omega)) fun v => h.lift (v.property_notTooDeep property)

private theorem related_index (h : Compatible R s s' deepest)
    (hobject : Related R s s' deepest object)
    (hkey : Related R s s' deepest key) : Related R s s' deepest (.index object key) := by
  intro depth hscope hdepth
  rw [names, sameScope_append] at hscope
  rw [height] at hdepth
  rw [eval, eval]
  exact h.sequence (h.visit (by omega)) fun _ =>
    h.sequence (hobject hscope.1 (by omega)) fun v =>
      h.sequence (hkey hscope.2 (by omega)) fun k => h.lift (v.property_notTooDeep k.display)

private theorem related_call_name (h : Compatible R s s' deepest) (n : String)
    (hargs : ItemsRelated R s s' deepest args) : Related R s s' deepest (.call (.name n) args) := by
  intro depth hscope hdepth
  have hbelow := heightBelow_le_height_call (.name n) args
  rw [names, sameScope_append] at hscope
  have hentry : s.scope.get? n = s'.scope.get? n := hscope.1 n (by simp)
  rw [eval, eval, ← hentry]
  refine h.sequence (h.visit (by omega)) fun _ =>
    h.sequence (hargs hscope.2 (by omega)) fun vs => ?_
  cases (s.scope.get? n).isSome with
  | true => exact h.failure (by simp)
  | false => exact h.lift (Namespace.callGlobal_notTooDeep n vs)

private theorem related_call_member (h : Compatible R s s' deepest)
    (hobject : Related R s s' deepest object) (property : String)
    (hargs : ItemsRelated R s s' deepest args) :
    Related R s s' deepest (.call (.member object property) args) := by
  intro depth hscope hdepth
  rw [names, names, sameScope_append] at hscope
  rw [height] at hdepth
  rw [eval, eval, namespace?_congr hscope.1]
  refine h.sequence (h.visit (by omega)) fun _ =>
    h.sequence (hargs hscope.2 (by omega)) fun vs => ?_
  cases namespace? s object with
  | some ns => exact Namespace.call_related h ns property vs
  | none =>
    exact h.sequence (hobject hscope.1 (by omega)) fun v => Method.call_related h v property vs

/-- What is neither a name nor a property is not called, but the arguments come first. -/
theorem related_call_other (h : Compatible R s s' deepest) {callee : Expr}
    (hname : ∀ n, callee ≠ .name n) (hmember : ∀ object property, callee ≠ .member object property)
    (hargs : ItemsRelated R s s' deepest args) : Related R s s' deepest (.call callee args) := by
  intro depth hscope hdepth
  have hbelow := heightBelow_le_height_call callee args
  rw [names, sameScope_append] at hscope
  rw [eval, eval]
  · exact h.sequence (h.visit (by omega)) fun _ =>
      h.sequence (hargs hscope.2 (by omega)) fun _ => h.failure (by simp)
  all_goals first
    | exact hname
    | exact hmember

private theorem itemsRelated_nil (h : Compatible R s s' deepest) : ItemsRelated R s s' deepest [] :=
  fun _ _ => h.result []

private theorem itemsRelated_cons (h : Compatible R s s' deepest) (he : Related R s s' deepest e)
    (hitems : ItemsRelated R s s' deepest items) : ItemsRelated R s s' deepest (e :: items) := by
  intro depth hscope hdepth
  rw [namesOfItems, sameScope_append] at hscope
  rw [heightBelow] at hdepth
  rw [evalItems, evalItems]
  exact h.sequence (he hscope.1 (by omega)) fun _ =>
    h.sequence (hitems hscope.2 (by omega)) fun _ => h.result _

end Constructors

mutual

/-- Evaluations of every expression are related. -/
theorem eval_related (h : Compatible R s s' deepest) : (e : Expr) → Related R s s' deepest e
  | .literal v => related_literal h v
  | .name n => related_name h n
  | .list items => related_list h (evalItems_related h items)
  | .unary op e => related_unary h op (eval_related h e)
  | .binary op left right => related_binary h op (eval_related h left) (eval_related h right)
  | .logical op left right => related_logical h op (eval_related h left) (eval_related h right)
  | .conditional test yes no =>
    related_conditional h (eval_related h test) (eval_related h yes) (eval_related h no)
  | .member object property => related_member h (eval_related h object) property
  | .index object key => related_index h (eval_related h object) (eval_related h key)
  | .call (.name n) args => related_call_name h n (evalItems_related h args)
  | .call (.member object property) args =>
    related_call_member h (eval_related h object) property (evalItems_related h args)
  | .call (.literal _) args | .call (.list _) args | .call (.unary ..) args
  | .call (.binary ..) args | .call (.logical ..) args | .call (.conditional ..) args
  | .call (.index ..) args | .call (.call ..) args =>
    related_call_other h (by simp) (by simp) (evalItems_related h args)

/-- Evaluations of expressions one after another are related. -/
theorem evalItems_related (h : Compatible R s s' deepest) :
    (items : List Expr) → ItemsRelated R s s' deepest items
  | [] => itemsRelated_nil h
  | e :: rest => itemsRelated_cons h (eval_related h e) (evalItems_related h rest)

end

end Formula

end LiveText
