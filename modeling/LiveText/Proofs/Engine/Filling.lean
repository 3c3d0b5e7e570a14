import LiveText.Engine.Format
import LiveText.Proofs.Text.Occurrence

/-!
# Filling in, apart from its trail

No operation looks at the notices left before it, and each only adds to them: `addsNotices_run`.
The texts of the values therefore depend on the template's bindings and the random draws taken, and
filling in puts them one after another in the places of the tokens: `fill_run`.
-/

namespace LiveText

namespace Traced

variable {α β : Type}

theorem run_pure (a : α) (t : Trail) : (pure a : Traced α).run t = (a, t) := rfl

theorem run_bind (m : Traced α) (f : α → Traced β) (t : Trail) :
    (m >>= f).run t = (f (m.run t).1).run (m.run t).2 := rfl

/-- Whether a step only adds to the notices left before it and depends on none of them. -/
def AddsNotices (m : Traced α) : Prop :=
  ∀ notices draws, m.run ⟨notices, draws⟩ =
    ((m.run ⟨[], draws⟩).1,
      ⟨notices ++ (m.run ⟨[], draws⟩).2.notices, (m.run ⟨[], draws⟩).2.draws⟩)

theorem addsNotices_pure (a : α) : AddsNotices (pure a : Traced α) := by
  intro notices draws
  simp only [run_pure, List.append_nil]

theorem addsNotices_notice (n : Notice) : AddsNotices (notice n) := by
  intro notices draws
  rfl

/-- The count of the draws is no notice. -/
theorem addsNotices_setDraws (n : Nat) :
    AddsNotices (modify ({ · with draws := n }) : Traced Unit) := by
  intro notices draws
  have hrun (t : Trail) :
      (modify ({ · with draws := n }) : Traced Unit).run t = ((), ⟨t.notices, n⟩) := rfl
  rw [hrun, hrun, List.append_nil]

/-- A step may depend on the draws taken before it. -/
theorem addsNotices_get {f : Trail → Traced β} (hf : ∀ t, AddsNotices (f t))
    (hdraws : ∀ t notices, f t = f ⟨notices, t.draws⟩) : AddsNotices (get >>= f) := by
  intro notices draws
  have hget (t : Trail) : (get >>= f : Traced β).run t = (f t).run t := rfl
  rw [hget, hget, hdraws ⟨notices, draws⟩ []]
  exact hf ⟨[], draws⟩ notices draws

/-- One step after another adds what both add. -/
theorem AddsNotices.bind {m : Traced α} {f : α → Traced β} (hm : AddsNotices m)
    (hf : ∀ a, AddsNotices (f a)) : AddsNotices (m >>= f) := by
  intro notices draws
  have hfirst := hm notices draws
  have hsecond := hf (m.run ⟨[], draws⟩).1
  rw [run_bind, run_bind, hfirst, hsecond, hsecond (m.run ⟨[], draws⟩).2.notices]
  simp only [List.append_assoc]

/-- A step for each item in order adds what each of them adds. -/
theorem addsNotices_foldlM {f : β → α → Traced β} (hf : ∀ b a, AddsNotices (f b a))
    (items : List α) (b : β) : AddsNotices (items.foldlM f b) := by
  induction items generalizing b with
  | nil => exact addsNotices_pure b
  | cons a items ih =>
    rw [List.foldlM_cons]
    exact (hf b a).bind ih

end Traced

namespace Pipeline

open Traced

/-- A formula adds at most the notice of its failure. -/
theorem addsNotices_eval (s : Setting) (args : List FormulaArg) (formula : String) (v : Value) :
    AddsNotices (eval s args formula v) := by
  unfold eval
  apply addsNotices_get _ fun t notices => rfl
  intro t
  apply (addsNotices_setDraws _).bind
  intro _
  split
  · exact addsNotices_pure _
  · exact addsNotices_pure _
  · exact addsNotices_pure _
  · exact (addsNotices_notice _).bind fun _ => addsNotices_pure _

theorem addsNotices_dateText (text : Except OutOfRange (List Char)) :
    AddsNotices (dateText text) := by
  cases text with
  | ok text => exact addsNotices_pure _
  | error cause => exact (addsNotices_notice _).bind fun _ => addsNotices_pure _

private theorem addsNotices_momentDate (s : Setting) (arg : String) (v : Value) :
    AddsNotices (momentDate s arg v) := by
  unfold momentDate
  split
  · exact addsNotices_pure _
  · split
    · exact (addsNotices_notice _).bind fun _ => addsNotices_pure v
    · split
      · exact addsNotices_pure _
      · exact addsNotices_dateText _

private theorem addsNotices_follow (path : String) (v : Value) : AddsNotices (follow path v) := by
  unfold follow
  split
  · split
    · exact addsNotices_pure _
    · exact (addsNotices_notice _).bind fun _ => addsNotices_pure _
  · split
    · exact addsNotices_pure _
    · exact (addsNotices_notice _).bind fun _ => addsNotices_pure _
  · exact addsNotices_pure v

private theorem addsNotices_json (path : String) (v : Value) : AddsNotices (json path v) := by
  unfold json
  split
  · split
    · exact addsNotices_follow path _
    · exact (addsNotices_notice _).bind fun _ => addsNotices_pure _
  · exact addsNotices_follow path v

/-- A random number adds no notice. -/
theorem addsNotices_random (s : Setting) (scale : Option Double) (v : Value) :
    AddsNotices (apply s (.random scale) v) := by
  unfold apply
  apply addsNotices_get _ fun t notices => rfl
  intro t
  exact (addsNotices_setDraws _).bind fun _ => addsNotices_pure _

/-- An operation adds to the notices left before it and depends on none of them. -/
theorem addsNotices_apply (s : Setting) (op : Operation) (v : Value) :
    AddsNotices (apply s op v) := by
  cases op with
  | eval args formula =>
    cases formula with
    | none => exact addsNotices_pure _
    | some formula => exact addsNotices_eval s args formula v
  | arithmetic _ operand => cases operand <;> exact addsNotices_pure _
  | round places => cases places <;> exact addsNotices_pure _
  | pow exponent => cases exponent <;> exact addsNotices_pure _
  | min bound => cases bound <;> exact addsNotices_pure _
  | max bound => cases bound <;> exact addsNotices_pure _
  | date pattern => exact addsNotices_dateText _
  | momentDate arg => exact addsNotices_momentDate s arg v
  | random scale => exact addsNotices_random s scale v
  | json path => exact addsNotices_json path v
  | unknown name => exact (addsNotices_notice _).bind fun _ => addsNotices_pure v
  | _ => exact addsNotices_pure _

/-- Operations one after another add to the notices left before them and depend on none. -/
theorem addsNotices_run (s : Setting) (ops : List Operation) (v : Value) :
    AddsNotices (run s ops v) :=
  addsNotices_foldlM (fun v op => addsNotices_apply s op v) ops v

end Pipeline

namespace Engine

open Traced Text

/-- An engine with the default settings but a limit of its own on tokens. -/
def plain (limit : Nat) : Engine :=
  { settings := { maxBindings := limit }, zone := .fixed .zero, parse := Binding.parse limit
    draw := fun _ => 0 }

/-- The texts of the values that bindings show, in order, with the random draws that follow the
first `draws`. -/
def texts (e : Engine) (states : States) (r : Request) : List Binding → Nat → List (List Char)
  | [], _ => []
  | b :: bs, draws =>
    let shown := (e.shown states r b).run { draws }
    shown.1.displayChars :: texts e states r bs shown.2.draws

theorem length_texts (e : Engine) (states : States) (r : Request) (bs : List Binding)
    (draws : Nat) : (e.texts states r bs draws).length = bs.length := by
  induction bs generalizing draws with
  | nil => rfl
  | cons b bs ih => exact congrArg (· + 1) (ih _)

/-- The texts of the first bindings are the first texts. -/
theorem texts_take (e : Engine) (states : States) (r : Request) (bs : List Binding)
    (draws k : Nat) :
    e.texts states r (bs.take k) draws = (e.texts states r bs draws).take k := by
  induction bs generalizing draws k with
  | nil => simp [texts]
  | cons b bs ih =>
    cases k with
    | zero => rfl
    | succ k => exact congrArg (_ :: ·) (ih _ k)

private theorem addsNotices_shown (e : Engine) (states : States) (r : Request) (b : Binding) :
    AddsNotices (e.shown states r b) :=
  Pipeline.addsNotices_run _ b.operations _

/-- The bindings replace their tokens by their texts one after another. -/
theorem foldlM_substitute_run (e : Engine) (states : States) (r : Request) (bs : List Binding)
    (text : List Char) (notices : List Notice) (draws : Nat) :
    ((bs.foldlM (substitute e states r) text).run ⟨notices, draws⟩).1 =
      replaceEach ((bs.map fun b => b.token.toList).zip (e.texts states r bs draws)) text := by
  induction bs generalizing text notices draws with
  | nil => rfl
  | cons b bs ih =>
    have hshown := addsNotices_shown e states r b notices draws
    have hstep : (substitute e states r text b).run ⟨notices, draws⟩ =
        (replaceFirst b.token.toList ((e.shown states r b).run { draws }).1.displayChars text,
          ((e.shown states r b).run ⟨notices, draws⟩).2) := by
      rw [substitute, run_bind, run_pure, hshown]
    rw [List.foldlM_cons, run_bind, hstep, hshown, ih]
    rfl

/-- The text of a template is that of its tokens replaced by the texts of their bindings, with
literal braces written once. -/
theorem fill_run (e : Engine) (states : States) (r : Request) (template : String)
    (bs : List Binding) (notices : List Notice) (draws : Nat) :
    ((e.fill states r template bs).run ⟨notices, draws⟩).1 =
      String.ofList (Template.unescapeChars (replaceEach
        ((bs.map fun b => b.token.toList).zip (e.texts states r bs draws)) template.toList)) := by
  rw [fill, run_bind, run_pure, foldlM_substitute_run]

end Engine

end LiveText
