import Mathlib
import LiveText.Binding.Document
import LiveText.Proofs.Json.Writing
import LiveText.Proofs.Value.Members

/-!
# Documents of bindings are read back

Reading finds the members of a document by name, so that it does not matter in which order they
stand: `member?_inOrder`. From this every kind of document of bindings is read back, up to numbers
that JSON lacks, and so are both of its texts (`texts_read_back`). The tag of an operation says
which of the kinds it is (`tag_eq_iff`).
-/

namespace LiveText

/-! ## Members -/

namespace Json

private theorem lookup_map {α β : Type} (f : α → β) (entries : List (String × α)) (key : String) :
    (entries.map fun m => (m.1, f m.2)).lookup key = (entries.lookup key).map f := by
  induction entries with
  | nil => rfl
  | cons m rest ih =>
    rw [List.map_cons, List.lookup_cons, List.lookup_cons, ih]
    split <;> rfl

/-- Where no key is written twice, a member is found after the members are put in order. -/
theorem member?_inOrder {members : List (String × Json)} (h : (members.map Prod.fst).Nodup)
    (key : String) : (object members).inOrder.member? key = (members.lookup key).map inOrder := by
  have hkeys : ((members.map fun m => (m.1, m.2.inOrder)).map Prod.fst).Nodup := by
    rw [List.map_map]
    exact h
  rw [inOrder, membersInOrder_eq_map, ← lookup_map]
  exact Members.get?_ofList_of_nodup hkeys key

private theorem inOrder_array (items : List Json) :
    (array items).inOrder = array (items.map inOrder) := by
  rw [inOrder, itemsInOrder_eq_map]

end Json

/-- A list of which every item is read gives the list of what is read. -/
theorem mapM_map_eq_some {α β γ : Type} {write : α → β} {read : β → Option γ} {expected : α → γ}
    {items : List α} (h : ∀ item ∈ items, read (write item) = some (expected item)) :
    (items.map write).mapM read = some (items.map expected) := by
  induction items with
  | nil => rfl
  | cons item rest ih =>
    have hrest := ih fun other hother => h other (List.mem_cons_of_mem item hother)
    rw [List.map_cons, List.mapM_cons, h item (List.mem_cons_self ..), hrest]
    rfl

namespace FormulaArg

/-- The document of an argument is read back. -/
theorem ofJson?_inOrder (a : FormulaArg) : ofJson? a.toJson.inOrder = some a := by
  have hkeys : ([("name", Json.string a.name), ("state_ref", .string a.state),
      ("system_ref", .string a.system)].map Prod.fst).Nodup := by
    simp
  have hname : a.toJson.inOrder.member? "name" = some (.string a.name) :=
    Json.member?_inOrder hkeys "name"
  have hstate : a.toJson.inOrder.member? "state_ref" = some (.string a.state) :=
    Json.member?_inOrder hkeys "state_ref"
  have hsystem : a.toJson.inOrder.member? "system_ref" = some (.string a.system) :=
    Json.member?_inOrder hkeys "system_ref"
  rw [ofJson?, hname, hstate, hsystem]
  rfl

end FormulaArg

namespace Operation

/-- The operation without a number that JSON lacks. -/
def written : Operation → Operation
  | arithmetic op x => arithmetic op (x.filter Double.isFinite)
  | round x => round (x.filter Double.isFinite)
  | pow x => pow (x.filter Double.isFinite)
  | min x => min (x.filter Double.isFinite)
  | max x => max (x.filter Double.isFinite)
  | random x => random (x.filter Double.isFinite)
  | op => op

private theorem readNumber?_numberJson (x : Option Double) :
    readNumber? (some (numberJson x).inOrder) = some (x.filter Double.isFinite) := by
  cases x with
  | none => rfl
  | some x =>
    have hjson : numberJson (some x) = if x.isFinite then .real x else .null := rfl
    rw [hjson, Option.filter_some]
    split_ifs <;> rfl

private theorem readTexts?_array (items : List String) :
    readTexts? (some (Json.array (items.map Json.string)).inOrder) = some items := by
  rw [Json.inOrder_array, List.map_map]
  have hread : (items.map (Json.inOrder ∘ Json.string)).mapM Json.string? = some (items.map id) :=
    mapM_map_eq_some fun _ _ => rfl
  rw [List.map_id] at hread
  exact hread

private theorem readEval?_inOrder (args : List FormulaArg) (formula : Option String) :
    readEval? ((eval args formula).argJson?.map Json.inOrder) = some (eval args formula) := by
  have hkeys : ([("args", Json.array (args.map FormulaArg.toJson)),
      ("formula", (formula.map Json.string).getD .null)].map Prod.fst).Nodup := by
    simp
  have hargs : ((eval args formula).argJson?.map Json.inOrder).bind (Json.member? "args") =
      some (.array ((args.map FormulaArg.toJson).map Json.inOrder)) := by
    rw [← Json.inOrder_array]
    exact Json.member?_inOrder hkeys "args"
  have hformula : ((eval args formula).argJson?.map Json.inOrder).bind (Json.member? "formula") =
      some ((formula.map Json.string).getD .null).inOrder := Json.member?_inOrder hkeys "formula"
  have hreadArgs : (args.map (Json.inOrder ∘ FormulaArg.toJson)).mapM FormulaArg.ofJson? =
      some (args.map id) := mapM_map_eq_some fun a _ => a.ofJson?_inOrder
  have hreadFormula : readOptionalText? (some ((formula.map Json.string).getD .null).inOrder) =
      some formula := by
    cases formula <;> rfl
  rw [List.map_id, ← List.map_map] at hreadArgs
  rw [argJson?, Option.map_some, Option.bind_some] at hargs hformula
  rw [argJson?, Option.map_some, readEval?]
  simp only [Option.bind_eq_bind, Option.bind_some, hargs, hformula, hreadArgs, hreadFormula]
  rfl

/-- The tag and the argument of an operation give it back. -/
theorem ofTag?_tag (op : Operation) :
    ofTag? op.tag (op.argJson?.map Json.inOrder) = some op.written := by
  cases op with
  | eval args formula => exact readEval?_inOrder args formula
  | arithmetic op x => cases op <;> exact congrArg (Option.map _) (readNumber?_numberJson x)
  | hex upper padded => cases upper <;> cases padded <;> rfl
  | array items => exact congrArg (Option.map _) (readTexts?_array items)
  | round x | pow x | min x | max x | random x =>
    exact congrArg (Option.map _) (readNumber?_numberJson x)
  | value s | date s | momentDate s | json s | unknown s => rfl
  | sqrt | floor | ceil => rfl

/-- The document of an operation is read back, less a number that JSON lacks. -/
theorem ofJson?_inOrder (op : Operation) : ofJson? op.toJson.inOrder = some op.written := by
  have hkeys : ((("op", Json.string op.tag) ::
      (op.argJson?.map fun arg => ("arg", arg)).toList).map Prod.fst).Nodup := by
    cases op.argJson? <;> simp
  have htag : op.toJson.inOrder.member? "op" = some (.string op.tag) :=
    Json.member?_inOrder hkeys "op"
  have harg : op.toJson.inOrder.member? "arg" = op.argJson?.map Json.inOrder := by
    rw [toJson, Json.member?_inOrder hkeys]
    cases op.argJson? <;> rfl
  rw [ofJson?, htag, harg]
  exact op.ofTag?_tag

end Operation

namespace Binding

/-- The binding without numbers that JSON lacks. -/
def written (b : Binding) : Binding := { b with operations := b.operations.map Operation.written }

/-- The document of a binding is read back, less the numbers that JSON lacks. -/
theorem ofJson?_inOrder (b : Binding) : ofJson? b.toJson.inOrder = some b.written := by
  have hkeys : ([("state_ref", Json.string b.state), ("system_ref", .string b.system),
      ("token", .string b.token), ("operations", .array (b.operations.map Operation.toJson)),
      ("format", .string b.template), ("is_seconds", .bool b.isSeconds)].map Prod.fst).Nodup := by
    simp
  have hstate : b.toJson.inOrder.member? "state_ref" = some (.string b.state) :=
    Json.member?_inOrder hkeys "state_ref"
  have hsystem : b.toJson.inOrder.member? "system_ref" = some (.string b.system) :=
    Json.member?_inOrder hkeys "system_ref"
  have htoken : b.toJson.inOrder.member? "token" = some (.string b.token) :=
    Json.member?_inOrder hkeys "token"
  have hoperations : b.toJson.inOrder.member? "operations" =
      some (Json.array (b.operations.map Operation.toJson)).inOrder :=
    Json.member?_inOrder hkeys "operations"
  have htemplate : b.toJson.inOrder.member? "format" = some (.string b.template) :=
    Json.member?_inOrder hkeys "format"
  have hseconds : b.toJson.inOrder.member? "is_seconds" = some (.bool b.isSeconds) :=
    Json.member?_inOrder hkeys "is_seconds"
  have hread : (b.operations.map (Json.inOrder ∘ Operation.toJson)).mapM Operation.ofJson? =
      some (b.operations.map Operation.written) := mapM_map_eq_some fun op _ => op.ofJson?_inOrder
  rw [← List.map_map] at hread
  rw [ofJson?, hstate, hsystem, htoken, hoperations, htemplate, hseconds, Json.inOrder_array]
  change (List.mapM Operation.ofJson? _).bind _ = _
  rw [hread]
  rfl

/-- The document of a list of bindings is read back, less the numbers that JSON lacks. -/
theorem ofListJson?_inOrder (bs : List Binding) :
    ofListJson? (listJson bs).inOrder = some (bs.map written) := by
  have hread : (bs.map (Json.inOrder ∘ toJson)).mapM ofJson? = some (bs.map written) :=
    mapM_map_eq_some fun b _ => b.ofJson?_inOrder
  rw [← List.map_map] at hread
  rw [listJson, Json.inOrder_array]
  exact hread

end Binding

/-! ## Texts -/

theorem FormulaArg.faithful_toJson (a : FormulaArg) (depth : Nat) :
    Json.Faithful (depth + 1) a.toJson :=
  List.forall_mem_cons.mpr ⟨Json.faithful_string depth _, List.forall_mem_cons.mpr
    ⟨Json.faithful_string depth _, List.forall_mem_singleton.mpr (Json.faithful_string depth _)⟩⟩

namespace Operation

/-- The number that an operation takes, if it takes one and has one. -/
def operand? : Operation → Option Double
  | arithmetic _ x | round x | pow x | min x | max x | random x => x
  | _ => none

/-- The number of an operation, if it is finite, is read back from its JSON text. -/
def ReadsBack (op : Operation) : Prop :=
  ∀ x, op.operand? = some x → x.isFinite = true →
    Json.read (Json.real x).compact = some (.real x)

private theorem faithful_numberJson {x : Option Double} (depth : Nat)
    (h : ∀ y, x = some y → y.isFinite = true → Json.read (Json.real y).compact = some (.real y)) :
    Json.Faithful depth (numberJson x) := by
  cases x with
  | none => exact Json.faithful_null depth
  | some y => exact Json.faithful_ofDouble (h y rfl) depth

private theorem faithful_argJson? {op : Operation} (h : op.ReadsBack) (depth : Nat) :
    ∀ arg ∈ op.argJson?, Json.Faithful (depth + 3) arg := by
  intro arg harg
  cases op with
  | eval args formula =>
    cases harg
    refine List.forall_mem_cons.mpr ⟨?_, List.forall_mem_singleton.mpr ?_⟩
    · exact List.forall_mem_map.mpr fun a _ => a.faithful_toJson depth
    · cases formula with
      | none => exact Json.faithful_null _
      | some text => exact Json.faithful_string _ text
  | arithmetic op x => cases harg; exact faithful_numberJson _ h
  | round x => cases harg; exact faithful_numberJson _ h
  | pow x => cases harg; exact faithful_numberJson _ h
  | min x => cases harg; exact faithful_numberJson _ h
  | max x => cases harg; exact faithful_numberJson _ h
  | random x => cases harg; exact faithful_numberJson _ h
  | array items =>
    cases harg
    exact List.forall_mem_map.mpr fun item _ => Json.faithful_string _ item
  | value s => cases harg; exact Json.faithful_string _ s
  | date s => cases harg; exact Json.faithful_string _ s
  | momentDate s => cases harg; exact Json.faithful_string _ s
  | json s => cases harg; exact Json.faithful_string _ s
  | unknown s => cases harg; exact Json.faithful_string _ s
  | sqrt | hex | floor | ceil => cases harg

theorem faithful_toJson {op : Operation} (h : op.ReadsBack) (depth : Nat) :
    Json.Faithful (depth + 4) op.toJson := by
  refine List.forall_mem_cons.mpr ⟨Json.faithful_string _ _, fun m hm => ?_⟩
  obtain ⟨arg, harg, rfl⟩ := Option.map_eq_some_iff.mp (Option.mem_toList.mp hm)
  exact faithful_argJson? h depth arg harg

end Operation

namespace Binding

theorem faithful_toJson {b : Binding} (h : ∀ op ∈ b.operations, op.ReadsBack) (depth : Nat) :
    Json.Faithful (depth + 6) b.toJson := by
  have hoperations : Json.Faithful (depth + 5) (.array (b.operations.map Operation.toJson)) :=
    List.forall_mem_map.mpr fun op hop => Operation.faithful_toJson (h op hop) depth
  exact List.forall_mem_cons.mpr ⟨Json.faithful_string _ _, List.forall_mem_cons.mpr
    ⟨Json.faithful_string _ _, List.forall_mem_cons.mpr ⟨Json.faithful_string _ _,
      List.forall_mem_cons.mpr ⟨hoperations, List.forall_mem_cons.mpr ⟨Json.faithful_string _ _,
        List.forall_mem_singleton.mpr (Json.faithful_bool _ _)⟩⟩⟩⟩⟩

private theorem faithful_listJson {bs : List Binding}
    (h : ∀ b ∈ bs, ∀ op ∈ b.operations, op.ReadsBack)
    (depth : Nat) : Json.Faithful (depth + 7) (listJson bs) :=
  List.forall_mem_map.mpr fun b hb => faithful_toJson (h b hb) depth

end Binding

/-! ## Tags -/

namespace Operation

/-- The kind of an operation: the operation with an empty argument in place of its own. -/
def bare : Operation → Operation
  | eval _ _ => eval [] none
  | arithmetic op _ => arithmetic op none
  | round _ => round none
  | pow _ => pow none
  | min _ => min none
  | max _ => max none
  | random _ => random none
  | value _ => value ""
  | array _ => array []
  | date _ => date ""
  | momentDate _ => momentDate ""
  | json _ => json ""
  | unknown _ => unknown ""
  | op => op

/-- All kinds of operations. -/
def kinds : List Operation :=
  [eval [] none, arithmetic .multiply none, arithmetic .divide none, arithmetic .add none,
    arithmetic .subtract none, arithmetic .remainder none, round none, pow none, sqrt,
    hex false false, hex true false, hex false true, hex true true, value "", array [], date "",
    momentDate "", min none, max none, random none, floor, ceil, json "", unknown ""]

private theorem bare_mem_kinds (op : Operation) : op.bare ∈ kinds := by
  cases op with
  | arithmetic op x => cases op <;> simp [bare, kinds]
  | hex upper padded => cases upper <;> cases padded <;> simp [bare, kinds]
  | _ => simp [bare, kinds]

private theorem tag_bare (op : Operation) : op.bare.tag = op.tag := by
  cases op <;> rfl

private theorem nodup_tags : (kinds.map tag).Nodup := by decide

/-- Operations have the same tag exactly if they are of the same kind. -/
theorem tag_eq_iff (p q : Operation) : p.tag = q.tag ↔ p.bare = q.bare := by
  constructor
  · intro h
    rw [← p.tag_bare, ← q.tag_bare] at h
    exact List.inj_on_of_nodup_map nodup_tags p.bare_mem_kinds q.bare_mem_kinds h
  · intro h
    rw [← p.tag_bare, h, q.tag_bare]

private theorem tag_of_map {α : Type} {make : α → Operation} {tag : String} {o : Option α}
    {op : Operation} (hop : o.map make = some op) (h : ∀ x, (make x).tag = tag) : op.tag = tag := by
  obtain ⟨x, -, rfl⟩ := Option.map_eq_some_iff.mp hop
  exact h x

private theorem eq_of_readNothing? {arg : Option Json} {op p : Operation}
    (h : readNothing? p arg = some op) : op = p := by
  unfold readNothing? at h
  split at h
  · exact (Option.some.inj h).symm
  · exact (Option.some.inj h).symm
  · cases h

private theorem tag_of_readEval? {arg : Option Json} {op : Operation}
    (h : readEval? arg = some op) :
    op.tag = "eval" := by
  obtain ⟨j, -, h⟩ := Option.bind_eq_some_iff.mp h
  split at h
  · obtain ⟨args, -, h⟩ := Option.bind_eq_some_iff.mp h
    obtain ⟨j', -, h⟩ := Option.bind_eq_some_iff.mp h
    obtain ⟨formula, -, h⟩ := Option.bind_eq_some_iff.mp h
    cases h
    rfl
  · cases h

/-- What is read under a tag has that tag. -/
theorem tag_of_ofTag? {tag : String} {arg : Option Json} {op : Operation}
    (h : ofTag? tag arg = some op) : op.tag = tag := by
  unfold ofTag? at h
  split at h
  case h_1 => exact tag_of_readEval? h
  case h_18 | h_19 | h_20 | h_21 | h_22 | h_23 | h_24 => rw [eq_of_readNothing? h]; rfl
  case h_25 => cases h
  all_goals exact tag_of_map h fun _ => rfl

end Operation

/-! ## All bindings -/

/-- Both texts of the document of bindings are read as the bindings, less the numbers that JSON
lacks, where the other numbers are read back. Two operations have the same tag exactly if they are
of the same kind, and what is read under a tag is of its kind. -/
theorem Binding.texts_read_back (bs : List Binding)
    (h : ∀ b ∈ bs, ∀ op ∈ b.operations, op.ReadsBack) :
    (Json.read (listJson bs).compact).bind ofListJson? = some (bs.map written) ∧
    (Json.read (listJson bs).pretty).bind ofListJson? = some (bs.map written) ∧
    (∀ p q : Operation, p.tag = q.tag ↔ p.bare = q.bare) ∧
    ∀ (p q : Operation) (arg : Option Json),
      Operation.ofTag? p.tag arg = some q → q.bare = p.bare := by
  have hfaithful : Json.Faithful Json.maxNesting (listJson bs) := faithful_listJson h 120
  refine ⟨?_, ?_, Operation.tag_eq_iff, fun p q arg hread => ?_⟩
  · rw [Json.read_compact hfaithful, Option.bind_some, ofListJson?_inOrder]
  · rw [Json.read_pretty hfaithful, Option.bind_some, ofListJson?_inOrder]
  · exact (q.tag_eq_iff p).mp (Operation.tag_of_ofTag? hread)

/-- Bindings of which one has a number that is not finite, and kinds that differ in letter case. -/
def sampleBindings : List Binding :=
  [{ state := "hall.temp.val", system := "hall.temp", token := "\x7bhall.temp;*(0.5)\x7d",
     operations := [.arithmetic .multiply (some (Double.ofDecimal false 5 (-1))),
       .min (some (.infinity true)), .hex true false, .unknown "hex"],
     template := "\x7bhall.temp\x7d", isSeconds := false },
   { state := "a", system := "a", token := "", operations :=
       [.eval [⟨"h", "hall.height", "hall.height"⟩] none, .array ["on", "off"]],
     template := "", isSeconds := true }]

theorem Binding.texts_read_back_sample :
    (∀ b ∈ sampleBindings, ∀ op ∈ b.operations, op.ReadsBack) ∧
    (Json.read (listJson sampleBindings).pretty).bind ofListJson? =
      some (sampleBindings.map written) := by
  have hhalf : ((Json.read (Json.real (Double.ofDecimal false 5 (-1))).compact).bind Json.real?) =
      some (Double.ofDecimal false 5 (-1)) := by decide +kernel
  have hmultiply :
      (Operation.arithmetic .multiply (some (Double.ofDecimal false 5 (-1)))).ReadsBack := by
    rintro x hx -
    rw [← Option.some.inj hx]
    exact Json.eq_real_of_real? hhalf
  have hmin : (Operation.min (some (.infinity true))).ReadsBack := by
    rintro x hx hfinite
    rw [← Option.some.inj hx] at hfinite
    cases hfinite
  have hnone : ∀ {op : Operation}, op.operand? = none → op.ReadsBack := fun hnone x hx => by
    rw [hnone] at hx
    cases hx
  have hreads : ∀ b ∈ sampleBindings, ∀ op ∈ b.operations, op.ReadsBack := by
    simp only [sampleBindings, List.forall_mem_cons, List.not_mem_nil, false_imp_iff, implies_true,
      and_true]
    exact ⟨⟨hmultiply, hmin, hnone rfl, hnone rfl⟩, hnone rfl, hnone rfl⟩
  exact ⟨hreads, (texts_read_back sampleBindings hreads).2.1⟩

end LiveText
