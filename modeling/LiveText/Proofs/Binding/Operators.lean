import LiveText.Binding.Parser

/-!
# The table of operators

Each operator has a rule for its argument: a number, which may have to be given, a text, items
between commas, or nothing. `operators` lists the names with their rules. The rule of its name is
what a part is read by, and a part with a name that is not listed is unknown: `operationOf_eq`.
-/

namespace LiveText

namespace Operation

/-- Whether an operation is a formula. -/
def isEval : Operation → Bool
  | eval .. => true
  | _ => false

/-- Whether the number of an operation is a number where one is given, and given where it must
be. -/
def NumberGiven : Operation → Prop
  | arithmetic _ x | min x | max x => ∃ y, x = some y ∧ y.isNaN = false
  | round x | pow x | random x => ∀ y, x = some y → y.isNaN = false
  | _ => True

/-- Whether an operation is what an operator of the table can make: no formula, with its number, and
no unknown one. -/
def FromTable (op : Operation) : Prop :=
  op.isEval = false ∧ op.NumberGiven ∧ ∀ name, op ≠ unknown name

end Operation

namespace Binding

open Text

/-- What an operator makes of its argument. -/
inductive ArgumentRule where
  /-- A number, which may have to be given. -/
  | number (needed : Bool) (make : Option Double → Operation)
  /-- A text, with one that stands for a missing argument. -/
  | text (default : List Char) (make : String → Operation)
  /-- The items between commas. -/
  | items
  /-- Nothing. -/
  | unused (op : Operation)

/-- The operators with their rules. -/
def operators : List (String × ArgumentRule) :=
  [("*", .number true (.arithmetic .multiply)),
   ("/", .number true (.arithmetic .divide)),
   ("+", .number true (.arithmetic .add)),
   ("-", .number true (.arithmetic .subtract)),
   ("%", .number true (.arithmetic .remainder)),
   ("min", .number true .min),
   ("max", .number true .max),
   ("round", .number false .round),
   ("pow", .number false .pow),
   ("random", .number false .random),
   ("date", .text [] .date),
   ("momentDate", .text [] .momentDate),
   ("json", .text [] .json),
   ("value", .text ['2'] .value),
   ("array", .items),
   ("sqrt", .unused .sqrt),
   ("hex", .unused (.hex false false)),
   ("HEX", .unused (.hex true false)),
   ("hex2", .unused (.hex false true)),
   ("HEX2", .unused (.hex true true)),
   ("floor", .unused .floor),
   ("ceil", .unused .ceil)]

/-- The names of the operators. -/
def operatorNames : List String := operators.map Prod.fst

namespace ArgumentRule

/-- Whether a rule takes a number. -/
def isNumeric : ArgumentRule → Bool
  | number .. => true
  | _ => false

/-- The operation with a given argument. -/
def operation (arg : List Char) : ArgumentRule → Operation
  | number _ make => make (some (argumentNumber arg))
  | text _ make => make (String.ofList arg)
  | items => .array ((arg.splitOn ',').map fun item => String.ofList (trim item))
  | unused op => op

/-- Whether a given argument is refused: a number is taken, and it spells none. -/
def refuses (arg : List Char) (rule : ArgumentRule) : Bool :=
  rule.isNumeric && (argumentNumber arg).isNaN

/-- The operation without an argument, if one is made. -/
def missing? : ArgumentRule → Option Operation
  | number true _ => none
  | number false make => some (make none)
  | text default make => some (make (String.ofList default))
  | items => some (.array [])
  | unused op => some op

/-- What is read under a name with a rule. -/
def read (name : String) (rule : ArgumentRule) : Option (List Char) → Reading
  | some arg =>
    if rule.refuses arg then (none, [.argumentRefused name (String.ofList arg)])
    else (some (rule.operation arg), [])
  | none =>
    match rule.missing? with
    | some op => (some op, [])
    | none => (none, [.argumentMissing name])

end ArgumentRule

private theorem required_eq (name : List Char) (make : Option Double → Operation)
    (arg : Option (List Char)) :
    required name make arg = (ArgumentRule.number true make).read (String.ofList name) arg := by
  cases arg <;> rfl

private theorem optional_eq (name : List Char) (make : Option Double → Operation)
    (arg : Option (List Char)) :
    optional name make arg = (ArgumentRule.number false make).read (String.ofList name) arg := by
  cases arg <;> rfl

/-- A part is read by the rule of its name, and is unknown if the table does not have the name. -/
theorem operationOf_eq (name : List Char) (arg : Option (List Char)) :
    operationOf name arg =
      match operators.lookup (String.ofList name) with
      | some rule => rule.read (String.ofList name) arg
      | none => (some (.unknown (String.ofList name)), []) := by
  unfold operationOf
  split
  case h_23 =>
    have hnone : operators.lookup (String.ofList name) = none := by
      simp only [List.lookup_eq_none_iff, operators, List.forall_mem_cons, bne_iff_ne,
        List.not_mem_nil, false_implies, implies_true, and_true]
      and_intros <;> assumption
    rw [hnone]
  all_goals
    rename_i hname
    simp only [required_eq, optional_eq, hname]
    cases arg <;> rfl

/-! ### What the table makes -/

/-- Whether all that is read by a rule is from the table. -/
def ArgumentRule.Sound (rule : ArgumentRule) : Prop :=
  ∀ name arg op, (rule.read name arg).1 = some op → op.FromTable

/-- A rule is sound if what it makes of arguments that are not refused is from the table, and what
it makes without one. -/
theorem ArgumentRule.Sound.intro {rule : ArgumentRule}
    (hgiven : ∀ arg, rule.refuses arg = false → (rule.operation arg).FromTable)
    (hmissing : ∀ op, rule.missing? = some op → op.FromTable) : rule.Sound := by
  intro name arg op h
  cases arg with
  | some arg =>
    rw [read] at h
    split at h
    · cases h
    · rename_i hrefuses
      cases h
      exact hgiven arg (Bool.eq_false_iff.mpr hrefuses)
  | none =>
    rw [read] at h
    split at h
    · rename_i op' hop
      cases h
      exact hmissing op hop
    · cases h

private theorem refuses_number (needed : Bool) (make : Option Double → Operation)
    (arg : List Char) :
    (ArgumentRule.number needed make).refuses arg = (argumentNumber arg).isNaN := by
  rw [ArgumentRule.refuses, ArgumentRule.isNumeric, Bool.true_and]

private theorem sound_needed {make : Option Double → Operation}
    (h : ∀ y, y.isNaN = false → (make (some y)).FromTable) :
    (ArgumentRule.number true make).Sound := by
  refine .intro (fun arg hnumber => ?_) (fun op hop => ?_)
  · rw [refuses_number] at hnumber
    exact h _ hnumber
  · cases hop

private theorem sound_unneeded {make : Option Double → Operation}
    (h : ∀ x, (∀ y, x = some y → y.isNaN = false) → (make x).FromTable) :
    (ArgumentRule.number false make).Sound := by
  refine .intro (fun arg hnumber => ?_) (fun op hop => ?_)
  · rw [refuses_number] at hnumber
    exact h _ fun y hy => Option.some.inj hy ▸ hnumber
  · cases hop
    exact h none fun y hy => nomatch hy

private theorem sound_text {default : List Char} {make : String → Operation}
    (h : ∀ text, (make text).FromTable) : (ArgumentRule.text default make).Sound := by
  refine .intro (fun _ _ => h _) (fun op hop => ?_)
  cases hop
  exact h _

private theorem sound_items : ArgumentRule.items.Sound := by
  refine .intro (fun _ _ => ⟨rfl, trivial, nofun⟩) (fun op hop => ?_)
  cases hop
  exact ⟨rfl, trivial, nofun⟩

private theorem sound_unused {op : Operation} (h : op.FromTable) :
    (ArgumentRule.unused op).Sound := by
  refine .intro (fun _ _ => h) (fun op' hop => ?_)
  cases hop
  exact h

/-- Every rule of the table is sound. -/
theorem operators_sound : ∀ entry ∈ operators, entry.2.Sound := by
  simp only [operators, List.forall_mem_cons]
  -- in the order of the table: needed numbers, optional ones, texts, items, nothing
  iterate 7 refine ⟨sound_needed fun y hy => ⟨rfl, ⟨y, rfl, hy⟩, nofun⟩, ?_⟩
  iterate 3 refine ⟨sound_unneeded fun x hx => ⟨rfl, hx, nofun⟩, ?_⟩
  iterate 4 refine ⟨sound_text fun _ => ⟨rfl, trivial, nofun⟩, ?_⟩
  refine ⟨sound_items, ?_⟩
  iterate 7 refine ⟨sound_unused ⟨rfl, trivial, nofun⟩, ?_⟩
  exact List.forall_mem_nil _

/-- The names of the table are not empty, and consist of characters of operators that are no blanks
and separate nothing. -/
theorem operatorNames_plain : ∀ name ∈ operatorNames, name ≠ "" ∧ ∀ c ∈ name.toList,
    isOperatorChar c = true ∧ isBlank c = false ∧ c ≠ ';' ∧ c ≠ '}' := by
  have hall : (operatorNames.all fun name => name != "" && name.toList.all fun c =>
      isOperatorChar c && !isBlank c && c != ';' && c != '}') = true := by
    decide
  intro name hname
  have hentry := List.all_eq_true.mp hall name hname
  simp only [Bool.and_eq_true, bne_iff_ne, List.all_eq_true, Bool.not_eq_true'] at hentry
  refine ⟨hentry.1, fun c hc => ?_⟩
  obtain ⟨⟨⟨hoperator, hblank⟩, hsemicolon⟩, hclose⟩ := hentry.2 c hc
  exact ⟨hoperator, hblank, hsemicolon, hclose⟩

theorem mem_operators_of_lookup {name : String} {rule : ArgumentRule}
    (h : operators.lookup name = some rule) : (name, rule) ∈ operators := by
  obtain ⟨before, after, heq, -⟩ := List.lookup_eq_some_iff.mp h
  rw [heq]
  exact List.mem_append_right _ (List.mem_cons_self ..)

private theorem lookup_operators_eq_none_iff {name : String} :
    operators.lookup name = none ↔ name ∉ operatorNames := by
  simp only [operatorNames, List.lookup_eq_none_iff, List.mem_map, not_exists, not_and, bne_iff_ne]
  exact forall₂_congr fun entry _ => ne_comm

/-- What a part spells is from the table or unknown, under a name that the table does not have. -/
theorem fromTable_readOperation {part : List Char} {op : Operation}
    (h : (readOperation part).1 = some op) :
    op.FromTable ∨ ∃ name, op = .unknown name ∧ name ∉ operatorNames := by
  simp only [readOperation] at h
  split at h
  · -- a name of the table would begin the part
    rename_i hempty
    cases h
    refine Or.inr ⟨_, rfl, fun hmem => ?_⟩
    obtain ⟨hne, hplain⟩ := operatorNames_plain _ hmem
    rw [String.toList_ofList] at hplain
    cases part with
    | nil => exact hne rfl
    | cons c rest =>
      have hc := (hplain c (List.mem_cons_self ..)).1
      simp [hc] at hempty
  · rw [operationOf_eq] at h
    split at h
    · rename_i rule hrule
      exact Or.inl (operators_sound _ (mem_operators_of_lookup hrule) _ _ _ h)
    · rename_i hnone
      cases h
      exact Or.inr ⟨_, rfl, lookup_operators_eq_none_iff.mp hnone⟩

end Binding

end LiveText
