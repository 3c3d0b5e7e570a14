import LiveText.Proofs.Session.Cache

/-!
# What a template reads

The bindings of a template and the arguments of their formulas refer to states. Looking a reference
up depends on no live state if it is reserved or the request has a value for it, and otherwise on
the entries under its name and its bare name. Filling in a template depends on no other entry:
`format_reads_only_named`.
-/

namespace LiveText

/-- Whether two sources of states have the same entries under given names. -/
def AgreeOn (names : List String) (a b : States) : Prop := ∀ name ∈ names, a.get? name = b.get? name

theorem agreeOn_append {xs ys : List String} {a b : States} :
    AgreeOn (xs ++ ys) a b ↔ AgreeOn xs a b ∧ AgreeOn ys a b := by
  simp only [AgreeOn, List.mem_append, or_imp, forall_and]

/-- Sources that agree on the names of all items agree on those of each. -/
private theorem AgreeOn.of_mem {α : Type} {f : α → List String} {items : List α} {a b : States}
    (h : AgreeOn (items.flatMap f) a b) {item : α} (hitem : item ∈ items) : AgreeOn (f item) a b :=
  fun name hname => h name (List.mem_flatMap.mpr ⟨item, hitem, hname⟩)

namespace Engine

/-- The entries of live states that a reference may be looked up under. -/
def entriesRead (r : Request) (state : String) : List String :=
  if (Reserved.ofState? state).isSome || (find? r.values state).isSome then []
  else state :: (bareName? state).toList

private theorem find?_congr {state : String} {a b : States}
    (h : AgreeOn (state :: (bareName? state).toList) a b) : find? a state = find? b state := by
  have hfull : a.get? state = b.get? state := h state (List.mem_cons_self ..)
  have hbare : (bareName? state).bind a.get? = (bareName? state).bind b.get? := by
    cases hname : bareName? state with
    | none => rfl
    | some name => exact h name (by simp [hname])
  rw [find?, find?, hfull, hbare]

/-- Looking a reference up depends on its entries alone. -/
theorem lookup_congr (e : Engine) (r : Request) {state : String} {a b : States}
    (h : AgreeOn (entriesRead r state) a b) : e.lookup a r state = e.lookup b r state := by
  unfold lookup
  cases hreserved : Reserved.ofState? state with
  | some reserved => rfl
  | none =>
    cases hvalue : find? r.values state with
    | some v => rfl
    | none =>
      have hentries : entriesRead r state = state :: (bareName? state).toList := by
        simp [entriesRead, hreserved, hvalue]
      rw [hentries] at h
      simp only [find?_congr h]

end Engine

namespace Pipeline

open Engine

/-- The reference that an argument of a formula stands for; none if it is relative to the widget's
object and there is no such object. -/
def argumentReference? (r : Request) (state : String) : Option String :=
  match widgetObject.isPrefixOf? state.toList with
  | none => some state
  | some channel => (objectId? r).map fun oid => oid ++ "." ++ String.ofList channel

/-- The references of an operation. -/
def referencesOf (r : Request) : Operation → List String
  | .eval args _ => args.filterMap fun a => argumentReference? r a.state
  | _ => []

/-- The entries of live states that an operation may read. -/
def operationReads (r : Request) (op : Operation) : List String :=
  (referencesOf r op).flatMap (entriesRead r)

/-- The value of an argument is that of the reference it stands for. -/
theorem argumentValue_eq (s : Setting) (state : String) :
    argumentValue s state =
      ((argumentReference? s.request state).map s.lookup).getD .undefined := by
  unfold argumentValue argumentReference?
  cases widgetObject.isPrefixOf? state.toList with
  | none => rfl
  | some channel => cases objectId? s.request <;> rfl

variable {s : Setting} {other : States}

/-- Arguments have the same values where their references have the same entries. -/
theorem argumentValue_congr {args : List FormulaArg} {formula : Option String}
    (h : AgreeOn (operationReads s.request (.eval args formula)) s.states other) {a : FormulaArg}
    (ha : a ∈ args) :
    argumentValue s a.state = argumentValue { s with states := other } a.state := by
  rw [argumentValue_eq, argumentValue_eq]
  cases hreference : argumentReference? s.request a.state with
  | none => rfl
  | some reference =>
    have hmem : reference ∈ referencesOf s.request (.eval args formula) :=
      List.mem_filterMap.mpr ⟨a, ha, hreference⟩
    exact lookup_congr s.engine s.request (h.of_mem hmem)

/-- An operation gives the same and leaves the same notices where the entries it reads are the
same. -/
theorem apply_congr {op : Operation} (h : AgreeOn (operationReads s.request op) s.states other)
    (v : Value) : apply s op v = apply { s with states := other } op v := by
  cases op with
  | eval args formula =>
    cases formula with
    | none => rfl
    | some formula =>
      -- a formula sees the states only through its scope
      have hscope : scopeOf s args formula = scopeOf { s with states := other } args formula := by
        have hnamed : (args.map fun a => (a.name, structured (argumentValue s a.state))) =
            args.map fun a =>
              (a.name, structured (argumentValue { s with states := other } a.state)) :=
          List.map_congr_left fun a ha => by rw [argumentValue_congr h ha]
        simp only [scopeOf, hnamed]
      simp only [apply, eval, hscope]
  | arithmetic _ operand => cases operand <;> rfl
  | round places => cases places <;> rfl
  | pow exponent => cases exponent <;> rfl
  | min bound => cases bound <;> rfl
  | max bound => cases bound <;> rfl
  | _ => rfl

/-- Operations one after another depend on the entries that each of them reads. -/
theorem run_congr {ops : List Operation}
    (h : AgreeOn (ops.flatMap (operationReads s.request)) s.states other) (v : Value) :
    run s ops v = run { s with states := other } ops v := by
  unfold run
  induction ops generalizing v with
  | nil => rw [List.foldlM_nil, List.foldlM_nil]
  | cons op ops ih =>
    rw [List.flatMap_cons, agreeOn_append] at h
    rw [List.foldlM_cons, List.foldlM_cons, apply_congr h.1]
    exact bind_congr (ih h.2)

end Pipeline

namespace Engine

/-- The entries of live states that a binding may read: those of its state and of the arguments of
its formulas. -/
def bindingReads (r : Request) (b : Binding) : List String :=
  entriesRead r b.state ++ b.operations.flatMap (Pipeline.operationReads r)

variable {e : Engine} {r : Request} {a b : States}

/-- The value that a binding shows depends on the entries that it reads. -/
theorem shown_congr {binding : Binding} (h : AgreeOn (bindingReads r binding) a b) :
    e.shown a r binding = e.shown b r binding := by
  obtain ⟨hstate, hops⟩ := agreeOn_append.mp h
  rw [shown, shown, lookup_congr e r hstate]
  exact Pipeline.run_congr (s := ⟨e, a, r, binding.isSeconds⟩) hops _

/-- A step of filling in depends on the entries that its binding reads. -/
theorem substitute_congr {binding : Binding} (h : AgreeOn (bindingReads r binding) a b)
    (text : List Char) : e.substitute a r text binding = e.substitute b r text binding := by
  rw [substitute, substitute, shown_congr h]

/-- Filling in depends on the entries that the bindings read. -/
theorem fill_congr {bs : List Binding} (h : AgreeOn (bs.flatMap (bindingReads r)) a b)
    (template : String) : e.fill a r template bs = e.fill b r template bs := by
  have hfold (text : List Char) :
      bs.foldlM (e.substitute a r) text = bs.foldlM (e.substitute b r) text := by
    induction bs generalizing text with
    | nil => rw [List.foldlM_nil, List.foldlM_nil]
    | cons binding bs ih =>
      rw [List.flatMap_cons, agreeOn_append] at h
      rw [List.foldlM_cons, List.foldlM_cons, substitute_congr h.1]
      exact bind_congr (ih h.2)
  rw [fill, fill, hfold]

end Engine

namespace Session

/-- The entries of live states that bindings name: for each reference, that under its name and that
under its bare name, unless it is reserved or the request has a value for it. -/
def namesRead (r : Request) (bs : List Binding) : List String := bs.flatMap (Engine.bindingReads r)

/-- Which bindings a template has does not depend on the live states. -/
private theorem bindings_withStates (e : Engine) (template : String) (s : Session)
    (other : States) :
    bindings e template { s with states := other } =
      ((s.bindings e template).1, (s.bindings e template).2.1,
        { (s.bindings e template).2.2 with states := other }) := by
  unfold bindings
  cases if s.editing then none else s.cache.get? template <;> rfl

/-- If two sources of states agree on the entries that the bindings of a template name, the template
has the same text and the same notices, and all else in the session becomes the same. -/
theorem format_reads_only_named (e : Engine) (template : String) (r : Request) (s : Session)
    {other : States} (h : AgreeOn (namesRead r (s.bindings e template).1) s.states other) :
    format e template r { s with states := other } =
      ((s.format e template r).1, (s.format e template r).2.1,
        { (s.format e template r).2.2 with states := other }) := by
  have hstates : (s.bindings e template).2.2.states = s.states := by
    rcases bindings_cases e template s with ⟨-, hs⟩ | ⟨-, hs⟩ <;> rw [hs]
  have hfill := Engine.fill_congr (e := e) h template
  unfold format
  simp only [bindings_withStates, hstates, hfill]
  rfl

/-- A request for a widget whose object is the pump, with a value of its own for `b`. -/
def pumpRequest : Request :=
  { widgetData := some [("oid", .string "pump")], values := [("b", .string "3")] }

/-- A state under its bare name, one that the request has a value for, a reserved one, and an
argument relative to the widget's object. -/
theorem format_reads_only_named_pump :
    AgreeOn (namesRead pumpRequest
        (bindings (Engine.plain 50) "{a} {b} {username} {v:widgetOid.lc;v + 1}"
          { states := [("a", .string "1"), ("b", .string "2"), ("pump.lc", .string "7")] }).1)
      [("a", .string "1"), ("b", .string "2"), ("pump.lc", .string "7")]
      [("a", .string "1"), ("pump.lc", .string "7"), ("username.val", .string "4")] ∧
    (format (Engine.plain 50) "{a} {b} {username} {v:widgetOid.lc;v + 1}" pumpRequest
      { states :=
          [("a", .string "1"), ("pump.lc", .string "7"), ("username.val", .string "4")] }).1 =
        "1 3  71" := by
  have hnames : namesRead pumpRequest
      (bindings (Engine.plain 50) "{a} {b} {username} {v:widgetOid.lc;v + 1}"
        { states := [("a", .string "1"), ("b", .string "2"), ("pump.lc", .string "7")] }).1 =
      ["a.val", "a", "widgetOid.lc", "pump.lc"] := by decide +kernel
  have hagree : AgreeOn ["a.val", "a", "widgetOid.lc", "pump.lc"]
      [("a", .string "1"), ("b", .string "2"), ("pump.lc", .string "7")]
      [("a", .string "1"), ("pump.lc", .string "7"), ("username.val", .string "4")] := by
    simp only [AgreeOn, List.forall_mem_cons]
    exact ⟨rfl, rfl, rfl, rfl, nofun⟩
  rw [← hnames] at hagree
  refine ⟨hagree, ?_⟩
  rw [format_reads_only_named (Engine.plain 50) "{a} {b} {username} {v:widgetOid.lc;v + 1}"
    pumpRequest { states := [("a", .string "1"), ("b", .string "2"), ("pump.lc", .string "7")] }
    hagree]
  decide +kernel

end Session

end LiveText
