import LiveText.Proofs.Binding.Operators
import LiveText.Proofs.Binding.References
import LiveText.Proofs.Binding.Tokens
import LiveText.Proofs.Template.Scanning

/-!
# Well-formed bindings

Filling in a template relies on its bindings being well-formed: an operator that needs a number has
one, a name with a channel and the name without it belong together, and a binding has formulas or
operators, not both. Every binding that parsing gives is well-formed: `parse_wellFormed`.
-/

namespace LiveText.Binding

open Text Reference

/-- Whether a binding has operators and no formulas. -/
def HasOperators (b : Binding) : Prop := ∀ op ∈ b.operations, op.isEval = false

/-- Whether a binding has formulas and no operators. -/
def HasFormulas (b : Binding) : Prop :=
  b.operations ≠ [] ∧ ∀ op ∈ b.operations, op.isEval = true

/-- Whether a binding has formulas and these have no arguments. -/
def HasNoArguments (b : Binding) : Prop :=
  b.operations ≠ [] ∧ ∀ op ∈ b.operations, ∃ formula, op = .eval [] formula

/-- What filling in a template relies on in its bindings. -/
structure WellFormed (template : String) (b : Binding) : Prop where
  /-- The binding says which template it is of. -/
  template_eq : b.template = template
  /-- The token is some text of one line in braces. -/
  token_eq : ∃ inner, inner ≠ [] ∧ '\n' ∉ inner ∧ b.token = String.ofList (Piece.token inner)
  /-- The binding has formulas, whose value is no time in seconds, or operators. -/
  form : b.HasFormulas ∧ b.isSeconds = false ∨ b.HasOperators
  /-- Formulas without arguments refer to no state. -/
  noReference : b.HasNoArguments → b.state = "" ∧ b.system = ""
  /-- All else refers to a channel by the names that splitting gives back, and with operators it is
  in seconds if the channel holds a time. -/
  reference : ¬ b.HasNoArguments → ∃ channel, OnChannel channel b.state b.system ∧
    (ofString b.state).state = b.state ∧ (ofString b.state).system = b.system ∧
    (b.HasOperators → (b.isSeconds = true ↔ channel ∈ timeChannels))
  /-- Every argument of a formula refers to a channel. -/
  arguments : ∀ args formula, .eval args formula ∈ b.operations → ∀ arg ∈ args, arg.OnChannel
  /-- The numbers of operators are numbers, and given where they must be. -/
  numbers : ∀ op ∈ b.operations, op.NumberGiven
  /-- No operator of the table is unknown. -/
  unknown : ∀ name, .unknown name ∈ b.operations → name ∉ operatorNames

variable {b : Binding} {inner : List Char}

/-- A binding of operators does not lack arguments of formulas. -/
private theorem HasOperators.not_hasNoArguments (h : b.HasOperators) : ¬ b.HasNoArguments := by
  rintro ⟨hsome, hnone⟩
  obtain ⟨op, hop⟩ := List.exists_mem_of_ne_nil _ hsome
  obtain ⟨formula, rfl⟩ := hnone op hop
  cases h _ hop

/-- A binding of operators is well-formed. -/
theorem wellFormed_ofOperators (template : String) (head : List Char) (parts : List (List Char))
    (hne : inner ≠ []) (hline : '\n' ∉ inner) :
    WellFormed template
      (ofOperators (String.ofList (Piece.token inner)) template head parts).1 := by
  obtain ⟨channel, hchannel, hseconds⟩ := onChannel_ofChars head
  have hread : ∀ op ∈ (parts.map readOperation).filterMap Prod.fst,
      op.FromTable ∨ ∃ name, op = .unknown name ∧ name ∉ operatorNames := by
    intro op hop
    obtain ⟨reading, hreading, hsome⟩ := List.mem_filterMap.mp hop
    obtain ⟨part, -, rfl⟩ := List.mem_map.mp hreading
    exact fromTable_readOperation hsome
  have hoperators : (ofOperators (String.ofList (Piece.token inner)) template head
      parts).1.HasOperators := by
    intro op hop
    rcases hread op hop with htable | ⟨name, rfl, -⟩
    · exact htable.1
    · rfl
  refine
    { template_eq := rfl
      token_eq := ⟨inner, hne, hline, rfl⟩
      form := Or.inr hoperators
      noReference := fun hnone => absurd hnone hoperators.not_hasNoArguments
      reference := fun _ => ?reference
      arguments := fun args formula hop => ?arguments
      numbers := fun op hop => ?numbers
      unknown := fun name hop => ?unknown }
  case reference =>
    obtain ⟨hstate, hsystem⟩ := OnChannel.split hchannel
    exact ⟨channel, hchannel, hstate, hsystem, fun _ => hseconds⟩
  case arguments => cases hoperators _ hop
  case numbers =>
    rcases hread op hop with htable | ⟨name, rfl, -⟩
    · exact htable.2.1
    · exact trivial
  case unknown =>
    rcases hread _ hop with htable | ⟨other, heq, hother⟩
    · exact absurd rfl (htable.2.2 name)
    · cases heq
      exact hother

/-- The formulas of a token lack arguments if the token has none. -/
theorem hasNoArguments_iff {args : List FormulaArg} {formulas : List (List FormulaArg × String)}
    (hops : b.operations = formulaOperations args formulas)
    (hknown : ∀ entry ∈ formulas, entry.1 <+: args) : b.HasNoArguments ↔ args = [] := by
  obtain ⟨first, hfirst⟩ := exists_eval_mem_formulaOperations args formulas
  constructor
  · intro h
    obtain ⟨formula, heq⟩ := h.2 _ (hops ▸ hfirst)
    cases heq
    rfl
  · rintro rfl
    refine ⟨hops ▸ List.ne_nil_of_mem hfirst, fun op hop => ?_⟩
    obtain ⟨known, formula, rfl, hfront⟩ := exists_of_mem_formulaOperations hknown (hops ▸ hop)
    obtain rfl := List.prefix_nil.mp hfront
    exact ⟨formula, rfl⟩

/-- A binding of formulas is well-formed if its arguments refer to channels and every formula knows
the first ones of them. -/
theorem wellFormed_formulas (template : String) {args : List FormulaArg}
    {formulas : List (List FormulaArg × String)} (hargs : ∀ arg ∈ args, arg.OnChannel)
    (hknown : ∀ entry ∈ formulas, entry.1 <+: args) (hne : inner ≠ []) (hline : '\n' ∉ inner) :
    WellFormed template
      { state := (args.head?.map FormulaArg.state).getD ""
        system := (args.head?.map FormulaArg.system).getD ""
        token := String.ofList (Piece.token inner)
        operations := formulaOperations args formulas
        template := template
        isSeconds := false } := by
  obtain ⟨first, hfirst⟩ := exists_eval_mem_formulaOperations args formulas
  have hevals : ∀ op ∈ formulaOperations args formulas,
      ∃ known formula, op = .eval known formula ∧ known <+: args :=
    fun op hop => exists_of_mem_formulaOperations hknown hop
  have hchannel : args ≠ [] → ∃ channel, OnChannel channel
      ((args.head?.map FormulaArg.state).getD "") ((args.head?.map FormulaArg.system).getD "") := by
    intro hsome
    cases args with
    | nil => exact absurd rfl hsome
    | cons arg args => exact hargs arg (List.mem_cons_self ..)
  refine
    { template_eq := rfl
      token_eq := ⟨inner, hne, hline, rfl⟩
      form := Or.inl ⟨⟨List.ne_nil_of_mem hfirst, fun op hop => ?isEval⟩, rfl⟩
      noReference := fun hnone => ?noReference
      reference := fun hsome => ?reference
      arguments := fun known formula hop => ?arguments
      numbers := fun op hop => ?numbers
      unknown := fun name hop => ?unknown }
  case isEval =>
    obtain ⟨known, formula, rfl, -⟩ := hevals op hop
    rfl
  case noReference =>
    obtain rfl := (hasNoArguments_iff rfl hknown).mp hnone
    exact ⟨rfl, rfl⟩
  case reference =>
    obtain ⟨channel, h⟩ := hchannel ((not_congr (hasNoArguments_iff rfl hknown)).mp hsome)
    obtain ⟨hstate, hsystem⟩ := OnChannel.split h
    refine ⟨channel, h, hstate, hsystem, fun hoperators => ?_⟩
    cases hoperators _ hfirst
  case arguments =>
    obtain ⟨known, formula, heq, hfront⟩ := hevals _ hop
    cases heq
    exact fun arg harg => hargs arg (hfront.subset harg)
  case numbers =>
    obtain ⟨known, formula, rfl, -⟩ := hevals op hop
    exact trivial
  case unknown =>
    obtain ⟨known, formula, heq, -⟩ := hevals _ hop
    cases heq

/-- A binding of formulas is well-formed. -/
theorem wellFormed_ofFormula (template : String) (head : List Char) (parts : List (List Char))
    (hne : inner ≠ []) (hline : '\n' ∉ inner) :
    WellFormed template (ofFormula (String.ofList (Piece.token inner)) template head parts) := by
  have hhead : ∀ arg ∈ (FormulaArg.ofChars? head).toList, arg.OnChannel := fun arg harg =>
    FormulaArg.onChannel_ofChars? (Option.mem_toList.mp harg)
  apply wellFormed_formulas template _ _ hne hline
  · exact onChannel_readFormulaParts hhead
  · exact fun entry hentry => prefix_of_mem_readFormulaParts hentry

/-- The binding of a text of one line is well-formed. -/
theorem wellFormed_ofInner (template : String) (hne : inner ≠ []) (hline : '\n' ∉ inner) :
    WellFormed template (ofInner template inner).1 := by
  unfold ofInner
  split
  · exact wellFormed_ofOperators template [] [] hne hline
  · rename_i head parts _
    split
    · exact wellFormed_ofFormula template head parts hne hline
    · exact wellFormed_ofOperators template head parts hne hline

/-- Every binding of a template is well-formed. -/
theorem parse_wellFormed (limit : Nat) (template : String) :
    ∀ b ∈ (parse limit template).1.getD [], WellFormed template b := by
  intro b hb
  rw [parse_getD, bound] at hb
  obtain ⟨inner, hinner, rfl⟩ := List.mem_map.mp hb
  have hcandidate : inner ∈ candidates template :=
    List.mem_of_mem_take (List.mem_filter.mp hinner).1
  obtain ⟨hne, hline⟩ := (Piece.scanned_scan template.toList).of_braced_mem
    (mem_candidates.mp hcandidate)
  exact wellFormed_ofInner template hne hline

/-- A template with a dropped operator, an unknown one and a formula without arguments. -/
def mixedTemplate : String := "{hall.temp.ts;*(2,5);/(x);round;bogus(1)} or {;1}"

/-- The binding of the operators of `mixedTemplate`. -/
def mixedOperators : Binding :=
  { state := "hall.temp.ts"
    system := "hall.temp"
    token := "{hall.temp.ts;*(2,5);/(x);round;bogus(1)}"
    operations := [.arithmetic .multiply (some (argumentNumber ['2', ',', '5'])), .round none,
      .unknown "bogus"]
    template := mixedTemplate
    isSeconds := true }

/-- The binding of the formula of `mixedTemplate`. -/
def mixedFormula : Binding :=
  { state := ""
    system := ""
    token := "{;1}"
    operations := [.eval [] (some "1")]
    template := mixedTemplate
    isSeconds := false }

theorem parse_wellFormed_mixed :
    mixedOperators ∈ (parse 50 mixedTemplate).1.getD [] ∧
      mixedFormula ∈ (parse 50 mixedTemplate).1.getD [] ∧
      WellFormed mixedTemplate mixedOperators ∧ WellFormed mixedTemplate mixedFormula := by
  have hoperators : mixedOperators ∈ (parse 50 mixedTemplate).1.getD [] := by decide +kernel
  have hformula : mixedFormula ∈ (parse 50 mixedTemplate).1.getD [] := by decide +kernel
  exact ⟨hoperators, hformula, parse_wellFormed 50 mixedTemplate mixedOperators hoperators,
    parse_wellFormed 50 mixedTemplate mixedFormula hformula⟩

end LiveText.Binding
