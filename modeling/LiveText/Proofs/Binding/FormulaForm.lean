import LiveText.Proofs.Binding.OperatorForm
import LiveText.Proofs.Binding.References

/-!
# Tokens with formulas

A token may say named references and formulas in any order, `{h:height;w:width;h * w}`. Each part
behind the first is an argument or a formula, and none is lost: the first formula is evaluated with
all arguments, those behind it included, and every later one with the arguments in front of it:
`parse_formulaForm`.
-/

namespace LiveText

open Text

/-- The formula of an evaluation. -/
def Operation.formula? : Operation → Option String
  | .eval _ formula => formula
  | _ => none

namespace Binding

/-- Whether a text is a named reference and nothing else: a word, a colon, possibly a blank, and
characters of a reference. -/
def IsNamed (cs : List Char) : Prop :=
  ∃ name gap reference, cs = name ++ ':' :: (gap ++ reference) ∧ name ≠ [] ∧
    (∀ d ∈ name, isWord d = true) ∧ (gap = [] ∨ ∃ b, gap = [b] ∧ isBlank b = true) ∧
    reference ≠ [] ∧ ∀ c ∈ reference, isReferenceChar c = true

private theorem isFormulaArg_iff {cs : List Char} : isFormulaArg cs = true ↔ IsNamed cs := by
  rw [isFormulaArg]
  constructor
  · intro h
    split at h
    · rename_i c rest hafter
      obtain ⟨hc, hrest⟩ := Bool.and_eq_true_iff.mp h
      obtain ⟨name, gap, rfl, hne, hword, hgap⟩ := (afterArgName?_eq_cons_iff hc).mp hafter
      refine ⟨name, gap, c :: rest, rfl, hne, hword, hgap, List.cons_ne_nil _ _, ?_⟩
      exact List.forall_mem_cons.mpr ⟨hc, List.all_eq_true.mp hrest⟩
    · cases h
  · rintro ⟨name, gap, reference, rfl, hne, hword, hgap, href, hall⟩
    obtain ⟨c, rest, rfl⟩ := List.exists_cons_of_ne_nil href
    obtain ⟨hc, hrest⟩ := List.forall_mem_cons.mp hall
    rw [(afterArgName?_eq_cons_iff hc).mpr ⟨name, gap, rfl, hne, hword, hgap⟩]
    exact Bool.and_eq_true_iff.mpr ⟨hc, List.all_eq_true.mpr hrest⟩

instance : DecidablePred IsNamed := fun _ => decidable_of_iff _ isFormulaArg_iff

/-! ### Arguments and formulas -/

/-- The arguments that the parts say, in order. -/
def namedArguments (parts : List (List Char)) : List FormulaArg :=
  (parts.filter (IsNamed ·)).filterMap FormulaArg.ofChars?

/-- The arguments that a head and the parts behind it say, in order. -/
def argumentsOf (head : List Char) (parts : List (List Char)) : List FormulaArg :=
  (FormulaArg.ofChars? head).toList ++ namedArguments parts

/-- The formula that a part says: a colon is written twice. -/
def formulaOf (part : List Char) : String := String.ofList (collapse ':' part)

/-- The formulas that the parts say, in order. -/
def formulasOf (parts : List (List Char)) : List String :=
  (parts.filter (¬ IsNamed ·)).map formulaOf

/-- A named reference says the argument of its name with its reference. -/
private theorem ofChars?_named {name gap reference : List Char}
    (hword : ∀ d ∈ name, isWord d = true) (hgap : gap = [] ∨ ∃ b, gap = [b] ∧ isBlank b = true)
    (href : ∀ c ∈ reference, isReferenceChar c = true) :
    FormulaArg.ofChars? (name ++ ':' :: (gap ++ reference)) =
      some ⟨String.ofList name, (Reference.ofChars reference).state,
        (Reference.ofChars reference).system⟩ := by
  have hcolon : ':' ∉ name := fun hmem =>
    absurd (hword ':' hmem) (Bool.eq_false_iff.mp (isWord_of_mem_marks (by decide)))
  have hcut : cutFirst? ':' (name ++ ':' :: (gap ++ reference)) = some (name, gap ++ reference) :=
    cutFirst?_eq_some_iff.mpr ⟨rfl, hcolon⟩
  have hname : trim name = name := trim_of_not_isBlank fun c hc => isBlank_of_isWord (hword c hc)
  have hreference : trim reference = reference :=
    trim_of_not_isBlank fun c hc => isBlank_of_isReferenceChar (href c hc)
  have hbehind : trim (gap ++ reference) = reference := by
    rcases hgap with rfl | ⟨b, rfl, hblank⟩
    · exact hreference
    · rw [trim, trimStart, List.singleton_append, List.dropWhile_cons_of_pos hblank]
      exact hreference
  simp only [FormulaArg.ofChars?, hcut, Option.map_some, hname, hbehind]

private theorem IsNamed.exists_ofChars? {part : List Char} (h : IsNamed part) :
    ∃ arg, FormulaArg.ofChars? part = some arg := by
  obtain ⟨name, gap, reference, rfl, -, hword, hgap, -, href⟩ := h
  exact ⟨_, ofChars?_named hword hgap href⟩

section Cons

variable {part : List Char} (parts : List (List Char))

private theorem namedArguments_cons_of_isNamed (h : IsNamed part) :
    namedArguments (part :: parts) =
      (FormulaArg.ofChars? part).toList ++ namedArguments parts := by
  obtain ⟨arg, harg⟩ := h.exists_ofChars?
  rw [namedArguments, List.filter_cons_of_pos (by simpa using h), List.filterMap_cons_some harg,
    harg]
  rfl

private theorem namedArguments_cons_of_not (h : ¬ IsNamed part) :
    namedArguments (part :: parts) = namedArguments parts := by
  rw [namedArguments, List.filter_cons_of_neg (by simpa using h), namedArguments]

private theorem formulasOf_cons_of_isNamed (h : IsNamed part) :
    formulasOf (part :: parts) = formulasOf parts := by
  rw [formulasOf, List.filter_cons_of_neg (by simpa using h), formulasOf]

private theorem formulasOf_cons_of_not (h : ¬ IsNamed part) :
    formulasOf (part :: parts) = formulaOf part :: formulasOf parts := by
  rw [formulasOf, List.filter_cons_of_pos (by simpa using h), List.map_cons, formulasOf]

theorem readFormulaParts_cons_of_isNamed (h : IsNamed part) (known : List FormulaArg) :
    readFormulaParts known (part :: parts) =
      readFormulaParts (known ++ (FormulaArg.ofChars? part).toList) parts := by
  rw [readFormulaParts, if_pos (isFormulaArg_iff.mpr h)]

theorem readFormulaParts_cons_of_not (h : ¬ IsNamed part) (known : List FormulaArg) :
    readFormulaParts known (part :: parts) = ((readFormulaParts known parts).1,
      (known, formulaOf part) :: (readFormulaParts known parts).2) := by
  rw [readFormulaParts, if_neg (mt isFormulaArg_iff.mp h)]
  rfl

end Cons

/-- Every part is an argument or a formula. -/
private theorem length_namedArguments_add (parts : List (List Char)) :
    (namedArguments parts).length + (formulasOf parts).length = parts.length := by
  induction parts with
  | nil => rfl
  | cons part parts ih =>
    by_cases h : IsNamed part
    · obtain ⟨arg, harg⟩ := h.exists_ofChars?
      rw [namedArguments_cons_of_isNamed parts h, formulasOf_cons_of_isNamed parts h, harg,
        Option.toList_some, List.length_append, List.length_singleton, List.length_cons, ← ih]
      omega
    · rw [namedArguments_cons_of_not parts h, formulasOf_cons_of_not parts h, List.length_cons,
        List.length_cons, ← ih]
      omega

/-! ### Reading the parts -/

/-- An argument part adds to the arguments that are known behind it, a formula takes those that are
known in front of it. -/
theorem readFormulaParts_append (known : List FormulaArg) (before rest : List (List Char)) :
    readFormulaParts known (before ++ rest) =
      ((readFormulaParts (known ++ namedArguments before) rest).1,
        (readFormulaParts known before).2 ++
          (readFormulaParts (known ++ namedArguments before) rest).2) := by
  induction before generalizing known with
  | nil => simp [namedArguments, readFormulaParts]
  | cons part before ih =>
    rw [List.cons_append]
    by_cases h : IsNamed part
    · rw [readFormulaParts_cons_of_isNamed _ h, readFormulaParts_cons_of_isNamed _ h, ih,
        namedArguments_cons_of_isNamed _ h, List.append_assoc]
    · rw [readFormulaParts_cons_of_not _ h, readFormulaParts_cons_of_not _ h, ih,
        namedArguments_cons_of_not _ h, List.cons_append]

/-- The arguments of a token are those known in front of its parts and those of the parts. -/
private theorem arguments_readFormulaParts (known : List FormulaArg) (parts : List (List Char)) :
    (readFormulaParts known parts).1 = known ++ namedArguments parts := by
  have happend := readFormulaParts_append known parts []
  rw [List.append_nil] at happend
  rw [happend, readFormulaParts]

/-- The formulas of a token are those of its parts. -/
theorem formulas_readFormulaParts (known : List FormulaArg) (parts : List (List Char)) :
    (readFormulaParts known parts).2.map Prod.snd = formulasOf parts := by
  induction parts generalizing known with
  | nil => rfl
  | cons part parts ih =>
    by_cases h : IsNamed part
    · rw [readFormulaParts_cons_of_isNamed _ h, formulasOf_cons_of_isNamed _ h, ih]
    · rw [readFormulaParts_cons_of_not _ h, formulasOf_cons_of_not _ h, List.map_cons, ih]

/-- A formula part has the arguments in front of it. -/
private theorem getElem?_readFormulaParts (known : List FormulaArg) {part : List Char}
    (h : ¬ IsNamed part) (before after : List (List Char)) :
    (readFormulaParts known (before ++ part :: after)).2[(formulasOf before).length]? =
      some (known ++ namedArguments before, formulaOf part) := by
  have hlength : (formulasOf before).length = (readFormulaParts known before).2.length := by
    rw [← formulas_readFormulaParts known before, List.length_map]
  rw [readFormulaParts_append, readFormulaParts_cons_of_not _ h, hlength,
    List.getElem?_append_right (Nat.le_refl _), Nat.sub_self, List.getElem?_cons_zero]

/-! ### Evaluations -/

section Evaluations

variable (args : List FormulaArg) (entries : List (List FormulaArg × String))

/-- There is an evaluation for each formula, and one if there is none. -/
private theorem length_formulaOperations :
    (formulaOperations args entries).length = max entries.length 1 := by
  cases entries with
  | nil => rfl
  | cons entry later =>
    rw [formulaOperations, List.length_cons, List.length_map, List.length_cons]
    omega

private theorem isEval_of_mem_formulaOperations :
    ∀ op ∈ formulaOperations args entries, op.isEval = true := by
  intro op hop
  cases entries with
  | nil =>
    rw [List.mem_singleton.mp hop]
    rfl
  | cons entry later =>
    rcases List.mem_cons.mp hop with rfl | hlater
    · rfl
    · obtain ⟨other, -, rfl⟩ := List.mem_map.mp hlater
      rfl

/-- The first evaluation has all arguments. -/
private theorem getElem?_formulaOperations_zero :
    (formulaOperations args entries)[0]? = some (.eval args (entries.map Prod.snd).head?) := by
  cases entries with
  | nil => rfl
  | cons entry later => rfl

/-- A later evaluation has the arguments of its formula. -/
private theorem getElem?_formulaOperations_succ {i : Nat} {known : List FormulaArg}
    {formula : String} (h : entries[i + 1]? = some (known, formula)) :
    (formulaOperations args entries)[i + 1]? = some (.eval known (some formula)) := by
  cases entries with
  | nil => cases h
  | cons entry later =>
    rw [List.getElem?_cons_succ] at h
    rw [formulaOperations, List.getElem?_cons_succ, List.getElem?_map, h]
    rfl

/-- The formulas of the evaluations are the ones given. -/
private theorem filterMap_formula?_formulaOperations :
    (formulaOperations args entries).filterMap Operation.formula? = entries.map Prod.snd := by
  cases entries with
  | nil => rfl
  | cons entry later =>
    have hlater : ∀ more : List (List FormulaArg × String),
        (more.map fun e => Operation.eval e.1 (some e.2)).filterMap Operation.formula? =
          more.map Prod.snd := by
      intro more
      rw [List.filterMap_map, ← List.filterMap_eq_map]
      rfl
    exact congrArg (entry.2 :: ·) (hlater later)

end Evaluations

/-! ### Bindings -/

/-- What the binding of a token with formulas says, by the head of the token and its other parts. -/
structure FormulaForm (head : List Char) (parts : List (List Char)) (b : Binding) : Prop where
  /-- All operations are evaluations. -/
  evals : ∀ op ∈ b.operations, op.isEval = true
  /-- There is one for each formula, and one if there is no formula. -/
  length_eq : b.operations.length = max (formulasOf parts).length 1
  /-- The first one has all arguments of the token, and no formula if there is none. -/
  first : b.operations[0]? = some (.eval (argumentsOf head parts) (formulasOf parts).head?)
  /-- A later one has the arguments in front of its formula. -/
  later : ∀ before part after, parts = before ++ part :: after → ¬ IsNamed part →
    formulasOf before ≠ [] → b.operations[(formulasOf before).length]? =
      some (.eval (argumentsOf head before) (some (formulaOf part)))
  /-- The formulas stand in the order of their parts. -/
  formulas_eq : b.operations.filterMap Operation.formula? = formulasOf parts
  /-- The binding refers to what its first argument does. -/
  reference : ∀ arg ∈ (argumentsOf head parts).head?, b.state = arg.state ∧ b.system = arg.system
  /-- Without arguments it refers to nothing. -/
  noReference : argumentsOf head parts = [] → b.state = "" ∧ b.system = ""
  /-- No part is lost. -/
  count_eq : ∀ args formula, b.operations[0]? = some (.eval args formula) →
    args.length + (b.operations.filterMap Operation.formula?).length =
      parts.length + if head = [] then 0 else 1

/-- The head of a token with formulas begins with a named reference, or is empty in front of other
parts. -/
def IsFormulaToken (head : List Char) (parts : List (List Char)) : Prop :=
  BeginsNamed head ∨ head = [] ∧ parts ≠ []

private theorem BeginsNamed.exists_ofChars? {cs : List Char} (h : BeginsNamed cs) :
    ∃ arg, FormulaArg.ofChars? cs = some arg := by
  obtain ⟨name, gap, c, rest, rfl, -⟩ := h
  cases hcut : cutFirst? ':' (name ++ ':' :: (gap ++ c :: rest)) with
  | none => exact absurd (by simp) (cutFirst?_eq_none_iff.mp hcut)
  | some cut => exact ⟨_, by rw [FormulaArg.ofChars?, hcut, Option.map_some]⟩

/-- A head that is not empty says an argument. -/
private theorem IsFormulaToken.length_head {head : List Char} {parts : List (List Char)}
    (h : IsFormulaToken head parts) :
    (FormulaArg.ofChars? head).toList.length = if head = [] then 0 else 1 := by
  rcases h with hnamed | ⟨rfl, -⟩
  · obtain ⟨arg, harg⟩ := hnamed.exists_ofChars?
    obtain ⟨name, gap, c, rest, rfl, -⟩ := hnamed
    rw [harg, if_neg (by simp)]
    rfl
  · rfl

private theorem ofFormula_eq (token template : String) (head : List Char)
    (parts : List (List Char)) :
    ofFormula token template head parts =
      { state := ((argumentsOf head parts).head?.map FormulaArg.state).getD ""
        system := ((argumentsOf head parts).head?.map FormulaArg.system).getD ""
        token := token
        operations := formulaOperations (argumentsOf head parts)
          (readFormulaParts (FormulaArg.ofChars? head).toList parts).2
        template := template
        isSeconds := false } := by
  rw [argumentsOf, ← arguments_readFormulaParts]
  rfl

/-- The binding of a token with formulas has its arguments and formulas. -/
private theorem IsFormulaToken.formulaForm {head : List Char} {parts : List (List Char)}
    (h : IsFormulaToken head parts) (token template : String) :
    FormulaForm head parts (ofFormula token template head parts) := by
  have hformulas := formulas_readFormulaParts (FormulaArg.ofChars? head).toList parts
  have hlength := congrArg List.length hformulas
  rw [List.length_map] at hlength
  have hfirst := getElem?_formulaOperations_zero (argumentsOf head parts)
    (readFormulaParts (FormulaArg.ofChars? head).toList parts).2
  have hall := filterMap_formula?_formulaOperations (argumentsOf head parts)
    (readFormulaParts (FormulaArg.ofChars? head).toList parts).2
  rw [hformulas] at hfirst hall
  rw [ofFormula_eq]
  refine
    { evals := isEval_of_mem_formulaOperations _ _
      length_eq := ?length
      first := hfirst
      later := fun before part after hparts hpart hbefore => ?later
      formulas_eq := hall
      reference := fun arg harg => ?reference
      noReference := fun hnone => ?noReference
      count_eq := fun args formula heval => ?count }
  case length => rw [length_formulaOperations, hlength]
  case later =>
    obtain ⟨i, hi⟩ := Nat.exists_eq_succ_of_ne_zero (mt List.length_eq_zero_iff.mp hbefore)
    have hentry := getElem?_readFormulaParts (FormulaArg.ofChars? head).toList hpart before after
    rw [← hparts, hi] at hentry
    rw [hi]
    exact getElem?_formulaOperations_succ _ _ hentry
  case reference =>
    simp only [Option.mem_def.mp harg, Option.map_some, Option.getD_some, and_self]
  case noReference =>
    simp only [hnone, List.head?_nil, Option.map_none, Option.getD_none, and_self]
  case count =>
    obtain ⟨rfl, -⟩ := Operation.eval.inj (Option.some.inj (hfirst.symm.trans heval))
    rw [hall, argumentsOf, List.length_append, h.length_head, Nat.add_assoc,
      length_namedArguments_add, Nat.add_comm]

/-! ### Tokens of a template -/

/-- What stands in front of the first semicolon begins as the text does. -/
private theorem exists_splitOn_cons {c : Char} (h : c ≠ ';') (cs : List Char) :
    ∃ rest parts, (c :: cs).splitOn ';' = (c :: rest) :: parts := by
  obtain ⟨part, parts, hparts⟩ := List.exists_cons_of_ne_nil (List.splitOn_ne_nil ';' cs)
  refine ⟨part, parts, ?_⟩
  rw [List.splitOn, List.splitOnP_cons_eq_if_modifyHead, if_neg (by simpa using h)]
  rw [List.splitOn] at hparts
  rw [hparts]
  rfl

/-- A token with formulas is no literal brace and no quote. -/
theorem IsFormulaToken.isSkipped_eq_false {inner head : List Char} {parts : List (List Char)}
    (h : IsFormulaToken head parts) (hparts : (inner.splitOn ';').map trim = head :: parts) :
    isSkipped inner = false := by
  -- the head begins with the brace or the quote, which neither a name nor the empty text does
  have hother : ∀ c, c ≠ ';' → isBlank c = false → isWord c = false → inner.head? ≠ some c := by
    intro c hsemicolon hblank hword hinner
    obtain ⟨cs, rfl⟩ := List.head?_eq_some_iff.mp hinner
    obtain ⟨rest, more, hsplit⟩ := exists_splitOn_cons hsemicolon cs
    obtain ⟨front, hfront⟩ := exists_trim_cons hblank rest
    rw [hsplit, List.map_cons, hfront] at hparts
    obtain ⟨rfl, -⟩ := List.cons.inj hparts
    rcases h with ⟨name, gap, d, behind, hcs, hne, hname, -⟩ | ⟨hnil, -⟩
    · obtain ⟨e, name, rfl⟩ := List.exists_cons_of_ne_nil hne
      obtain ⟨rfl, -⟩ := List.cons.inj hcs
      rw [hname c (List.mem_cons_self ..)] at hword
      cases hword
    · cases hnil
  have hbrace := hother '{' (by decide) (by decide) (isWord_of_mem_marks (by decide))
  have hquote := hother '"' (by decide) (by decide) (isWord_of_mem_marks (by decide))
  simp [isSkipped, hbrace, hquote]

private theorem token_injective {inner other : List Char}
    (h : String.ofList (Piece.token inner) = String.ofList (Piece.token other)) :
    inner = other := by
  have hchars := congrArg String.toList h
  rw [String.toList_ofList, String.toList_ofList] at hchars
  exact List.append_cancel_right (List.cons.inj hchars).2

private theorem ofInner_formulaToken {inner head : List Char} {parts : List (List Char)}
    (h : IsFormulaToken head parts) (hparts : (inner.splitOn ';').map trim = head :: parts)
    (template : String) : (ofInner template inner).1 =
      ofFormula (String.ofList (Piece.token inner)) template head parts := by
  have hform : (isFormulaHead head || head.isEmpty && !parts.isEmpty) = true := by
    rcases h with hnamed | ⟨rfl, hne⟩
    · rw [isFormulaHead_iff.mpr hnamed, Bool.true_or]
    · simp [hne]
  rw [ofInner, hparts]
  simp only [hform]
  rfl

/-- A token with formulas among the first candidates of a template has a binding, with an evaluation
for each formula. The first one has all arguments of the token, a later one those in front of its
formula; no part of the token is lost. -/
theorem parse_formulaForm {limit : Nat} {template : String} {inner head : List Char}
    {parts : List (List Char)} (hinner : inner ∈ (candidates template).take limit)
    (hparts : (inner.splitOn ';').map trim = head :: parts) (h : IsFormulaToken head parts) :
    (∃ b ∈ (parse limit template).1.getD [], b.token = String.ofList (Piece.token inner)) ∧
    ∀ b ∈ (parse limit template).1.getD [], b.token = String.ofList (Piece.token inner) →
      FormulaForm head parts b := by
  rw [parse_getD]
  constructor
  · have hbound : inner ∈ bound limit template :=
      List.mem_filter.mpr ⟨hinner, by rw [h.isSkipped_eq_false hparts]; rfl⟩
    exact ⟨_, List.mem_map_of_mem hbound, token_ofInner template inner⟩
  · intro b hb htoken
    obtain ⟨other, -, rfl⟩ := List.mem_map.mp hb
    rw [token_ofInner] at htoken
    obtain rfl := token_injective htoken
    rw [ofInner_formulaToken h hparts]
    exact h.formulaForm _ template

/-- A token whose second formula has an argument in front of it and one behind it. -/
def interleavedInner : List Char := "h:a.ts;h * w;w: b;w - h;z:c;w ? 1::2".toList

/-- The parts of `interleavedInner` behind its head. -/
def interleavedParts : List (List Char) :=
  ["h * w".toList, "w: b".toList, "w - h".toList, "z:c".toList, "w ? 1::2".toList]

/-- The template of `interleavedInner`. -/
def interleavedTemplate : String := String.ofList (Piece.token interleavedInner)

theorem parse_formulaForm_interleaved :
    interleavedInner ∈ (candidates interleavedTemplate).take 1 ∧
      IsFormulaToken "h:a.ts".toList interleavedParts ∧
      ∃ b ∈ (parse 1 interleavedTemplate).1.getD [],
        b.operations.length = 3 ∧
        b.operations[0]? = some (.eval
          [⟨"h", "a.ts", "a"⟩, ⟨"w", "b.val", "b"⟩, ⟨"z", "c.val", "c"⟩] (some "h * w")) ∧
        b.operations[1]? = some (.eval [⟨"h", "a.ts", "a"⟩, ⟨"w", "b.val", "b"⟩] (some "w - h")) ∧
        b.state = "a.ts" ∧
        b.operations.filterMap Operation.formula? = ["h * w", "w - h", "w ? 1:2"] := by
  have hinner : interleavedInner ∈ (candidates interleavedTemplate).take 1 := by decide +kernel
  have hparts : (interleavedInner.splitOn ';').map trim = "h:a.ts".toList :: interleavedParts := by
    decide
  have hform : IsFormulaToken "h:a.ts".toList interleavedParts :=
    .inl (isFormulaHead_iff.mp (by decide))
  obtain ⟨⟨b, hb, htoken⟩, hall⟩ := parse_formulaForm hinner hparts hform
  have h := hall b hb htoken
  have hformulas : formulasOf interleavedParts = ["h * w", "w - h", "w ? 1:2"] := by
    decide
  have harguments : argumentsOf "h:a.ts".toList interleavedParts =
      [⟨"h", "a.ts", "a"⟩, ⟨"w", "b.val", "b"⟩, ⟨"z", "c.val", "c"⟩] := by decide
  have hknown : argumentsOf "h:a.ts".toList ["h * w".toList, "w: b".toList] =
      [⟨"h", "a.ts", "a"⟩, ⟨"w", "b.val", "b"⟩] := by decide
  have hbefore : formulasOf ["h * w".toList, "w: b".toList] = ["h * w"] := by decide
  have hfirst := h.first
  have hsecond := h.later ["h * w".toList, "w: b".toList] "w - h".toList
    ["z:c".toList, "w ? 1::2".toList] rfl (by decide) (by rw [hbefore]; exact nofun)
  have hlength := h.length_eq
  have hkept := h.formulas_eq
  rw [hformulas] at hfirst hlength hkept
  rw [harguments] at hfirst
  rw [hknown, hbefore] at hsecond
  have hstate := (h.reference _ (by rw [harguments]; rfl)).1
  exact ⟨hinner, hform, b, hb, hlength, hfirst, hsecond, hstate, hkept⟩

end Binding

end LiveText
