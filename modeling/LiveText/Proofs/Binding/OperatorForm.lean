import LiveText.Proofs.Binding.Operators
import LiveText.Proofs.Binding.Tokens
import LiveText.Proofs.Template.Scanning

/-!
# Tokens with operators

A token may say a reference and calls of operators, `{hall.temp;*(2,5);round(1)}`. The text of an
argument may hold anything but what ends the token or the part: it is what stands between the first
and the last parenthesis of its part. Parsing such a token gives one binding with the operations of
the calls in order. Only a call whose argument should be a number and is none is left out, with one
notice: `parse_operatorForm`.
-/

namespace LiveText

namespace Binding

open Text Piece

/-- Whether a text begins with a named reference: a word, a colon, possibly a blank, and a character
of a reference. -/
def BeginsNamed (cs : List Char) : Prop :=
  ∃ name gap c rest, cs = name ++ ':' :: (gap ++ c :: rest) ∧ name ≠ [] ∧
    (∀ d ∈ name, isWord d = true) ∧ (gap = [] ∨ ∃ b, gap = [b] ∧ isBlank b = true) ∧
    isReferenceChar c = true

/-- No blank may stand in a reference. -/
theorem isBlank_of_isReferenceChar {c : Char} (h : isReferenceChar c = true) :
    isBlank c = false := by
  simp only [isReferenceChar, Bool.or_eq_true, decide_eq_true_eq] at h
  rcases h with (hword | rfl) | rfl
  · exact isBlank_of_isWord hword
  · decide
  · decide

/-- What follows a word and a colon is cut off at them, with a blank behind them. -/
theorem afterArgName?_append {name rest : List Char} (hne : name ≠ [])
    (hword : ∀ d ∈ name, isWord d = true) :
    afterArgName? (name ++ ':' :: rest) =
      match rest with
      | [] => some []
      | c :: tail => some (if isBlank c then tail else c :: tail) := by
  have hcolon : ¬ isWord ':' = true :=
    Bool.eq_false_iff.mp (isWord_of_mem_marks (by decide))
  have htake : (name ++ ':' :: rest).takeWhile isWord = name := by
    rw [List.takeWhile_append_of_pos hword, List.takeWhile_cons_of_neg hcolon, List.append_nil]
  have hdrop : (name ++ ':' :: rest).dropWhile isWord = ':' :: rest := by
    rw [List.dropWhile_append_of_pos hword, List.dropWhile_cons_of_neg hcolon]
  have hsome : name.isEmpty = false := List.isEmpty_eq_false_iff.mpr hne
  rw [afterArgName?, htake, hdrop, hsome]
  cases rest <;> rfl

/-- Nothing else than a word and a colon is cut off. -/
private theorem exists_of_afterArgName? {cs after : List Char} (h : afterArgName? cs = some after) :
    ∃ name rest, cs = name ++ ':' :: rest ∧ name ≠ [] ∧ ∀ d ∈ name, isWord d = true := by
  rw [afterArgName?] at h
  split at h
  · cases h
  · rename_i hne
    split at h
    · rename_i rest hdrop
      refine ⟨cs.takeWhile isWord, rest, ?_, ?_, List.all_eq_true.mp List.all_takeWhile⟩
      · rw [← hdrop, List.takeWhile_append_dropWhile]
      · exact fun hnil => hne (List.isEmpty_iff.mpr hnil)
    · cases h

/-- A character of a reference begins what follows exactly if at most one blank stands between it
and the colon. -/
theorem afterArgName?_eq_cons_iff {cs rest : List Char} {c : Char} (hc : isReferenceChar c = true) :
    afterArgName? cs = some (c :: rest) ↔ ∃ name gap, cs = name ++ ':' :: (gap ++ c :: rest) ∧
      name ≠ [] ∧ (∀ d ∈ name, isWord d = true) ∧
          (gap = [] ∨ ∃ b, gap = [b] ∧ isBlank b = true) := by
  constructor
  · intro hafter
    obtain ⟨name, behind, rfl, hne, hword⟩ := exists_of_afterArgName? hafter
    rw [afterArgName?_append hne hword] at hafter
    cases behind with
    | nil => cases hafter
    | cons b behind =>
      have hbehind := Option.some.inj hafter
      by_cases hblank : isBlank b = true
      · rw [if_pos hblank] at hbehind
        exact ⟨name, [b], hbehind ▸ rfl, hne, hword, Or.inr ⟨b, rfl, hblank⟩⟩
      · rw [if_neg hblank] at hbehind
        exact ⟨name, [], hbehind ▸ rfl, hne, hword, Or.inl rfl⟩
  · rintro ⟨name, gap, rfl, hne, hword, hgap⟩
    rw [afterArgName?_append hne hword]
    rcases hgap with rfl | ⟨b, rfl, hblank⟩
    · simp [isBlank_of_isReferenceChar hc]
    · simp [hblank]

theorem isFormulaHead_iff {cs : List Char} : isFormulaHead cs = true ↔ BeginsNamed cs := by
  rw [isFormulaHead]
  constructor
  · intro h
    split at h
    · rename_i c tail hafter
      obtain ⟨name, gap, rfl, hne, hword, hgap⟩ := (afterArgName?_eq_cons_iff h).mp hafter
      exact ⟨name, gap, c, tail, rfl, hne, hword, hgap, h⟩
    · cases h
  · rintro ⟨name, gap, c, rest, rfl, hne, hword, hgap, hc⟩
    rw [(afterArgName?_eq_cons_iff hc).mpr ⟨name, gap, rfl, hne, hword, hgap⟩]
    exact hc

/-- The whole text between the first and the last parenthesis is the argument. -/
private theorem readArgument_parenthesised (cs : List Char) :
    readArgument ('(' :: (cs ++ [')'])) = some (trim cs) := by
  have hcut : cutLast? ')' (cs ++ [')']) = some (cs, []) :=
    cutLast?_eq_some_iff.mpr ⟨rfl, List.not_mem_nil⟩
  rw [readArgument, hcut]
  rfl

/-- Whether a text ends neither a part of a token nor the token. -/
def InPart (cs : List Char) : Prop := ∀ c ∈ cs, c ≠ ';' ∧ c ≠ '}' ∧ c ≠ '\n'

instance (cs : List Char) : Decidable (InPart cs) := List.decidableBAll _ cs

private theorem InPart.semicolon_not_mem {cs : List Char} (h : InPart cs) : ';' ∉ cs :=
  fun hmem => (h _ hmem).1 rfl

/-- A call of an operator of the table. -/
structure Call where
  name : String
  rule : ArgumentRule
  listed : operators.lookup name = some rule
  /-- What is written between the parentheses. -/
  text : List Char
  inPart : InPart text

namespace Call

/-- The part of a token that a call is written as. -/
def chars (call : Call) : List Char := call.name.toList ++ '(' :: (call.text ++ [')'])

/-- The argument of a call. -/
def argument (call : Call) : List Char := trim call.text

/-- Whether the argument should be a number and is none. -/
def isRefused (call : Call) : Bool := call.rule.refuses call.argument

/-- The operation that a call stands for. -/
def operation (call : Call) : Operation := call.rule.operation call.argument

/-- The notice about a call that is left out. -/
def refusal (call : Call) : Notice :=
  .argumentRefused call.name (String.ofList call.argument)

theorem plain (call : Call) : call.name ≠ "" ∧ ∀ c ∈ call.name.toList,
    isOperatorChar c = true ∧ isBlank c = false ∧ c ≠ ';' ∧ c ≠ '}' :=
  operatorNames_plain call.name (List.mem_map_of_mem (mem_operators_of_lookup call.listed))

private theorem inPart_chars (call : Call) : InPart call.chars := by
  intro c hc
  rw [chars, List.mem_append, List.mem_cons, List.mem_append, List.mem_singleton] at hc
  rcases hc with hname | rfl | htext | rfl
  · obtain ⟨-, hblank, hsemicolon, hclose⟩ := call.plain.2 c hname
    refine ⟨hsemicolon, hclose, ?_⟩
    rintro rfl
    exact absurd hblank (by decide)
  · decide
  · exact call.inPart c htext
  · decide

private theorem trim_chars (call : Call) : trim call.chars = call.chars := by
  obtain ⟨hne, hname⟩ := call.plain
  rw [chars]
  cases hchars : call.name.toList with
  | nil => exact absurd (String.toList_eq_nil_iff.mp hchars) hne
  | cons c cs =>
    rw [hchars] at hname
    have hfirst := (hname c (List.mem_cons_self ..)).2.1
    have hends : c :: cs ++ '(' :: (call.text ++ [')']) =
      c :: ((cs ++ '(' :: call.text) ++ [')']) := by simp
    rw [hends]
    exact trim_of_ends hfirst (by decide)

/-- A call is read as its operation, or dropped with a notice if its argument is refused. -/
private theorem readOperation_chars (call : Call) : readOperation call.chars =
    if call.isRefused then (none, [call.refusal]) else (some call.operation, []) := by
  obtain ⟨hne, hname⟩ := call.plain
  have hoperator : ∀ c ∈ call.name.toList, isOperatorChar c = true := fun c hc => (hname c hc).1
  have hopen : ¬ isOperatorChar '(' = true := by decide
  have htake : call.chars.takeWhile isOperatorChar = call.name.toList := by
    rw [chars, List.takeWhile_append_of_pos hoperator, List.takeWhile_cons_of_neg hopen,
      List.append_nil]
  have hdrop : call.chars.dropWhile isOperatorChar = '(' :: (call.text ++ [')']) := by
    rw [chars, List.dropWhile_append_of_pos hoperator, List.dropWhile_cons_of_neg hopen]
  have hsome : call.name.toList.isEmpty = false :=
    List.isEmpty_eq_false_iff.mpr fun h => hne (String.toList_eq_nil_iff.mp h)
  have htrim : trim call.name.toList = call.name.toList :=
    trim_of_not_isBlank fun c hc => (hname c hc).2.1
  simp only [readOperation, htake, hdrop, hsome, htrim, readArgument_parenthesised, operationOf_eq,
    String.ofList_toList, call.listed]
  rfl

end Call

/-- Whether a text in front of calls is read as a reference. -/
structure IsHead (cs : List Char) : Prop where
  ne_nil : cs ≠ []
  trim_eq : trim cs = cs
  inPart : InPart cs
  head_ne_brace : cs.head? ≠ some '{'
  head_ne_quote : cs.head? ≠ some '"'
  not_beginsNamed : ¬ BeginsNamed cs

/-- What is written between the braces of a token with a reference and calls. -/
def operatorForm (head : List Char) (calls : List Call) : List Char :=
  head ++ calls.flatMap fun call => ';' :: call.chars

/-- The operations of the calls that are not left out, in order. -/
def operationsOf (calls : List Call) : List Operation :=
  (calls.filter (!·.isRefused)).map Call.operation

/-- The notices about the calls that are left out, in order. -/
def refusalsOf (calls : List Call) : List Notice :=
  (calls.filter (·.isRefused)).map Call.refusal

private theorem intercalate_cons_eq (d : Char) (head : List Char) (parts : List (List Char)) :
    [d].intercalate (head :: parts) = head ++ parts.flatMap (d :: ·) := by
  induction parts generalizing head with
  | nil => simp
  | cons part parts ih => rw [List.intercalate_cons_cons, ih]; simp

/-- Parts that hold no separator are what is between the separators. -/
private theorem splitOn_append_flatMap {d : Char} {head : List Char} {parts : List (List Char)}
    (hhead : d ∉ head) (hparts : ∀ part ∈ parts, d ∉ part) :
    (head ++ parts.flatMap (d :: ·)).splitOn d = head :: parts := by
  rw [← intercalate_cons_eq]
  apply List.splitOn_intercalate
  · exact List.forall_mem_cons.mpr ⟨hhead, hparts⟩
  · exact List.cons_ne_nil head parts

/-- The parts of a token are its reference and its calls. -/
private theorem parts_operatorForm {head : List Char} (h : IsHead head) (calls : List Call) :
    ((operatorForm head calls).splitOn ';').map trim = head :: calls.map Call.chars := by
  have hparts : ∀ part ∈ calls.map Call.chars, ';' ∉ part := by
    intro part hpart
    obtain ⟨call, -, rfl⟩ := List.mem_map.mp hpart
    exact call.inPart_chars.semicolon_not_mem
  have hform : operatorForm head calls = head ++ (calls.map Call.chars).flatMap (';' :: ·) := by
    rw [operatorForm, List.flatMap_map]
  rw [hform, splitOn_append_flatMap h.inPart.semicolon_not_mem hparts, List.map_cons, h.trim_eq,
    List.map_map]
  simp [Call.trim_chars]

/-- Neither the token nor its line ends inside it. -/
private theorem ne_of_mem_operatorForm {head : List Char} (h : IsHead head) (calls : List Call) :
    ∀ c ∈ operatorForm head calls, c ≠ '}' ∧ c ≠ '\n' := by
  intro c hc
  rw [operatorForm, List.mem_append, List.mem_flatMap] at hc
  rcases hc with hhead | ⟨call, -, hcall⟩
  · exact (h.inPart c hhead).2
  · rcases List.mem_cons.mp hcall with rfl | hchars
    · decide
    · exact (call.inPart_chars c hchars).2

/-- Calls are read as their operations, and the refused ones are left out with a notice each. -/
private theorem read_calls (calls : List Call) :
    ((calls.map Call.chars).map readOperation).filterMap Prod.fst = operationsOf calls ∧
      ((calls.map Call.chars).map readOperation).flatMap Prod.snd = refusalsOf calls := by
  induction calls with
  | nil => exact ⟨rfl, rfl⟩
  | cons call calls ih =>
    obtain ⟨hops, hnotices⟩ := ih
    simp only [List.map_cons, List.filterMap_cons, List.flatMap_cons, call.readOperation_chars,
      hops, hnotices]
    cases hrefused : call.isRefused <;> simp [operationsOf, refusalsOf, hrefused]

private theorem ofInner_operatorForm {head : List Char} (h : IsHead head) (calls : List Call)
    (template : String) :
    ofInner template (operatorForm head calls) =
      ({ state := (Reference.ofChars head).state
         system := (Reference.ofChars head).system
         token := String.ofList (Piece.token (operatorForm head calls))
         operations := operationsOf calls
         template := template
         isSeconds := (Reference.ofChars head).isSeconds }, refusalsOf calls) := by
  obtain ⟨hops, hnotices⟩ := read_calls calls
  have hnamed : isFormulaHead head = false :=
    Bool.eq_false_iff.mpr fun hhead => h.not_beginsNamed (isFormulaHead_iff.mp hhead)
  have hsome : head.isEmpty = false := List.isEmpty_eq_false_iff.mpr h.ne_nil
  simp only [ofInner, parts_operatorForm h, hnamed, hsome, ofOperators, hops, hnotices]
  rfl

/-- A template of one token that is not skipped has the binding and the notices of the token. -/
private theorem parse_token {limit : Nat} {inner : List Char} (hlimit : 0 < limit)
    (hne : inner ≠ [])
    (hline : '\n' ∉ inner) (hclose : '}' ∉ inner) (hskipped : isSkipped inner = false) :
    parse limit (String.ofList (Piece.token inner)) =
      (some [(ofInner (String.ofList (Piece.token inner)) inner).1],
        (ofInner (String.ofList (Piece.token inner)) inner).2) := by
  have hshort : '}' ∉ inner.tail := fun h => hclose (List.mem_of_mem_tail h)
  have hfound : candidates (String.ofList (Piece.token inner)) = [inner] := by
    rw [candidates, String.toList_ofList, Piece.token, scan_braced hne hline hshort, scan_nil]
    rfl
  have htake : [inner].take limit = [inner] := List.take_of_length_le hlimit
  simp [parse, hfound, htake, hskipped, Nat.ne_of_gt hlimit]

private theorem IsHead.isSkipped_operatorForm {head : List Char} (h : IsHead head)
    (calls : List Call) :
    isSkipped (operatorForm head calls) = false := by
  have hhead : (operatorForm head calls).head? = head.head? := by
    rw [operatorForm]
    cases hcs : head with
    | nil => exact absurd hcs h.ne_nil
    | cons c rest => rfl
  rw [isSkipped, hhead]
  simp [h.head_ne_brace, h.head_ne_quote]

/-- Every call has its operation or its notice. -/
private theorem length_operationsOf_add (calls : List Call) :
    (operationsOf calls).length + (refusalsOf calls).length = calls.length := by
  have hcount := List.length_eq_countP_add_countP Call.isRefused (l := calls)
  rw [List.countP_eq_length_filter, List.countP_eq_length_filter] at hcount
  rw [operationsOf, refusalsOf, List.length_map, List.length_map, hcount, Nat.add_comm]
  simp

/-- A token with a reference and calls has one binding, with the operations of the calls in order.
The calls that should have a number and have none are left out, with a warning each. -/
theorem parse_operatorForm {limit : Nat} {head : List Char} (hlimit : 0 < limit) (h : IsHead head)
    (calls : List Call) :
    parse limit (String.ofList (Piece.token (operatorForm head calls))) =
        (some [{ state := (Reference.ofChars head).state
                 system := (Reference.ofChars head).system
                 token := String.ofList (Piece.token (operatorForm head calls))
                 operations := operationsOf calls
                 template := String.ofList (Piece.token (operatorForm head calls))
                 isSeconds := (Reference.ofChars head).isSeconds }], refusalsOf calls) ∧
      (∀ notice ∈ refusalsOf calls, notice.severity = .warning) ∧
      (operationsOf calls).length + (refusalsOf calls).length = calls.length := by
  have hinside := ne_of_mem_operatorForm h calls
  have hclose : '}' ∉ operatorForm head calls := fun hmem => (hinside _ hmem).1 rfl
  have hline : '\n' ∉ operatorForm head calls := fun hmem => (hinside _ hmem).2 rfl
  have hne : operatorForm head calls ≠ [] := by simp [operatorForm, h.ne_nil]
  refine ⟨?_, ?_, ?_⟩
  · rw [parse_token hlimit hne hline hclose (h.isSkipped_operatorForm calls),
      ofInner_operatorForm h calls]
  · intro notice hnotice
    obtain ⟨call, -, rfl⟩ := List.mem_map.mp hnotice
    rfl
  · exact length_operationsOf_add calls

/-- Calls of which the second has no number and the third has parentheses and a brace inside. -/
def nestedCalls : List Call :=
  [{ name := "*", rule := .number true (.arithmetic .multiply), listed := rfl
     text := ['2', ',', '5'], inPart := by decide },
   { name := "/", rule := .number true (.arithmetic .divide), listed := rfl
     text := [' ', 'x'], inPart := by decide },
   { name := "array", rule := .items, listed := rfl
     text := ['(', 'a', ')', ',', ' ', '{', 'b', ' '], inPart := by decide }]

/-- The template of `nestedCalls` behind a time stamp. -/
def nestedTemplate : String := "\x7bhall.temp.ts;*(2,5);/( x);array((a), \x7bb )\x7d"

theorem parse_operatorForm_nested :
    0 < 1 ∧ IsHead "hall.temp.ts".toList ∧
      parse 1 nestedTemplate =
        (some [{ state := "hall.temp.ts"
                 system := "hall.temp"
                 token := nestedTemplate
                 operations := [.arithmetic .multiply (some (argumentNumber ['2', '.', '5'])),
                   .array ["(a)", "\x7bb"]]
                 template := nestedTemplate
                 isSeconds := true }], [.argumentRefused "/" "x"]) := by
  have hhead : IsHead "hall.temp.ts".toList :=
    { ne_nil := by decide
      trim_eq := by decide
      inPart := by decide
      head_ne_brace := by decide
      head_ne_quote := by decide
      not_beginsNamed := mt isFormulaHead_iff.mpr (by decide) }
  have htemplate : String.ofList (Piece.token (operatorForm "hall.temp.ts".toList nestedCalls)) =
      nestedTemplate := by decide
  have hops : operationsOf nestedCalls =
      [.arithmetic .multiply (some (argumentNumber ['2', '.', '5'])), .array ["(a)", "\x7bb"]] := by
    decide +kernel
  have hrefusals : refusalsOf nestedCalls = [.argumentRefused "/" "x"] := by decide +kernel
  have hreference : Reference.ofChars "hall.temp.ts".toList =
      ⟨"hall.temp.ts", "hall.temp", true⟩ := by decide
  have hparse := (parse_operatorForm Nat.one_pos hhead nestedCalls).1
  rw [htemplate, hops, hrefusals, hreference] at hparse
  exact ⟨Nat.one_pos, hhead, hparse⟩

end Binding

end LiveText
