import Mathlib
import LiveText.Proofs.Json.Scalars

/-!
# Documents with blanks between their parts

`Spells` says which texts spell a document, with any blanks between its parts and with at most so
many levels of nesting. Every text that spells a document is read as it, and no more of the text is
taken (`readValue_of_spells`).
-/

namespace LiveText.Json

/-! ## Blanks -/

/-- A text of blanks. -/
def Blank (cs : List Char) : Prop := ∀ c ∈ cs, isSpace c = true

theorem blank_nil : Blank [] := fun _ h => nomatch h

private theorem skipSpace_append {blanks : List Char} (h : Blank blanks) (cs : List Char) :
    skipSpace (blanks ++ cs) = skipSpace cs := by
  rw [skipSpace, List.dropWhile_append_of_pos h, skipSpace]

private theorem skipSpace_cons {c : Char} (h : isSpace c = false) (cs : List Char) :
    skipSpace (c :: cs) = c :: cs :=
  List.dropWhile_cons_of_neg (Bool.eq_false_iff.mp h)

/-- The character behind blanks is what a reader goes on with. -/
theorem skipSpace_append_cons {blanks : List Char} (h : Blank blanks) {c : Char}
    (hc : isSpace c = false) (cs : List Char) : skipSpace (blanks ++ c :: cs) = c :: cs := by
  rw [skipSpace_append h, skipSpace_cons hc]

theorem Blank.ends {blanks rest : List Char} (h : Blank blanks) (hrest : Ends rest) :
    Ends (blanks ++ rest) := by
  cases blanks with
  | nil => exact hrest
  | cons c blanks =>
    have hc : isSpace c = true := h c (List.mem_cons_self ..)
    rw [List.cons_append, ends_cons]
    simp only [isSpace, Bool.or_eq_true, decide_eq_true_eq] at hc
    rcases hc with ((rfl | rfl) | rfl) | rfl <;> rfl

/-! ## Spelled documents -/

/-- A text that spells a document without parts. -/
inductive Scalar : Json → List Char → Prop
  | null : Scalar .null "null".toList
  | bool (b : Bool) : Scalar (.bool b) (if b then "true" else "false").toList
  | number {j : Json} {cs : List Char} : readNumber cs = some (j, []) → Scalar j cs
  | string (s : String) : Scalar (.string s) (quote s.toList)

/-- A text of one or more parts with commas between them and blanks around each. -/
inductive Listed {α : Type} (part : α → List Char → Prop) : List α → List Char → Prop
  | last {x : α} {cs before after : List Char} : Blank before → part x cs → Blank after →
    Listed part [x] (before ++ (cs ++ after))
  | more {x : α} {xs : List α} {cs ds before after : List Char} : Blank before → part x cs →
    Blank after → Listed part xs ds → Listed part (x :: xs) (before ++ (cs ++ (after ++ ',' :: ds)))

/-- A text that spells a member of an object, given the texts that spell its value. -/
inductive Entry (part : Json → List Char → Prop) : String × Json → List Char → Prop
  | mk {key : String} {value : Json} {cs before after : List Char} : Blank before → Blank after →
    part value cs → Entry part (key, value) (quote key.toList ++ (before ++ ':' :: (after ++ cs)))

/-- A text that spells an array or an object, given the texts that spell the parts. -/
inductive Compound (part : Json → List Char → Prop) : Json → List Char → Prop
  | emptyArray {blanks : List Char} :
      Blank blanks → Compound part (.array []) ('[' :: (blanks ++ [']']))
  | array {items : List Json} {cs : List Char} : Listed part items cs →
    Compound part (.array items) ('[' :: (cs ++ [']']))
  | emptyObject {blanks : List Char} :
      Blank blanks → Compound part (.object []) ('{' :: (blanks ++ ['}']))
  | object {members : List (String × Json)} {cs : List Char} : Listed (Entry part) members cs →
    Compound part (.object (Members.ofList members)) ('{' :: (cs ++ ['}']))

/-- A text that spells a document with at most so many levels of nesting. -/
def Spells : Nat → Json → List Char → Prop
  | 0, j, cs => Scalar j cs
  | depth + 1, j, cs => Scalar j cs ∨ Compound (Spells depth) j cs

theorem Spells.of_scalar {j : Json} {cs : List Char} (h : Scalar j cs) (depth : Nat) :
    Spells depth j cs := by
  cases depth with
  | zero => exact h
  | succ depth => exact Or.inl h

/-! ## Reading -/

theorem readValue_append {blanks : List Char} (h : Blank blanks) (depth : Nat) (cs : List Char) :
    readValue depth (blanks ++ cs) = readValue depth cs := by
  rw [readValue.eq_def, readValue.eq_def depth cs]
  dsimp only
  rw [skipSpace_append h]

private theorem readValue_quote (depth : Nat) (cs : List Char) :
    readValue depth ('"' :: cs) =
      (readQuoted cs).map fun (s, after) => (.string (String.ofList s), after) := by
  cases depth <;> rfl

private theorem readValue_array (depth : Nat) (cs : List Char) :
    readValue (depth + 1) ('[' :: cs) =
      match skipSpace cs with
      | ']' :: after => some (.array [], after)
      | rest => (readItems (readValue depth) (rest.length + 1) rest).map fun (items, after) =>
        (.array items, after) := rfl

private theorem readValue_object (depth : Nat) (cs : List Char) :
    readValue (depth + 1) ('{' :: cs) =
      match skipSpace cs with
      | '}' :: after => some (.object [], after)
      | rest => (readMembers (readValue depth) (rest.length + 1) rest).map fun (members, after) =>
        (.object (Members.ofList members), after) := rfl

private theorem ne_of_isNumberChar {c d : Char} (hc : isNumberChar c = true)
    (hd : isNumberChar d = false) :
    c ≠ d := by
  rintro rfl
  exact Bool.false_ne_true (hd.symm.trans hc)

theorem isSpace_of_isNumberChar {c : Char} (h : isNumberChar c = true) : isSpace c = false := by
  have hblank : c ≠ ' ' := ne_of_isNumberChar h rfl
  have hline : c ≠ '\n' := ne_of_isNumberChar h rfl
  have htab : c ≠ '\t' := ne_of_isNumberChar h rfl
  have hreturn : c ≠ '\r' := ne_of_isNumberChar h rfl
  simp [isSpace, hblank, hline, htab, hreturn]

theorem readValue_number (depth : Nat) {c : Char} (hc : isNumberChar c = true) (cs : List Char) :
    readValue depth (c :: cs) = readNumber (c :: cs) := by
  rw [readValue.eq_def]
  dsimp only
  rw [skipSpace_cons (isSpace_of_isNumberChar hc)]
  split
  case h_1 heq => cases heq
  case h_8 => rfl
  all_goals
    rename_i heq
    exact absurd (List.cons.inj heq).1 (ne_of_isNumberChar hc rfl)

/-- A number begins with a character of numbers. -/
theorem exists_of_readNumber {cs rest : List Char} {j : Json} (h : readNumber cs = some (j, rest)) :
    ∃ c tail, cs = c :: tail ∧ isNumberChar c = true := by
  cases cs with
  | nil => cases h
  | cons c tail =>
    refine ⟨c, tail, rfl, ?_⟩
    by_cases hminus : c = '-'
    · rw [hminus]
      rfl
    · refine Decidable.by_contra fun hc => ?_
      have hdigit : ¬ c.isDigit = true := fun hdigit => hc (Bool.or_eq_true_iff.mpr (Or.inl hdigit))
      rw [readNumber_of_ne hminus, readUnsigned, List.takeWhile_cons_of_neg hdigit] at h
      cases h

private theorem readValue_scalar {j : Json} {cs rest : List Char} (h : Scalar j cs)
    (hends : Ends rest) (depth : Nat) : readValue depth (cs ++ rest) = some (j, rest) := by
  cases h with
  | null => cases depth <;> rfl
  | bool b =>
    cases b with
    | false => cases depth <;> rfl
    | true => cases depth <;> rfl
  | number h =>
    obtain ⟨c, tail, rfl, hc⟩ := exists_of_readNumber h
    rw [List.cons_append, readValue_number depth hc, ← List.cons_append, readNumber_append h hends]
  | string s =>
    rw [quote, List.cons_append, List.append_assoc, readValue_quote, List.singleton_append,
      readQuoted_quoted, Option.map_some]
    exact congrArg (fun s => some (Json.string s, rest)) (String.ofList_toList ..)

/-! ### Lists of parts -/

/-- A text begins with a character that is no blank and closes nothing. -/
def Opens (cs : List Char) : Prop :=
  ∃ c tail, cs = c :: tail ∧ isSpace c = false ∧ c ≠ ']' ∧ c ≠ '}'

private theorem opens_quote (cs : List Char) : Opens (quote cs) :=
  ⟨_, _, rfl, rfl, by decide, by decide⟩

private theorem Scalar.opens {j : Json} {cs : List Char} (h : Scalar j cs) : Opens cs := by
  cases h with
  | null => exact ⟨_, _, rfl, rfl, by decide, by decide⟩
  | bool b =>
    cases b with
    | false => exact ⟨_, _, rfl, rfl, by decide, by decide⟩
    | true => exact ⟨_, _, rfl, rfl, by decide, by decide⟩
  | number h =>
    obtain ⟨c, tail, rfl, hc⟩ := exists_of_readNumber h
    exact ⟨c, tail, rfl, isSpace_of_isNumberChar hc, ne_of_isNumberChar hc rfl,
      ne_of_isNumberChar hc rfl⟩
  | string s => exact opens_quote s.toList

private theorem Spells.opens {depth : Nat} {j : Json} {cs : List Char} (h : Spells depth j cs) :
    Opens cs := by
  cases depth with
  | zero => exact Scalar.opens h
  | succ depth =>
    rcases h with hscalar | hcompound
    · exact hscalar.opens
    · cases hcompound <;> exact ⟨_, _, rfl, rfl, by decide, by decide⟩

private theorem Entry.opens {part : Json → List Char → Prop} {m : String × Json} {cs : List Char}
    (h : Entry part m cs) : Opens cs := by
  cases h with
  | mk => exact ⟨_, _, rfl, rfl, by decide, by decide⟩

/-- Behind the blanks in front of a list comes its first part. -/
theorem Listed.skipSpace {α : Type} {part : α → List Char → Prop} {xs : List α} {cs : List Char}
    (h : Listed part xs cs) (hopens : ∀ x cs, part x cs → Opens cs) (rest : List Char) :
    ∃ c tail, skipSpace (cs ++ rest) = c :: tail ++ rest ∧ c ≠ ']' ∧ c ≠ '}' ∧
      Listed part xs (c :: tail) := by
  cases h with
  | @last x cs before after hbefore hpart hafter =>
    obtain ⟨c, tail, rfl, hspace, hbracket, hbrace⟩ := hopens x cs hpart
    refine ⟨c, tail ++ after, ?_, hbracket, hbrace, .last blank_nil hpart hafter⟩
    rw [List.append_assoc, skipSpace_append hbefore]
    exact skipSpace_cons hspace _
  | @more x xs cs ds before after hbefore hpart hafter hmore =>
    obtain ⟨c, tail, rfl, hspace, hbracket, hbrace⟩ := hopens x cs hpart
    refine ⟨c, tail ++ (after ++ ',' :: ds), ?_, hbracket, hbrace,
      .more blank_nil hpart hafter hmore⟩
    rw [List.append_assoc, skipSpace_append hbefore]
    exact skipSpace_cons hspace _

/-- A reader of one document reads every text that spells it, behind blanks and in front of anything
that does not continue it. -/
def Reads (item : Reader) (part : Json → List Char → Prop) : Prop :=
  ∀ {j : Json} {cs blanks rest : List Char}, part j cs → Blank blanks → Ends rest →
    item (blanks ++ (cs ++ rest)) = some (j, rest)

section Lists

variable {item : Reader} {part : Json → List Char → Prop} (hitem : Reads item part)
include hitem

private theorem readItems_listed {items : List Json} {cs : List Char} (h : Listed part items cs)
    {bound : Nat} (hbound : cs.length < bound) (rest : List Char) :
    readItems item bound (cs ++ ']' :: rest) = some (items, rest) := by
  induction h generalizing bound with
  | @last x cs before after hbefore hpart hafter =>
    obtain ⟨bound, rfl⟩ := Nat.exists_eq_add_one_of_ne_zero (Nat.ne_zero_of_lt hbound)
    have hends : Ends (after ++ ']' :: rest) := hafter.ends (ends_cons.mpr rfl)
    rw [List.append_assoc, List.append_assoc, readItems, hitem hpart hbefore hends]
    dsimp only
    rw [skipSpace_append_cons hafter rfl]
    rfl
  | @more x xs cs ds before after hbefore hpart hafter hmore ih =>
    obtain ⟨bound, rfl⟩ := Nat.exists_eq_add_one_of_ne_zero (Nat.ne_zero_of_lt hbound)
    have hends : Ends (after ++ ',' :: (ds ++ ']' :: rest)) := hafter.ends (ends_cons.mpr rfl)
    have hlength : ds.length < bound := by
      simp only [List.length_append, List.length_cons] at hbound
      omega
    have hmap :
        (readItems item bound (ds ++ ']' :: rest)).map (fun (xs, after) => (x :: xs, after)) =
        some (x :: xs, rest) := by rw [ih hlength, Option.map_some]
    rw [List.append_assoc, List.append_assoc, List.append_assoc, List.cons_append, readItems,
      hitem hpart hbefore hends]
    dsimp only
    rw [skipSpace_append_cons hafter rfl]
    exact hmap

/-- What is read behind a member: a comma and more of them, or the end. -/
def readMore (item : Reader) (bound : Nat) (m : String × Json) (cs : List Char) :
    Option (List (String × Json) × List Char) :=
  match skipSpace cs with
  | ',' :: rest => (readMembers item bound rest).map fun (members, after) => (m :: members, after)
  | '}' :: rest => some ([m], rest)
  | _ => none

/-- One member is read, and what follows it decides whether there are more. -/
theorem readMembers_entry {m : String × Json} {cs before rest : List Char}
    (hentry : Entry part m cs) (hbefore : Blank before) (hends : Ends rest) (bound : Nat) :
    readMembers item (bound + 1) (before ++ (cs ++ rest)) = readMore item bound m rest := by
  cases hentry with
  | @mk key value cs behindKey behindColon hkey hcolon hvalue =>
    have hquoted : readQuoted (key.toList.flatMap escapeChar ++
        '"' :: (behindKey ++ ':' :: (behindColon ++ (cs ++ rest)))) =
        some (key.toList, behindKey ++ ':' :: (behindColon ++ (cs ++ rest))) := readQuoted_quoted ..
    have hitem : item (behindColon ++ (cs ++ rest)) = some (value, rest) :=
      hitem hvalue hcolon hends
    rw [quote, List.cons_append, List.cons_append, List.append_assoc, List.append_assoc,
      List.append_assoc, List.singleton_append, List.cons_append, List.append_assoc, readMembers,
      skipSpace_append_cons hbefore rfl]
    simp only [hquoted, skipSpace_append_cons hkey (rfl : isSpace ':' = false), hitem,
      String.ofList_toList]
    rfl

private theorem readMembers_listed {members : List (String × Json)} {cs : List Char}
    (h : Listed (Entry part) members cs) {bound : Nat} (hbound : cs.length < bound)
    (rest : List Char) :
    readMembers item bound (cs ++ '}' :: rest) = some (members, rest) := by
  induction h generalizing bound with
  | @last x cs before after hbefore hentry hafter =>
    obtain ⟨bound, rfl⟩ := Nat.exists_eq_add_one_of_ne_zero (Nat.ne_zero_of_lt hbound)
    have hends : Ends (after ++ '}' :: rest) := hafter.ends (ends_cons.mpr rfl)
    rw [List.append_assoc, List.append_assoc, readMembers_entry hitem hentry hbefore hends,
      readMore, skipSpace_append_cons hafter rfl]
    rfl
  | @more x xs cs ds before after hbefore hentry hafter hmore ih =>
    obtain ⟨bound, rfl⟩ := Nat.exists_eq_add_one_of_ne_zero (Nat.ne_zero_of_lt hbound)
    have hends : Ends (after ++ ',' :: (ds ++ '}' :: rest)) := hafter.ends (ends_cons.mpr rfl)
    have hlength : ds.length < bound := by
      simp only [List.length_append, List.length_cons] at hbound
      omega
    have hmap : (readMembers item bound (ds ++ '}' :: rest)).map
        (fun (xs, after) => (x :: xs, after)) = some (x :: xs, rest) := by
      rw [ih hlength, Option.map_some]
    rw [List.append_assoc, List.append_assoc, List.append_assoc, List.cons_append,
      readMembers_entry hitem hentry hbefore hends, readMore, skipSpace_append_cons hafter rfl]
    exact hmap

end Lists

/-- Every text that spells a document is read as it. -/
theorem reads_spells (depth : Nat) : Reads (readValue depth) (Spells depth) := by
  induction depth with
  | zero =>
    intro j cs blanks rest h hblanks hends
    rw [readValue_append hblanks, readValue_scalar h hends]
  | succ depth ih =>
    intro j cs blanks rest h hblanks hends
    rw [readValue_append hblanks]
    rcases h with hscalar | hcompound
    · rw [readValue_scalar hscalar hends]
    cases hcompound with
    | emptyArray hblank =>
      rw [List.cons_append, List.append_assoc, readValue_array, List.singleton_append,
        skipSpace_append_cons hblank rfl]
      rfl
    | @array items cs hlisted =>
      obtain ⟨c, tail, hskip, hbracket, -, htail⟩ :=
        hlisted.skipSpace (fun _ _ => Spells.opens) (']' :: rest)
      have hbound : (c :: tail).length < (c :: tail ++ ']' :: rest).length + 1 := by
        rw [List.length_append]
        omega
      rw [List.cons_append, List.append_assoc, readValue_array, List.singleton_append, hskip]
      split
      · rename_i heq
        exact absurd (List.cons.inj heq).1 hbracket
      · rw [readItems_listed ih htail hbound, Option.map_some]
    | emptyObject hblank =>
      rw [List.cons_append, List.append_assoc, readValue_object, List.singleton_append,
        skipSpace_append_cons hblank rfl]
      rfl
    | @object members cs hlisted =>
      obtain ⟨c, tail, hskip, -, hbrace, htail⟩ :=
        hlisted.skipSpace (fun _ _ => Entry.opens) ('}' :: rest)
      have hbound : (c :: tail).length < (c :: tail ++ '}' :: rest).length + 1 := by
        rw [List.length_append]
        omega
      rw [List.cons_append, List.append_assoc, readValue_object, List.singleton_append, hskip]
      split
      · rename_i heq
        exact absurd (List.cons.inj heq).1 hbrace
      · rw [readMembers_listed ih htail hbound, Option.map_some]

/-- A text that spells a document within the limit of nesting is read as it, also with blanks around
it. -/
theorem readChars_of_spells {j : Json} {cs before after : List Char} (h : Spells maxNesting j cs)
    (hbefore : Blank before) (hafter : Blank after) :
    readChars (before ++ (cs ++ after)) = some j := by
  have hends : Ends after := List.append_nil after ▸ hafter.ends ends_nil
  have hskip : skipSpace after = [] := List.dropWhile_eq_nil_iff.mpr hafter
  rw [readChars, reads_spells maxNesting h hbefore hends]
  dsimp only
  rw [hskip, List.isEmpty_nil, if_pos rfl]

end LiveText.Json
