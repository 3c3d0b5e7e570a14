import Mathlib
import LiveText.Proofs.Json.Documents

/-!
# Written documents are read back

Both texts of a document, the compact one and the indented one, spell it with its members in key
order (`spells_chars`, `spells_indented`), so that both are read as that (`read_compact`,
`read_pretty`). This holds of every document that is nested within the limit and whose numbers are
read back one by one.
-/

namespace LiveText.Json

/-! ## Members in key order -/

mutual

/-- The document with the members of every object in key order; of two with one key the later
counts. -/
def inOrder : Json → Json
  | array items => array (itemsInOrder items)
  | object members => object (Members.ofList (membersInOrder members))
  | scalar => scalar

/-- The items with their members in key order. -/
def itemsInOrder : List Json → List Json
  | [] => []
  | item :: rest => inOrder item :: itemsInOrder rest

/-- The members with the members of their values in key order. -/
def membersInOrder : List (String × Json) → List (String × Json)
  | [] => []
  | (key, value) :: rest => (key, inOrder value) :: membersInOrder rest

end

theorem itemsInOrder_eq_map (items : List Json) : itemsInOrder items = items.map inOrder := by
  induction items with
  | nil => rfl
  | cons item rest ih => rw [itemsInOrder, ih, List.map_cons]

theorem membersInOrder_eq_map (members : List (String × Json)) :
    membersInOrder members = members.map fun m => (m.1, m.2.inOrder) := by
  induction members with
  | nil => rfl
  | cons m rest ih => rw [membersInOrder, ih, List.map_cons]

/-! ## Lists with commas -/

/-- Written parts with commas between them. -/
def commas {α : Type} (write : α → List Char) : List α → List Char
  | [] => []
  | [x] => write x
  | x :: y :: rest => write x ++ ',' :: commas write (y :: rest)

/-- What puts commas between the parts is `commas`. -/
theorem eq_commas {α : Type} {f : List α → List Char} {write : α → List Char} (hnil : f [] = [])
    (hone : ∀ x, f [x] = write x)
    (hmore : ∀ x y rest, f (x :: y :: rest) = write x ++ ',' :: f (y :: rest)) (xs : List α) :
    f xs = commas write xs := by
  induction xs with
  | nil => exact hnil
  | cons x rest ih =>
    cases rest with
    | nil => exact hone x
    | cons y rest => rw [hmore, ih, commas]

private theorem itemsChars_eq_commas (items : List Json) :
    itemsChars items = commas (fun j => [] ++ chars j) items :=
  eq_commas rfl (fun _ => rfl) (fun _ _ _ => rfl) items

private theorem membersChars_eq_commas (members : List (String × Json)) :
    membersChars members =
      commas (fun m => [] ++ (quote m.1.toList ++ ':' :: chars m.2)) members :=
  eq_commas rfl (fun _ => rfl) (fun _ _ _ => rfl) members

private theorem itemsIndented_eq_commas (level : Nat) (items : List Json) :
    itemsIndented level items = commas (fun j => newLine level ++ indented level j) items :=
  eq_commas rfl (fun _ => rfl) (fun _ _ _ => rfl) items

private theorem membersIndented_eq_commas (level : Nat) (members : List (String × Json)) :
    membersIndented level members =
      commas (fun m => newLine level ++ (quote m.1.toList ++ ':' :: ' ' :: indented level m.2))
        members := by
  refine eq_commas rfl (fun m => ?_) (fun m other rest => ?_) members
  · rw [membersIndented, List.append_assoc]
  · rw [membersIndented]
    · simp only [List.append_assoc]
    · exact List.cons_ne_nil other rest

/-- Spelled parts, each behind the same blanks, are listed with commas. -/
theorem listed_commas {α β : Type} {part : β → List Char → Prop} {f : α → β} {write : α → List Char}
    {before after : List Char} (hbefore : Blank before) (hafter : Blank after) {xs : List α}
    (hne : xs ≠ []) (hpart : ∀ x ∈ xs, part (f x) (write x)) :
    Listed part (xs.map f) (commas (fun x => before ++ write x) xs ++ after) := by
  induction xs with
  | nil => exact absurd rfl hne
  | cons x rest ih =>
    have hx : part (f x) (write x) := hpart x (List.mem_cons_self ..)
    cases rest with
    | nil =>
      rw [commas, List.append_assoc]
      exact .last hbefore hx hafter
    | cons y rest =>
      have hrest := ih (List.cons_ne_nil y rest) fun z hz => hpart z (List.mem_cons_of_mem x hz)
      rw [commas, List.append_assoc, List.append_assoc]
      exact .more hbefore hx blank_nil hrest

private theorem blank_newLine (level : Nat) : Blank (newLine level) := by
  intro c hc
  rcases List.mem_cons.mp hc with rfl | hc
  · rfl
  · rw [List.eq_of_mem_replicate hc]
    rfl

/-! ## Documents -/

/-- A document that is nested at most so many levels deep and whose numbers are read back. -/
def Faithful : Nat → Json → Prop
  | _, integer n => n.natAbs ≤ maxSignificand
  | _, real x => readNumber (Layout.json.chars x) = some (real x, [])
  | depth + 1, array items => ∀ item ∈ items, Faithful depth item
  | depth + 1, object members => ∀ m ∈ members, Faithful depth m.2
  | 0, array _ | 0, object _ => False
  | _, null | _, bool _ | _, string _ => True

/-- Whether a document holds no others. -/
def isScalar : Json → Bool
  | array _ | object _ => false
  | _ => true

/-- A document without parts has the same text at every level, and there is nothing to put in
order. -/
theorem scalar_scalarChars {depth : Nat} {j : Json} (h : Faithful depth j)
    (hj : j.isScalar = true) :
    Scalar j.inOrder j.scalarChars := by
  cases j with
  | null => exact .null
  | bool b => exact .bool b
  | integer n => exact .number (readNumber_integerChars (by cases depth <;> exact h))
  | real x => exact .number (by cases depth <;> exact h)
  | string s => exact .string s
  | array items => cases hj
  | object members => cases hj

private theorem chars_of_isScalar {j : Json} (hj : j.isScalar = true) :
    j.chars = j.scalarChars := by
  cases j <;> first | rfl | cases hj

private theorem indented_of_isScalar {j : Json} (hj : j.isScalar = true) (level : Nat) :
    j.indented level = j.scalarChars := by
  cases j <;> first | rfl | cases hj

private theorem isScalar_of_faithful_zero {j : Json} (h : Faithful 0 j) : j.isScalar = true := by
  cases j <;> first | rfl | cases h

/-- The compact text spells the document with its members in key order. -/
theorem spells_chars {depth : Nat} {j : Json} (h : Faithful depth j) :
    Spells depth j.inOrder j.chars := by
  induction depth generalizing j with
  | zero =>
    have hj := isScalar_of_faithful_zero h
    rw [chars_of_isScalar hj]
    exact scalar_scalarChars h hj
  | succ depth ih =>
    by_cases hj : j.isScalar = true
    · rw [chars_of_isScalar hj]
      exact .of_scalar (scalar_scalarChars h hj) _
    refine Or.inr ?_
    cases j with
    | array items =>
      rw [inOrder, chars, itemsInOrder_eq_map, itemsChars_eq_commas]
      by_cases hne : items = []
      · subst hne
        exact .emptyArray blank_nil
      · have hlisted := listed_commas blank_nil blank_nil hne fun item hitem => ih (h item hitem)
        rw [List.append_nil] at hlisted
        exact .array hlisted
    | object members =>
      rw [inOrder, chars, membersInOrder_eq_map, membersChars_eq_commas]
      by_cases hne : members = []
      · subst hne
        exact .emptyObject blank_nil
      · have hentry : ∀ m ∈ members, Entry (Spells depth) (m.1, m.2.inOrder)
            (quote m.1.toList ++ ':' :: chars m.2) := fun m hm =>
          .mk blank_nil blank_nil (ih (h m hm))
        have hlisted := listed_commas blank_nil blank_nil hne hentry
        rw [List.append_nil] at hlisted
        exact .object hlisted
    | _ => exact absurd rfl hj

/-- The indented text spells the document with its members in key order. -/
theorem spells_indented {depth : Nat} {j : Json} (h : Faithful depth j) (level : Nat) :
    Spells depth j.inOrder (j.indented level) := by
  induction depth generalizing j level with
  | zero =>
    have hj := isScalar_of_faithful_zero h
    rw [indented_of_isScalar hj]
    exact scalar_scalarChars h hj
  | succ depth ih =>
    by_cases hj : j.isScalar = true
    · rw [indented_of_isScalar hj]
      exact .of_scalar (scalar_scalarChars h hj) _
    refine Or.inr ?_
    cases j with
    | array items =>
      rw [inOrder, itemsInOrder_eq_map]
      by_cases hne : items = []
      · subst hne
        exact .emptyArray blank_nil
      · have hlisted := listed_commas (blank_newLine (level + 1)) (blank_newLine level) hne
          fun item hitem => ih (h item hitem) (level + 1)
        rw [indented, itemsIndented_eq_commas]
        · exact .array hlisted
        · exact hne
    | object members =>
      rw [inOrder, membersInOrder_eq_map]
      by_cases hne : members = []
      · subst hne
        exact .emptyObject blank_nil
      · have hblank : Blank [' '] := List.forall_mem_singleton.mpr rfl
        have hentry : ∀ m ∈ members, Entry (Spells depth) (m.1, m.2.inOrder)
            (quote m.1.toList ++ ':' :: ' ' :: indented (level + 1) m.2) := fun m hm =>
          .mk blank_nil hblank (ih (h m hm) (level + 1))
        have hlisted := listed_commas (blank_newLine (level + 1)) (blank_newLine level) hne hentry
        rw [indented, membersIndented_eq_commas]
        · exact .object hlisted
        · exact hne
    | _ => exact absurd rfl hj

/-- The compact text of a document is read as the document with its members in key order. -/
theorem read_compact {j : Json} (h : Faithful maxNesting j) : read j.compact = some j.inOrder := by
  have hread := readChars_of_spells (spells_chars h) blank_nil blank_nil
  rw [List.append_nil, List.nil_append] at hread
  rw [read, compact, String.toList_ofList, hread]

/-- The indented text of a document is read as the document with its members in key order. -/
theorem read_pretty {j : Json} (h : Faithful maxNesting j) : read j.pretty = some j.inOrder := by
  have hread := readChars_of_spells (spells_indented h 0) blank_nil blank_nil
  rw [List.append_nil, List.nil_append] at hread
  rw [read, pretty, String.toList_ofList, hread]

/-! ## Numbers -/

/-- A text of characters that stand in numbers. -/
def Numeric (cs : List Char) : Prop := ∀ c ∈ cs, isNumberChar c = true

theorem numeric_append {cs ds : List Char} : Numeric (cs ++ ds) ↔ Numeric cs ∧ Numeric ds :=
  List.forall_mem_append

theorem numeric_cons {c : Char} {cs : List Char} :
    Numeric (c :: cs) ↔ isNumberChar c = true ∧ Numeric cs := List.forall_mem_cons

theorem numeric_ofNat (n : Nat) : Numeric (Digits.ofNat 10 n) := fun _ hc =>
  Bool.or_eq_true_iff.mpr (Or.inl (Digits.isDigit_of_mem_ofNat hc))

theorem numeric_zeros (count : Nat) : Numeric (List.replicate count '0') := fun c hc => by
  rw [List.eq_of_mem_replicate hc]
  rfl

private theorem numeric_positional {pointZero : Bool} {digits : List Char} {point : Int}
    (h : Numeric digits) : Numeric (Layout.positional pointZero digits point) := by
  rw [Layout.positional]
  split_ifs
  · exact numeric_cons.mpr ⟨rfl, numeric_cons.mpr ⟨rfl, numeric_append.mpr ⟨numeric_zeros _, h⟩⟩⟩
  · have hpointZero : Numeric ['.', '0'] := numeric_cons.mpr ⟨rfl, numeric_zeros 1⟩
    exact numeric_append.mpr ⟨numeric_append.mpr ⟨h, numeric_zeros _⟩, hpointZero⟩
  · exact numeric_append.mpr ⟨numeric_append.mpr ⟨h, numeric_zeros _⟩, fun _ hc => nomatch hc⟩
  · exact numeric_append.mpr ⟨fun c hc => h c (List.mem_of_mem_take hc),
      numeric_cons.mpr ⟨rfl, fun c hc => h c (List.mem_of_mem_drop hc)⟩⟩

private theorem numeric_scientific {digits : List Char} {exponent : Int} (h : Numeric digits) :
    Numeric (Layout.scientific digits exponent) := by
  have hsign : isNumberChar (if exponent < 0 then '-' else '+') = true := by
    split_ifs
    · rfl
    · rfl
  have hpower : Numeric ('e' :: (if exponent < 0 then '-' else '+') ::
      Digits.ofNat 10 exponent.natAbs) :=
    numeric_cons.mpr ⟨rfl, numeric_cons.mpr ⟨hsign, numeric_ofNat _⟩⟩
  rw [Layout.scientific.eq_def]
  refine numeric_append.mpr ⟨?_, hpower⟩
  match digits with
  | [] => exact numeric_zeros 1
  | [d] => exact h
  | d :: e :: rest =>
    exact numeric_cons.mpr ⟨(numeric_cons.mp h).1, numeric_cons.mpr ⟨rfl, (numeric_cons.mp h).2⟩⟩

/-- A finite number is written in characters of numbers. -/
theorem numeric_chars (l : Layout) {x : Double} (h : x.isFinite = true) : Numeric (l.chars x) := by
  obtain ⟨negative, units, _, rfl⟩ := Double.exists_finite_eq h
  have hdecimal : Numeric (l.decimalText (Decimal.shortest l.tie units)) := by
    rw [Layout.decimalText]
    split_ifs
    · exact numeric_positional (numeric_ofNat _)
    · exact numeric_scientific (numeric_ofNat _)
  rw [Layout.chars]
  split_ifs
  · exact numeric_cons.mpr ⟨rfl, hdecimal⟩
  · exact hdecimal

/-- What is read from a text of such characters is read by the reader of numbers. -/
private theorem readNumber_of_read {cs : List Char} {j : Json} (hcs : Numeric cs)
    (h : read (String.ofList cs) = some j) : readNumber cs = some (j, []) := by
  rw [read, String.toList_ofList, readChars] at h
  cases cs with
  | nil => cases h
  | cons c tail =>
    rw [readValue_number _ (numeric_cons.mp hcs).1] at h
    split at h
    case h_2 => cases h
    rename_i j' rest hnumber
    split_ifs at h with hrest
    have hblank : ∀ d ∈ rest, isSpace d = true :=
      List.dropWhile_eq_nil_iff.mp (List.isEmpty_iff.mp hrest)
    have hempty : rest = [] := List.eq_nil_iff_forall_not_mem.mpr fun d hd => by
      have hnumeric := hcs d ((frontReader_readNumber.suffix hnumber).subset hd)
      exact Bool.false_ne_true ((isSpace_of_isNumberChar hnumeric).symm.trans (hblank d hd))
    rw [hnumber, hempty, Option.some.inj h]

theorem faithful_null (depth : Nat) : Faithful depth null := by
  cases depth <;> trivial

theorem faithful_bool (depth : Nat) (b : Bool) : Faithful depth (bool b) := by
  cases depth <;> trivial

theorem faithful_string (depth : Nat) (s : String) : Faithful depth (string s) := by
  cases depth <;> trivial

/-- The document of a number is read back if its text is where the number is finite. -/
theorem faithful_ofDouble {x : Double}
    (h : x.isFinite = true → read (real x).compact = some (real x)) (depth : Nat) :
    Faithful depth (ofDouble x) := by
  rw [ofDouble]
  split_ifs with hfinite
  · have hnumber := readNumber_of_read (numeric_chars .json hfinite) (h hfinite)
    cases depth <;> exact hnumber
  · exact faithful_null depth

/-- The number of a document that is one, other than an integer. -/
def real? : Json → Option Double
  | real x => some x
  | _ => none

theorem eq_real_of_real? {j : Option Json} {x : Double} (h : j.bind real? = some x) :
    j = some (real x) := by
  obtain ⟨document, rfl, hreal⟩ := Option.bind_eq_some_iff.mp h
  cases document with
  | real y => exact congrArg (fun x => some (real x)) (Option.some.inj hreal)
  | _ => cases hreal

end LiveText.Json
