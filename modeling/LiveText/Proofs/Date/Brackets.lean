import Mathlib.Data.List.Basic
import Mathlib.Data.List.Find
import LiveText.Date.Calendar
import LiveText.Proofs.Text.Occurrence

/-!
# Literal text in calendar patterns

A pattern may be cut in two where no bracket is open and no mark runs across the cut: its pieces are
those of the two parts (`scan_append`). Marks have no brackets, and the patterns of composed forms
close theirs, so both passes over a pattern keep literal text apart from what stands around it. What
a calendar shows of a literal between two patterns is the literal between what it shows of them:
`display_bracketed`.
-/

namespace LiveText

open Text

namespace PatternPiece

variable {α : Type} {table : List (α × List Char)} {p q : List Char}

/-! ## Closed patterns -/

/-- Whether every opening bracket of a pattern has a closing one behind it. -/
def ClosesAll : List Char → Prop
  | [] => True
  | c :: rest => (c = '[' → ']' ∈ rest) ∧ ClosesAll rest

/-- Whether a pattern is closed can be decided. -/
instance decidableClosesAll : (p : List Char) → Decidable (ClosesAll p)
  | [] => inferInstanceAs (Decidable True)
  | c :: rest =>
    have := decidableClosesAll rest
    inferInstanceAs (Decidable ((c = '[' → ']' ∈ rest) ∧ ClosesAll rest))

theorem closesAll_of_not_mem (h : '[' ∉ p) : ClosesAll p := by
  induction p with
  | nil => trivial
  | cons c p ih =>
    obtain ⟨hc, hp⟩ := not_or.mp (List.mem_cons.not.mp h)
    exact ⟨fun hopen => absurd hopen.symm hc, ih hp⟩

private theorem ClosesAll.append (hp : ClosesAll p) (hq : ClosesAll q) : ClosesAll (p ++ q) := by
  induction p with
  | nil => exact hq
  | cons c p ih => exact ⟨fun hc => List.mem_append_left q (hp.1 hc), ih hp.2⟩

theorem ClosesAll.suffix (h : ClosesAll q) (hp : p <:+ q) : ClosesAll p := by
  obtain ⟨front, rfl⟩ := hp
  induction front with
  | nil => exact h
  | cons c front ih => exact ih h.2

/-- A pattern that is not closed has a first bracket that stays open. -/
theorem exists_open (h : ¬ ClosesAll p) :
    ∃ front inner, p = front ++ '[' :: inner ∧ ClosesAll front ∧ ']' ∉ inner := by
  induction p with
  | nil => exact absurd trivial h
  | cons c p ih =>
    by_cases hopen : c = '[' ∧ ']' ∉ p
    · obtain ⟨rfl, hp⟩ := hopen
      exact ⟨[], p, rfl, trivial, hp⟩
    · have hfirst : c = '[' → ']' ∈ p := fun hc => by_contra fun hp => hopen ⟨hc, hp⟩
      obtain ⟨front, inner, rfl, hfront, hinner⟩ := ih fun hp => h ⟨hfirst, hp⟩
      refine ⟨c :: front, inner, rfl, ⟨fun hc => ?_, hfront⟩, hinner⟩
      have hmem := hfirst hc
      simpa [hinner] using hmem

/-- Whatever stands in front of a closing bracket, no bracket is open behind it. -/
private theorem closesAll_append_close (p : List Char) : ClosesAll (p ++ [']']) := by
  induction p with
  | nil => decide
  | cons c p ih => exact ⟨fun _ => List.mem_append_right p (List.mem_singleton_self _), ih⟩

/-- A literal in its brackets is closed. -/
theorem closesAll_literal (inner : List Char) : ClosesAll ('[' :: (inner ++ [']'])) :=
  closesAll_append_close ('[' :: inner)

private theorem closesAll_flatMap {β : Type} {items : List β} {f : β → List Char}
    (h : ∀ b ∈ items, ClosesAll (f b)) : ClosesAll (items.flatMap f) := by
  induction items with
  | nil => trivial
  | cons b items ih =>
    rw [List.flatMap_cons]
    exact (h b (by simp)).append (ih fun a ha => h a (by simp [ha]))

/-- What stands behind a literal is the end of the pattern. -/
theorem suffix_literal (inner after : List Char) : after <:+ '[' :: (inner ++ ']' :: after) :=
  ⟨'[' :: (inner ++ [']']), by simp⟩

/-! ## The first piece -/

theorem cutBracket?_eq_some_iff {c : Char} {rest inner after : List Char} :
    cutBracket? c rest = some (inner, after) ↔
      c = '[' ∧ rest = inner ++ ']' :: after ∧ ']' ∉ inner := by
  rw [cutBracket?, Option.ite_none_right_eq_some, cutFirst?_eq_some_iff]

/-- In front of a closed pattern a bracket begins a literal. -/
theorem ClosesAll.ne_open {c : Char} {rest : List Char} (h : ClosesAll (c :: rest))
    (hcut : cutBracket? c rest = none) : c ≠ '[' := by
  rintro rfl
  rw [cutBracket?, if_pos rfl, cutFirst?_eq_none_iff] at hcut
  exact hcut (h.1 rfl)

/-- The pieces of a pattern that begins with a literal. -/
theorem scan_literal {inner : List Char} (h : ']' ∉ inner) (q : List Char) :
    scan table ('[' :: (inner ++ ']' :: q)) = .bracketed inner :: scan table q := by
  have hcut : cutBracket? '[' (inner ++ ']' :: q) = some (inner, q) :=
    cutBracket?_eq_some_iff.mpr ⟨rfl, rfl, h⟩
  rw [scan]
  split <;> simp_all

/-- The pieces of a pattern that begins with a mark. -/
theorem scan_of_mark {c : Char} {rest text : List Char} {a : α} (hcut : cutBracket? c rest = none)
    (hmark : inFront? table (c :: rest) = some (a, text)) :
    scan table (c :: rest) = .mark a :: scan table (rest.drop (text.length - 1)) := by
  rw [scan]
  split <;> simp_all

/-- The pieces of a pattern that begins with neither. -/
theorem scan_of_plain {c : Char} {rest : List Char} (hcut : cutBracket? c rest = none)
    (hmark : inFront? table (c :: rest) = none) :
    scan table (c :: rest) = .plain c :: scan table rest := by
  rw [scan]
  split <;> simp_all

/-- A mark by itself is one piece. -/
theorem scan_mark {text : List Char} {a : α} (hopen : '[' ∉ text) (hne : text ≠ [])
    (hmark : inFront? table text = some (a, text)) : scan table text = [.mark a] := by
  cases text with
  | nil => exact absurd rfl hne
  | cons c rest =>
    have hc : c ≠ '[' := fun h => hopen (List.mem_cons.mpr (.inl h.symm))
    rw [scan_of_mark (if_neg hc) hmark, List.length_cons, Nat.add_sub_cancel, List.drop_length,
      scan]

/-- Whether a character opens no literal and begins no mark of a table. -/
def IsPlain (table : List (α × List Char)) (c : Char) : Prop :=
  c ≠ '[' ∧ ∀ entry ∈ table, entry.2 ≠ [] ∧ entry.2.head? ≠ some c

/-- Characters that begin nothing stand for themselves, whatever follows them. -/
theorem scan_plain_append (hp : ∀ c ∈ p, IsPlain table c) (q : List Char) :
    scan table (p ++ q) = p.map .plain ++ scan table q := by
  induction p with
  | nil => rfl
  | cons c p ih =>
    obtain ⟨hopen, hmarks⟩ := hp c (by simp)
    have hmark : inFront? table (c :: (p ++ q)) = none := by
      apply List.find?_eq_none.mpr
      intro entry he hpre
      obtain ⟨hne, hhead⟩ := hmarks entry he
      obtain ⟨d, ds, hentry⟩ := List.exists_cons_of_ne_nil hne
      rw [hentry] at hpre hhead
      exact hhead (congrArg some (List.cons_prefix_cons.mp (List.isPrefixOf_iff_prefix.mp hpre)).1)
    rw [List.cons_append, scan_of_plain (if_neg hopen) hmark, ih fun d hd => hp d (by simp [hd])]
    rfl

/-- The mark in front of a text begins it. -/
theorem prefix_of_inFront? {cs text : List Char} {a : α} (h : inFront? table cs = some (a, text)) :
    (a, text) ∈ table ∧ text <+: cs := by
  have hfind : table.find? (fun entry => entry.2.isPrefixOf cs) = some (a, text) := h
  have hprefix := List.find?_some hfind
  exact ⟨List.mem_of_find?_eq_some hfind, List.isPrefixOf_iff_prefix.mp hprefix⟩

/-! ## Cutting a pattern in two -/

/-- No mark that begins in a text runs past its end into what follows. -/
def EndsMarks (table : List (α × List Char)) (p q : List Char) : Prop :=
  ∀ entry ∈ table, ∀ c rest, c :: rest <:+ p → entry.2 <+: c :: rest ++ q → entry.2 <+: c :: rest

/-- Marks end in front of a character that they lack. -/
theorem endsMarks_cons {d : Char} (h : ∀ entry ∈ table, d ∉ entry.2) (p q : List Char) :
    EndsMarks table p (d :: q) :=
  fun entry he c rest _ hpre => prefix_of_prefix_append_cons (h entry he) (c :: rest) hpre

private theorem EndsMarks.suffix {r : List Char} (h : EndsMarks table p q) (hr : r <:+ p) :
    EndsMarks table r q :=
  fun entry he c rest hsuffix => h entry he c rest (hsuffix.trans hr)

/-- What follows does not change which mark stands in front. -/
theorem EndsMarks.inFront?_append {c : Char} {rest : List Char}
    (h : EndsMarks table (c :: rest) q) :
    inFront? table (c :: rest ++ q) = inFront? table (c :: rest) := by
  apply List.find?_congr
  intro entry he
  rw [Bool.eq_iff_iff, List.isPrefixOf_iff_prefix, List.isPrefixOf_iff_prefix]
  exact ⟨h entry he c rest (List.suffix_refl _), fun hpre => hpre.trans (List.prefix_append _ q)⟩

/-- The pieces of a pattern are those of its two parts if no bracket is open where it is cut and no
mark runs across the cut. -/
theorem scan_append (hp : ClosesAll p) (hmarks : EndsMarks table p q) :
    scan table (p ++ q) = scan table p ++ scan table q := by
  fun_induction scan table p with
  | case1 => rfl
  | case2 c rest inner after hcut ih =>
    obtain ⟨rfl, rfl, hinner⟩ := cutBracket?_eq_some_iff.mp hcut
    have hafter := suffix_literal inner after
    have hpattern : '[' :: (inner ++ ']' :: after) ++ q =
        '[' :: (inner ++ ']' :: (after ++ q)) := by
      simp
    rw [hpattern, scan_literal hinner, ih (hp.suffix hafter) (hmarks.suffix hafter)]
    rfl
  | case3 c rest hcut a text hmark ih =>
    have hne := hp.ne_open hcut
    have hrest : rest.drop (text.length - 1) <:+ c :: rest :=
      (List.drop_suffix _ rest).trans (List.suffix_cons c rest)
    have hlength : text.length - 1 ≤ rest.length := by
      have hle := (prefix_of_inFront? hmark).2.length_le
      rw [List.length_cons] at hle
      omega
    have hmark' : inFront? table (c :: (rest ++ q)) = some (a, text) :=
      hmarks.inFront?_append.trans hmark
    rw [List.cons_append, scan_of_mark (if_neg hne) hmark', List.drop_append_of_le_length hlength,
      ih (hp.suffix hrest) (hmarks.suffix hrest)]
    rfl
  | case4 c rest hcut hmark ih =>
    have hne := hp.ne_open hcut
    have hrest := List.suffix_cons c rest
    have hmark' : inFront? table (c :: (rest ++ q)) = none := hmarks.inFront?_append.trans hmark
    rw [List.cons_append, scan_of_plain (if_neg hne) hmark',
      ih (hp.suffix hrest) (hmarks.suffix hrest)]
    rfl

/-- The bracket of a closed pattern never stands for itself. -/
private theorem plain_open_not_mem_scan (hp : ClosesAll p) : .plain '[' ∉ scan table p := by
  fun_induction scan table p with
  | case1 => simp
  | case2 c rest inner after hcut ih =>
    obtain ⟨rfl, rfl, -⟩ := cutBracket?_eq_some_iff.mp hcut
    simpa using ih (hp.suffix (suffix_literal inner after))
  | case3 c rest hcut a text hmark ih =>
    have hrest : rest.drop (text.length - 1) <:+ c :: rest :=
      (List.drop_suffix _ rest).trans (List.suffix_cons c rest)
    simpa using ih (hp.suffix hrest)
  | case4 c rest hcut hmark ih =>
    have hne := hp.ne_open hcut
    simpa [hne.symm] using ih (hp.suffix (List.suffix_cons c rest))

end PatternPiece

namespace Calendar

open PatternPiece

variable {p inner : List Char}

/-! ## The two passes -/

theorem longForms_lack_brackets :
    ∀ entry ∈ LongForm.table, entry.2 ≠ [] ∧ '[' ∉ entry.2 ∧ ']' ∉ entry.2 := by
  decide

theorem fields_lack_brackets :
    ∀ entry ∈ CalendarField.table, entry.2 ≠ [] ∧ '[' ∉ entry.2 ∧ ']' ∉ entry.2 := by
  decide

/-- The patterns of composed forms are closed. -/
theorem closesAll_pattern (l : Locale) (form : LongForm) : ClosesAll (l.pattern form).toList := by
  cases l <;> cases form <;> decide

theorem closesAll_expandPiece (l : Locale) (hp : ClosesAll p) :
    ∀ piece ∈ scan LongForm.table p, ClosesAll (expandPiece l piece) := by
  intro piece hpiece
  cases piece with
  | bracketed inner => exact closesAll_literal inner
  | mark form => exact closesAll_pattern l form
  | plain c =>
    have hc : c ≠ '[' := by
      rintro rfl
      exact plain_open_not_mem_scan hp hpiece
    exact closesAll_of_not_mem (List.mem_singleton.not.mpr hc.symm)

/-- A closed pattern is closed with its composed forms replaced. -/
theorem closesAll_expand (l : Locale) (hp : ClosesAll p) : ClosesAll (expand l p) :=
  closesAll_flatMap (closesAll_expandPiece l hp)

/-- Composed forms are replaced apart in the two parts of a pattern. -/
theorem expand_append {q : List Char} (l : Locale) (hp : ClosesAll p)
    (hmarks : EndsMarks LongForm.table p q) : expand l (p ++ q) = expand l p ++ expand l q := by
  rw [expand, scan_append hp hmarks, List.flatMap_append]
  rfl

theorem renderFields_append {q : List Char} (l : Locale) (t : LocalTime) (hp : ClosesAll p)
    (hmarks : EndsMarks CalendarField.table p q) :
    renderFields l t (p ++ q) = renderFields l t p ++ renderFields l t q := by
  rw [renderFields, scan_append hp hmarks, List.flatMap_append]
  rfl

private theorem expand_literal (l : Locale) (h : ']' ∉ inner) (q : List Char) :
    expand l ('[' :: (inner ++ ']' :: q)) = '[' :: (inner ++ ']' :: expand l q) := by
  rw [expand, scan_literal h, List.flatMap_cons, expandPiece]
  simp [expand]

private theorem renderFields_literal (l : Locale) (t : LocalTime)
    (h : ']' ∉ inner) (q : List Char) :
    renderFields l t ('[' :: (inner ++ ']' :: q)) = inner ++ renderFields l t q := by
  rw [renderFields, scan_literal h, List.flatMap_cons]
  rfl

/-! ## What is shown -/

variable (c : Calendar) (t : Instant)

/-- A literal is shown as it is, in front of what follows it. -/
theorem chars_literal (h : ']' ∉ inner) (q : List Char) :
    c.chars t ('[' :: (inner ++ ']' :: q)) = inner ++ c.chars t q := by
  rw [chars, expand_literal c.locale h, renderFields_literal _ _ h]
  rfl

/-- A literal between two patterns, the first of which leaves no bracket open, is shown as it is,
between what is shown of each pattern. -/
theorem chars_append_literal (hp : ClosesAll p) (h : ']' ∉ inner) (q : List Char) :
    c.chars t (p ++ '[' :: (inner ++ ']' :: q)) = c.chars t p ++ (inner ++ c.chars t q) := by
  have hforms := endsMarks_cons (fun entry he => (longForms_lack_brackets entry he).2.1) p
  have hfields := endsMarks_cons (fun entry he => (fields_lack_brackets entry he).2.1)
    (expand c.locale p)
  have hexpand : expand c.locale (p ++ '[' :: (inner ++ ']' :: q)) =
      expand c.locale p ++ '[' :: (inner ++ ']' :: expand c.locale q) := by
    rw [expand_append c.locale hp (hforms _), expand_literal c.locale h]
  rw [chars, hexpand, renderFields_append _ _ (closesAll_expand c.locale hp) (hfields _),
    renderFields_literal _ _ h]
  rfl

/-- A closing bracket that closes nothing is shown as it is, between what is shown around it. -/
theorem chars_append_close (hp : ClosesAll p) (q : List Char) :
    c.chars t (p ++ ']' :: q) = c.chars t p ++ ']' :: c.chars t q := by
  have hforms : ∀ d ∈ [']'], IsPlain LongForm.table d := by
    simp only [List.mem_singleton, forall_eq]
    exact ⟨by decide, by decide⟩
  have hfields : ∀ d ∈ [']'], IsPlain CalendarField.table d := by
    simp only [List.mem_singleton, forall_eq]
    exact ⟨by decide, by decide⟩
  have hexpand : expand c.locale (']' :: q) = ']' :: expand c.locale q := by
    rw [expand, ← List.singleton_append, scan_plain_append hforms]
    rfl
  have hrender (r : List Char) : renderFields c.locale (c.zone.localize t) (']' :: r) =
      ']' :: renderFields c.locale (c.zone.localize t) r := by
    rw [renderFields, ← List.singleton_append, scan_plain_append hfields]
    rfl
  have hends := endsMarks_cons (fun entry he => (longForms_lack_brackets entry he).2.2) p
  have hendsExpanded := endsMarks_cons (fun entry he => (fields_lack_brackets entry he).2.2)
    (expand c.locale p)
  rw [chars, expand_append c.locale hp (hends _), hexpand,
    renderFields_append _ _ (closesAll_expand c.locale hp) (hendsExpanded _), hrender]
  rfl

/-- Literal text between two patterns, the first without an opening bracket, is shown as it is,
between what is shown of each pattern. -/
theorem display_bracketed {p inner : String} (hp : '[' ∉ p.toList) (hinner : ']' ∉ inner.toList)
    (q : String) :
    c.display t (p ++ "[" ++ inner ++ "]" ++ q) = c.display t p ++ inner ++ c.display t q := by
  have htext : (p ++ "[" ++ inner ++ "]" ++ q).toList =
      p.toList ++ '[' :: (inner.toList ++ ']' :: q.toList) := by
    simp
  rw [display, htext, chars_append_literal c t (closesAll_of_not_mem hp) hinner,
    String.ofList_append, String.ofList_append, String.ofList_toList, ← String.append_assoc]
  rfl

/-- A literal that spells a composed form and a weekday, between a composed form that brings a
literal of its own and a weekday, fourteen hours to the east, where the next day begins. -/
theorem display_bracketed_russian :
    let c : Calendar := ⟨.russian, .fixed ⟨50400, by decide⟩, ⟨0, 0⟩⟩
    '[' ∉ "LL ".toList ∧ ']' ∉ "LT dd".toList ∧
    c.display ⟨1709632800, 0⟩ ("LL " ++ "[" ++ "LT dd" ++ "]" ++ " dd[") =
      c.display ⟨1709632800, 0⟩ "LL " ++ "LT dd" ++ c.display ⟨1709632800, 0⟩ " dd[" ∧
    c.display ⟨1709632800, 0⟩ "LL [LT dd] dd[" = "6 март 2024 г. LT dd ср[" :=
  ⟨by decide, by decide, display_bracketed _ _ (by decide) (by decide) _, by decide +kernel⟩

end Calendar

end LiveText
