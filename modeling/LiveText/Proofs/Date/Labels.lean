import LiveText.Proofs.Date.Brackets
import LiveText.Proofs.Date.Civil
import LiveText.Proofs.Number.Digits

/-!
# Texts put into brackets

A text that is put into brackets ends at its first closing bracket; what comes behind that is read
as a pattern. The closing brackets that close nothing are counted on both sides: as many are shown
as stray ones are written (`count_renderFields`, `strays_expand`). So the text is shown as it is
exactly if its closing brackets stand at its end: `chars_label_iff`.
-/

namespace LiveText

open Text

namespace PatternPiece

variable {α : Type} {table : List (α × List Char)} {p q : List Char}

/-! ## Stray brackets -/

/-- The number of closing brackets of a pattern that close nothing; a literal may begin in front of
the pattern. -/
def strays : Bool → List Char → Nat
  | _, [] => 0
  | inside, c :: rest =>
    if inside then strays (c ≠ ']') rest
    else (if c = ']' then 1 else 0) + strays (c = '[') rest

private theorem strays_append_of_closed {inside : Bool} (hp : ClosesAll p)
    (hinside : inside = true → ']' ∈ p)
    (q : List Char) : strays inside (p ++ q) = strays inside p + strays false q := by
  induction p generalizing inside with
  | nil =>
    cases inside with
    | false => simp [strays]
    | true => exact absurd (hinside rfl) (by simp)
  | cons c p ih =>
    cases inside with
    | false =>
      have hrest : decide (c = '[') = true → ']' ∈ p := fun hc => hp.1 (of_decide_eq_true hc)
      rw [List.cons_append, strays, strays, if_neg Bool.false_ne_true, if_neg Bool.false_ne_true,
        ih hp.2 hrest, Nat.add_assoc]
    | true =>
      have hrest : decide (c ≠ ']') = true → ']' ∈ p := by
        intro hc
        have hne := of_decide_eq_true hc
        exact (List.mem_cons.mp (hinside rfl)).resolve_left fun h => hne h.symm
      rw [List.cons_append, strays, strays, if_pos rfl, if_pos rfl, ih hp.2 hrest]

theorem strays_append (hp : ClosesAll p) (q : List Char) :
    strays false (p ++ q) = strays false p + strays false q :=
  strays_append_of_closed hp (fun h => absurd h Bool.false_ne_true) q

theorem strays_le_count (inside : Bool) (p : List Char) : strays inside p ≤ p.count ']' := by
  induction p generalizing inside with
  | nil => simp [strays]
  | cons c p ih =>
    rw [strays, List.count_cons]
    have hfalse := ih false
    have hopen := ih (c = '[')
    have hclose := ih (c ≠ ']')
    grind

/-- A literal that is closed takes a closing bracket. -/
private theorem strays_lt_count_of_inside (h : ']' ∈ p) : strays true p < p.count ']' := by
  induction p with
  | nil => cases h
  | cons c p ih =>
    rw [strays, if_pos rfl, List.count_cons]
    by_cases hc : c = ']'
    · have hle := strays_le_count false p
      subst hc
      simpa using Nat.lt_succ_of_le hle
    · have hlt := ih ((List.mem_cons.mp h).resolve_left fun h => hc h.symm)
      simpa [hc] using hlt

/-- In a closed pattern, an opening bracket takes a closing one. -/
theorem strays_lt_count (hp : ClosesAll p) (h : '[' ∈ p) : strays false p < p.count ']' := by
  induction p with
  | nil => cases h
  | cons c p ih =>
    rw [strays, if_neg Bool.false_ne_true, List.count_cons]
    by_cases hc : c = '['
    · subst hc
      simpa using strays_lt_count_of_inside (hp.1 rfl)
    · have hlt := ih hp.2 ((List.mem_cons.mp h).resolve_left fun h => hc h.symm)
      simp only [hc, decide_false]
      by_cases hclose : c = ']' <;> simp [hclose] <;> omega

theorem strays_literal (inner : List Char) (h : ']' ∉ inner) :
    strays false ('[' :: (inner ++ [']'])) = 0 := by
  have hlt := strays_lt_count (closesAll_literal inner) (by simp)
  have hcount : ('[' :: (inner ++ [']'])).count ']' = 1 := by
    simp [List.count_eq_zero.mpr h]
  rw [hcount] at hlt
  simpa using hlt

/-- The number of stray brackets, counted by pieces: each is a piece of its own. -/
theorem sum_scan {weight : PatternPiece α → Nat}
    (htable : ∀ entry ∈ table, entry.2 ≠ [] ∧ '[' ∉ entry.2 ∧ ']' ∉ entry.2)
    (hbracketed : ∀ inner, ']' ∉ inner → weight (.bracketed inner) = 0)
    (hmark : ∀ a, weight (.mark a) = 0)
    (hplain : ∀ c, weight (.plain c) = if c = ']' then 1 else 0) (hp : ClosesAll p) :
    ((scan table p).map weight).sum = strays false p := by
  fun_induction scan table p with
  | case1 => rfl
  | case2 c rest inner after hcut ih =>
    obtain ⟨rfl, rfl, hinner⟩ := cutBracket?_eq_some_iff.mp hcut
    have hpattern : '[' :: (inner ++ ']' :: after) = '[' :: (inner ++ [']']) ++ after := by simp
    rw [List.map_cons, List.sum_cons, hbracketed inner hinner, ih (hp.suffix (suffix_literal _ _)),
      hpattern, strays_append (closesAll_literal inner), strays_literal inner hinner]
  | case3 c rest hcut a text hmarked ih =>
    obtain ⟨hentry, after, hafter⟩ := prefix_of_inFront? hmarked
    obtain ⟨hne, hopen, hclose⟩ := htable _ hentry
    obtain ⟨d, ds, rfl⟩ := List.exists_cons_of_ne_nil hne
    have hcons : d :: (ds ++ after) = c :: rest := hafter
    obtain ⟨rfl, rfl⟩ := List.cons.inj hcons
    have hrest : (ds ++ after).drop ((d :: ds).length - 1) = after := by simp
    have hstrays : strays false (d :: ds) = 0 :=
      Nat.le_zero.mp (List.count_eq_zero.mpr hclose ▸ strays_le_count false (d :: ds))
    rw [hrest] at ih ⊢
    rw [List.map_cons, List.sum_cons, hmark, ih (hp.suffix ⟨d :: ds, rfl⟩), ← List.cons_append,
      strays_append (closesAll_of_not_mem hopen), hstrays]
  | case4 c rest hcut hmarked ih =>
    have hne := hp.ne_open hcut
    rw [List.map_cons, List.sum_cons, hplain, ih hp.2, strays, if_neg Bool.false_ne_true,
      decide_eq_false hne]

end PatternPiece

namespace CalendarField

/-! ## What fields are shown by -/

/-- A text that shows a field: there is one, and no bracket closes in it. -/
structure IsFieldText (cs : List Char) : Prop where
  ne_nil : cs ≠ []
  not_close : ']' ∉ cs

theorem isFieldText_cons {c : Char} (hc : c ≠ ']') {cs : List Char} (h : IsFieldText cs) :
    IsFieldText (c :: cs) :=
  ⟨List.cons_ne_nil c cs, fun hmem => (List.mem_cons.mp hmem).elim (fun h => hc h.symm) h.not_close⟩

theorem IsFieldText.append {cs ds : List Char} (h : IsFieldText cs) (hds : ']' ∉ ds) :
    IsFieldText (cs ++ ds) :=
  ⟨fun hnil => h.ne_nil (List.append_eq_nil_iff.mp hnil).1,
    fun hmem => (List.mem_append.mp hmem).elim h.not_close hds⟩

theorem isFieldText_ofNat (n : Nat) : IsFieldText (Digits.ofNat 10 n) := by
  refine ⟨Digits.ofNat_ne_nil 10 n, fun hmem => ?_⟩
  have hdigit := Digits.isDigit_of_mem_ofNat hmem
  exact absurd hdigit (by decide)

theorem isFieldText_padded (width n : Nat) : IsFieldText (Digits.padded width n) := by
  refine ⟨Digits.padded_ne_nil width n, fun hmem => ?_⟩
  have hdigit := Digits.isDigit_of_mem_padded hmem
  exact absurd hdigit (by decide)

private theorem isFieldText_integer (n : Int) : IsFieldText (Json.integerChars n) := by
  unfold Json.integerChars
  split
  · exact isFieldText_cons (by decide) (isFieldText_ofNat _)
  · exact isFieldText_ofNat _

private theorem isFieldText_year (year : Int) : IsFieldText (Year.long year) := by
  unfold Year.long
  split
  · exact isFieldText_cons (by decide) (isFieldText_padded _ _)
  · exact isFieldText_padded _ _

private theorem isFieldText_ordinal (l : Locale) (n : Nat) : IsFieldText (l.ordinal n) := by
  have hending : ']' ∉ (Locale.ordinalEnding n).toList := by
    unfold Locale.ordinalEnding
    split
    · decide
    · split <;> decide
  have hpoint : ']' ∉ ".".toList := by decide
  have hsyllable : ']' ∉ "-го".toList := by decide
  cases l with
  | english => exact (isFieldText_ofNat n).append hending
  | german => exact (isFieldText_ofNat n).append hpoint
  | russian => exact (isFieldText_ofNat n).append hsyllable

private theorem isFieldText_offset {between : List Char} (h : ']' ∉ between) (o : Offset) :
    IsFieldText (offsetChars between o) := by
  have hafter : IsFieldText (Digits.padded 2 (o.seconds.natAbs / 3600) ++ between ++
      Digits.padded 2 (o.seconds.natAbs % 3600 / 60)) :=
    ((isFieldText_padded _ _).append h).append (isFieldText_padded _ _).not_close
  refine isFieldText_cons ?_ hafter
  split <;> decide

/-- The names of a list show fields at every place of the list. -/
theorem isFieldText_nameAt {names : List String} {i : Nat} (hi : i < names.length)
    (h : ∀ name ∈ names, name.toList ≠ [] ∧ ']' ∉ name.toList) : IsFieldText (nameAt names i) := by
  have hname := h names[i] (List.getElem_mem hi)
  rw [nameAt, List.getElem?_eq_getElem hi]
  exact ⟨hname.1, hname.2⟩

private theorem isFieldText_month {names : Locale → List String} (l : Locale) (t : LocalTime)
    (hlength : ∀ l, (names l).length = 12)
    (h : ∀ l, ∀ name ∈ names l, name.toList ≠ [] ∧ ']' ∉ name.toList) :
    IsFieldText (nameAt (names l) (t.date.month - 1)) := by
  obtain ⟨-, hmonth, -, -⟩ :=
    (CivilDate.isValid_iff t.date).mp (CivilDate.isValid_ofDayNumber t.dayNumber)
  refine isFieldText_nameAt ?_ (h l)
  rw [hlength l]
  omega

private theorem isFieldText_weekday {names : Locale → List String} (l : Locale) (day : Int)
    (hlength : ∀ l, (names l).length = 7)
    (h : ∀ l, ∀ name ∈ names l, name.toList ≠ [] ∧ ']' ∉ name.toList) :
    IsFieldText (nameAt (names l) (CivilDate.weekdayOf day)) := by
  refine isFieldText_nameAt ?_ (h l)
  rw [hlength l, CivilDate.weekdayOf]
  omega

/-- A field is shown by some text, in which no bracket closes. -/
theorem isFieldText_render (l : Locale) (t : LocalTime) (field : CalendarField) :
    IsFieldText (field.render l t) := by
  cases field with
  | longYear => exact isFieldText_year _
  | monthName =>
    exact isFieldText_month l t (fun l => by cases l <;> rfl) (by intro l; cases l <;> decide)
  | shortMonthName =>
    exact isFieldText_month l t (fun l => by cases l <;> rfl) (by intro l; cases l <;> decide)
  | ordinalDay => exact isFieldText_ordinal l _
  | weekdayName =>
    exact isFieldText_weekday l _ (fun l => by cases l <;> rfl) (by intro l; cases l <;> decide)
  | shortWeekdayName =>
    exact isFieldText_weekday l _ (fun l => by cases l <;> rfl) (by intro l; cases l <;> decide)
  | briefWeekdayName =>
    exact isFieldText_weekday l _ (fun l => by cases l <;> rfl) (by intro l; cases l <;> decide)
  | upperMeridiem => rw [render]; split <;> exact ⟨by decide, by decide⟩
  | lowerMeridiem => rw [render]; split <;> exact ⟨by decide, by decide⟩
  | plainOffset => exact isFieldText_offset (by decide) _
  | offset => exact isFieldText_offset (by decide) _
  | epochSeconds => exact isFieldText_integer _
  | epochMillis => exact isFieldText_integer _
  | quarter | month | dayOfYear | day | weekday | hour | halfHour | lateHour | minute | second
  | deci | week => exact isFieldText_ofNat _
  | shortYear | paddedMonth | paddedDayOfYear | paddedDay | paddedHour | paddedHalfHour
  | paddedLateHour | paddedMinute | paddedSecond | milli | centi | paddedWeek =>
    exact isFieldText_padded _ _

end CalendarField

namespace Calendar

open PatternPiece CalendarField

variable {p : List Char}

/-! ## What is shown of stray brackets -/

/-- Composed forms bring no stray brackets. -/
theorem strays_expand (l : Locale) (hp : ClosesAll p) :
    strays false (expand l p) = strays false p := by
  have hform : ∀ form, strays false (l.pattern form).toList = 0 := by
    intro form
    cases l <;> cases form <;> decide
  have hflat (pieces : List (PatternPiece LongForm))
      (hpieces : ∀ piece ∈ pieces, ClosesAll (expandPiece l piece)) :
      strays false (pieces.flatMap (expandPiece l)) =
        (pieces.map fun piece => strays false (expandPiece l piece)).sum := by
    induction pieces with
    | nil => rfl
    | cons piece pieces ih =>
      rw [List.flatMap_cons, strays_append (hpieces piece (by simp)),
        ih fun other hother => hpieces other (by simp [hother])]
      rfl
  rw [expand, hflat _ (closesAll_expandPiece l hp)]
  exact sum_scan longForms_lack_brackets strays_literal hform (by simp [expandPiece, strays]) hp

/-- As many closing brackets are shown as there are stray ones. -/
theorem count_renderFields (l : Locale) (t : LocalTime) (hp : ClosesAll p) :
    (renderFields l t p).count ']' = strays false p := by
  rw [renderFields, List.count_flatMap]
  refine sum_scan fields_lack_brackets (fun inner h => List.count_eq_zero.mpr h)
    (fun field => List.count_eq_zero.mpr (isFieldText_render l t field).not_close) ?_ hp
  intro c
  simp [renderPiece, List.count_singleton]

variable (c : Calendar) (t : Instant)

private theorem count_chars (hp : ClosesAll p) : (c.chars t p).count ']' = strays false p := by
  rw [chars, count_renderFields _ _ (closesAll_expand c.locale hp), strays_expand c.locale hp]

/-! ## The first character shown -/

/-- What begins with no bracket begins with none when its composed forms are replaced. -/
private theorem expand_head (l : Locale) {d : Char} (hopen : d ≠ '[') (hclose : d ≠ ']')
    (q : List Char) :
    ∃ e r, expand l (d :: q) = e :: r ∧ e ≠ '[' ∧ e ≠ ']' := by
  have hform (form : LongForm) : ∃ e r, (l.pattern form).toList = e :: r ∧ e ≠ '[' ∧ e ≠ ']' := by
    cases l <;> cases form <;> exact ⟨_, _, rfl, by decide, by decide⟩
  cases hmark : inFront? LongForm.table (d :: q) with
  | none =>
    rw [expand, scan_of_plain (if_neg hopen) hmark]
    exact ⟨d, _, rfl, hopen, hclose⟩
  | some entry =>
    obtain ⟨form, text⟩ := entry
    obtain ⟨e, r, hpattern, he⟩ := hform form
    rw [expand, scan_of_mark (if_neg hopen) hmark, List.flatMap_cons, expandPiece, hpattern]
    exact ⟨e, _, rfl, he⟩

/-- What begins with no bracket is shown by a text that begins with no closing one. -/
private theorem renderFields_head (l : Locale) (t : LocalTime) {d : Char} (hopen : d ≠ '[')
    (hclose : d ≠ ']') (q : List Char) : ∃ e r, renderFields l t (d :: q) = e :: r ∧ e ≠ ']' := by
  cases hmark : inFront? CalendarField.table (d :: q) with
  | none =>
    rw [renderFields, scan_of_plain (if_neg hopen) hmark]
    exact ⟨d, _, rfl, hclose⟩
  | some entry =>
    obtain ⟨field, text⟩ := entry
    obtain ⟨hne, hnot⟩ := isFieldText_render l t field
    obtain ⟨e, r, htext⟩ := List.exists_cons_of_ne_nil hne
    rw [renderFields, scan_of_mark (if_neg hopen) hmark, List.flatMap_cons, renderPiece, htext]
    exact ⟨e, _, rfl, fun he => hnot (by simp [htext, he])⟩

private theorem chars_head {d : Char} (hopen : d ≠ '[') (hclose : d ≠ ']') (q : List Char) :
    ∃ e r, c.chars t (d :: q) = e :: r ∧ e ≠ ']' := by
  obtain ⟨e, r, hexpand, he⟩ := expand_head c.locale hopen hclose q
  rw [chars, hexpand]
  exact renderFields_head _ _ he.1 he.2 r

/-! ## A text in brackets -/

/-- Whether the closing brackets of a text stand at its end only. -/
def ClosesAtEnd (label : List Char) : Prop := ∀ d ∈ label.dropWhile (· ≠ ']'), d = ']'

/-- Whether the closing brackets of a text stand at its end can be decided. -/
instance decidableClosesAtEnd (label : List Char) : Decidable (ClosesAtEnd label) :=
  List.decidableBAll _ _

theorem closesAtEnd_of_not_mem {label : List Char} (h : ']' ∉ label) : ClosesAtEnd label := by
  have hnone : label.dropWhile (· ≠ ']') = [] := by
    rw [List.dropWhile_eq_nil_iff]
    intro d hd
    exact decide_eq_true fun hclose => h (hclose ▸ hd)
  intro d hd
  rw [hnone] at hd
  cases hd

/-- Of a text, only what follows its first closing bracket matters. -/
private theorem closesAtEnd_append_iff {front back : List Char} (h : ']' ∉ front) :
    ClosesAtEnd (front ++ ']' :: back) ↔ ∀ d ∈ back, d = ']' := by
  have hfront : ∀ d ∈ front, decide (d ≠ ']') = true :=
    fun d hd => decide_eq_true fun hclose => h (hclose ▸ hd)
  rw [ClosesAtEnd, List.dropWhile_append_of_pos hfront, List.dropWhile_cons_of_neg (by simp),
    List.forall_mem_cons]
  exact and_iff_right rfl

private theorem chars_close_cons (q : List Char) : c.chars t (']' :: q) = ']' :: c.chars t q := by
  have hnil : c.chars t [] = [] := by
    simp only [chars, expand, renderFields, scan, List.flatMap_nil]
  have happend := chars_append_close c t (p := []) trivial q
  rwa [hnil] at happend

/-- A pattern without an opening bracket that is shown as it is, but for a closing bracket that
moves from its end to its front, has closing brackets only. -/
private theorem eq_close_of_shifted {m : List Char} (hopen : '[' ∉ m)
    (h : c.chars t m ++ [']'] = ']' :: m) : ∀ d ∈ m, d = ']' := by
  induction m with
  | nil => simp
  | cons d m ih =>
    obtain ⟨hd, hm⟩ := not_or.mp (List.mem_cons.not.mp hopen)
    by_cases hclose : d = ']'
    · subst hclose
      rw [chars_close_cons, List.cons_append] at h
      exact List.forall_mem_cons.mpr ⟨rfl, ih hm (List.cons.inj h).2⟩
    · obtain ⟨e, r, htext, he⟩ := chars_head c t (fun h => hd h.symm) hclose m
      rw [htext, List.cons_append] at h
      exact absurd (List.cons.inj h).1 he

/-- What stands behind the closing bracket of a literal, in front of another closing bracket, is
shown as if it stood in the literal exactly if it has nothing but closing brackets. -/
private theorem chars_behind_iff (m back : List Char) :
    c.chars t (m ++ ']' :: back) = ']' :: (m ++ c.chars t back) ↔ ∀ d ∈ m, d = ']' := by
  constructor
  · intro h
    by_cases hm : ClosesAll m
    · rw [chars_append_close c t hm] at h
      have hshifted : c.chars t m ++ [']'] = ']' :: m := by
        have hbehind : (c.chars t m ++ [']']) ++ c.chars t back = (']' :: m) ++ c.chars t back := by
          simpa using h
        exact List.append_cancel_right hbehind
      have hcount : strays false m = m.count ']' := by
        have hcounts := congrArg (List.count ']') hshifted
        rw [List.count_append, count_chars c t hm] at hcounts
        simpa using hcounts
      have hopen : '[' ∉ m := fun hmem => (strays_lt_count hm hmem).ne hcount
      exact eq_close_of_shifted c t hopen hshifted
    · obtain ⟨front, inner, rfl, hfront, hinner⟩ := exists_open hm
      rw [List.append_assoc, List.cons_append, chars_append_literal c t hfront hinner] at h
      -- the closing bracket in front is one more than those shown of what stands in front
      have hcounts := congrArg (List.count ']') h
      have hle := strays_le_count false front
      have hclose : '[' ≠ ']' := by decide
      simp only [List.count_append, count_chars c t hfront, List.count_eq_zero.mpr hinner, zero_add,
        List.append_assoc, List.cons_append, List.count_cons_self,
        List.count_cons_of_ne hclose] at hcounts
      omega
  · intro h
    induction m with
    | nil => exact chars_close_cons c t back
    | cons d m ih =>
      obtain ⟨rfl, hm⟩ := List.forall_mem_cons.mp h
      rw [List.cons_append, chars_close_cons, ih hm, List.cons_append]

/-- A text in brackets is shown as it is, whatever follows, exactly if its closing brackets stand at
its end. -/
theorem chars_label_iff (label back : List Char) :
    c.chars t ('[' :: (label ++ ']' :: back)) = label ++ c.chars t back ↔ ClosesAtEnd label := by
  by_cases hlabel : ']' ∈ label
  · obtain ⟨front, m, rfl, hfront⟩ := List.eq_append_cons_of_mem hlabel
    rw [closesAtEnd_append_iff hfront, ← chars_behind_iff c t m back, List.append_assoc,
      List.cons_append, chars_literal c t hfront, List.append_assoc, List.append_cancel_left_eq,
      List.cons_append]
  · exact iff_of_true (chars_literal c t hlabel back) (closesAtEnd_of_not_mem hlabel)

end Calendar

end LiveText
