import LiveText.Proofs.Date.Brackets
import LiveText.Proofs.Date.Runs
import LiveText.Text.Letters

/-!
# Fields that both kinds of patterns have

Date patterns and calendar patterns write the year, the month, the day, the hour, the minute, the
second and the millisecond with marks of their own. In front of a text without letters each mark is
read as its field and as nothing else (`render_mark`, `renderFields_mark`), whatever comes behind
that text. So a pattern of such fields and separators shows the same in both ways of writing:
`shared_fields_shown_alike`.
-/

namespace LiveText

open Text

/-- A field that can be written both in date patterns and in calendar patterns. -/
inductive SharedField where
  | longYear | shortYear
  | paddedMonth | month
  | paddedDay | day
  | paddedHour | hour
  | paddedMinute | minute
  | paddedSecond | second
  | milli
deriving DecidableEq, Repr

namespace SharedField

/-- The letter of a field in date patterns, and how often it stands there. -/
def dateMark : SharedField → List Char
  | longYear => "YYYY".toList
  | shortYear => "YY".toList
  | paddedMonth => "MM".toList
  | month => "M".toList
  | paddedDay => "DD".toList
  | day => "D".toList
  | paddedHour => "hh".toList
  | hour => "h".toList
  | paddedMinute => "mm".toList
  | minute => "m".toList
  | paddedSecond => "ss".toList
  | second => "s".toList
  | milli => "sss".toList

/-- The mark of a field in calendar patterns. -/
def calendarMark : SharedField → List Char
  | paddedHour => "HH".toList
  | hour => "H".toList
  | milli => "SSS".toList
  | field => field.dateMark

/-- What is shown of a field. -/
def shown (t : LocalTime) : SharedField → List Char
  | longYear => Year.long t.date.year
  | shortYear => Year.short t.date.year
  | paddedMonth => Digits.padded 2 t.date.month
  | month => Digits.ofNat 10 t.date.month
  | paddedDay => Digits.padded 2 t.date.day
  | day => Digits.ofNat 10 t.date.day
  | paddedHour => Digits.padded 2 t.hour
  | hour => Digits.ofNat 10 t.hour
  | paddedMinute => Digits.padded 2 t.minute
  | minute => Digits.ofNat 10 t.minute
  | paddedSecond => Digits.padded 2 t.second
  | second => Digits.ofNat 10 t.second
  | milli => Digits.padded 3 t.milli

/-- A text between fields: there is one, and it has no letter and opens no bracket. -/
structure IsSeparator (separator : List Char) : Prop where
  ne_nil : separator ≠ []
  not_letter : ∀ c ∈ separator, isAlphabetic c = false
  not_open : '[' ∉ separator

/-- Whether a text is a separator can be decided. -/
instance decidableIsSeparator (separator : List Char) : Decidable (IsSeparator separator) :=
  decidable_of_iff
    (separator ≠ [] ∧ separator.all (isAlphabetic · == false) = true ∧ '[' ∉ separator)
    ⟨fun ⟨hne, hletter, hopen⟩ =>
        ⟨hne, fun c hc => eq_of_beq (List.all_eq_true.mp hletter c hc), hopen⟩,
      fun h =>
        ⟨h.ne_nil, List.all_eq_true.mpr fun c hc => beq_of_eq (h.not_letter c hc), h.not_open⟩⟩

/-! ## In date patterns -/

/-- The letters of date patterns are letters. -/
private theorem isAlphabetic_of_ofChar? {c : Char} (h : DateField.ofChar? c ≠ none) :
    isAlphabetic c = true := by
  unfold DateField.ofChar? at h
  split at h <;> first | decide | exact absurd rfl h

private theorem ofChar?_of_isAlphabetic {c : Char} (h : isAlphabetic c = false) :
    DateField.ofChar? c = none := by
  by_contra hc
  rw [isAlphabetic_of_ofChar? hc] at h
  cases h

/-- In front of a separator a mark shows its field, and the separator is shown as it is. -/
theorem render_mark (field : SharedField) {separator : List Char} (h : IsSeparator separator)
    (t : LocalTime) (rest : List Char) :
    DatePattern.render t (field.dateMark ++ separator ++ rest) =
      field.shown t ++ separator ++ DatePattern.render t rest := by
  have hplain : ∀ c ∈ separator, DateField.ofChar? c = none :=
    fun c hc => ofChar?_of_isAlphabetic (h.not_letter c hc)
  have hmark : DatePattern.render t field.dateMark = field.shown t := by
    cases field <;> exact List.append_nil _
  have hletter : ∀ x ∈ field.dateMark.getLast?, DateField.ofChar? x ≠ none := by
    cases field <;> simp [dateMark, DateField.ofChar?]
  rw [DatePattern.render_append, DatePattern.render_append, hmark,
    DatePattern.render_of_plain hplain]
  · intro x hx y hy
    left
    rintro rfl
    exact hletter x hx (hplain x (List.mem_of_head? hy))
  · intro x hx y hy
    have hlast : x ∈ separator := by
      rw [List.getLast?_append_of_ne_nil _ h.ne_nil] at hx
      exact List.mem_of_getLast? hx
    exact Or.inr (hplain x hlast)

/-! ## In calendar patterns -/

/-- The field of a calendar pattern. -/
def calendarField : SharedField → CalendarField
  | longYear => .longYear
  | shortYear => .shortYear
  | paddedMonth => .paddedMonth
  | month => .month
  | paddedDay => .paddedDay
  | day => .day
  | paddedHour => .paddedHour
  | hour => .hour
  | paddedMinute => .paddedMinute
  | minute => .minute
  | paddedSecond => .paddedSecond
  | second => .second
  | milli => .milli

/-- The marks of calendar patterns are made of letters. -/
theorem isAlphabetic_of_mem_mark {c : Char} {entry : CalendarField × List Char}
    (he : entry ∈ CalendarField.table) (hc : c ∈ entry.2) : isAlphabetic c = true := by
  have hall : ∀ entry ∈ CalendarField.table, entry.2.all isAlphabetic = true := by decide
  exact List.all_eq_true.mp (hall entry he) c hc

/-- A separator begins no mark. -/
private theorem IsSeparator.isPlain {separator : List Char} (h : IsSeparator separator) :
    ∀ c ∈ separator, PatternPiece.IsPlain CalendarField.table c := by
  intro c hc
  have hmarks : ∀ entry ∈ CalendarField.table, entry.2 ≠ [] := by decide
  refine ⟨fun hopen => h.not_open (hopen ▸ hc), fun entry he => ⟨hmarks entry he, fun hhead => ?_⟩⟩
  have hletter := isAlphabetic_of_mem_mark he (List.mem_of_head? hhead)
  rw [h.not_letter c hc] at hletter
  cases hletter

/-- In front of a separator a mark shows its field, and the separator is shown as it is. -/
theorem renderFields_mark (field : SharedField) {separator : List Char} (h : IsSeparator separator)
    (l : Locale) (t : LocalTime) (rest : List Char) :
    Calendar.renderFields l t (field.calendarMark ++ separator ++ rest) =
      field.shown t ++ separator ++ Calendar.renderFields l t rest := by
  obtain ⟨c, separator', rfl⟩ := List.exists_cons_of_ne_nil h.ne_nil
  have hopen : '[' ∉ field.calendarMark := by
    cases field <;> decide
  have hc : ∀ entry ∈ CalendarField.table, c ∉ entry.2 := by
    intro entry he hmem
    have hletter := isAlphabetic_of_mem_mark he hmem
    rw [h.not_letter c (by simp)] at hletter
    cases hletter
  have hmark : PatternPiece.scan CalendarField.table field.calendarMark =
      [.mark field.calendarField] :=
    PatternPiece.scan_mark hopen (by cases field <;> decide) (by cases field <;> decide)
  have hshown : field.calendarField.render l t = field.shown t := by
    cases field <;> rfl
  have hfield : Calendar.renderFields l t field.calendarMark = field.shown t := by
    rw [Calendar.renderFields, hmark, List.flatMap_singleton, Calendar.renderPiece, hshown]
  have hseparator : Calendar.renderFields l t (c :: separator' ++ rest) =
      c :: separator' ++ Calendar.renderFields l t rest := by
    rw [Calendar.renderFields, PatternPiece.scan_plain_append h.isPlain, List.flatMap_append,
      List.flatMap_map]
    simp [Calendar.renderPiece, Calendar.renderFields]
  rw [List.append_assoc, List.cons_append, Calendar.renderFields_append l t
    (PatternPiece.closesAll_of_not_mem hopen) (PatternPiece.endsMarks_cons hc _ _), hfield,
    ← List.cons_append, hseparator, List.append_assoc]

/-- Where nothing begins a composed form or a literal, there is nothing to replace. -/
theorem expand_eq_self {p : List Char} (hform : 'L' ∉ p) (hopen : '[' ∉ p) (l : Locale) :
    Calendar.expand l p = p := by
  have hforms : ∀ entry ∈ LongForm.table, entry.2.head? = some 'L' := by decide
  have hplain : ∀ c ∈ p, PatternPiece.IsPlain LongForm.table c := by
    intro c hc
    refine ⟨fun h => hopen (h ▸ hc), fun entry he => ?_⟩
    rw [hforms entry he]
    refine ⟨fun hnil => ?_, fun h => hform (Option.some.inj h ▸ hc)⟩
    have hhead := hforms entry he
    rw [hnil] at hhead
    cases hhead
  have hscan := PatternPiece.scan_plain_append hplain []
  rw [List.append_nil] at hscan
  rw [Calendar.expand, hscan, PatternPiece.scan]
  simp [Calendar.expandPiece, List.flatMap_map]

/-! ## Lists of fields -/

/-- Fields, each with the separator behind it, as a pattern with given marks. -/
def written (mark : SharedField → List Char) (fields : List (SharedField × List Char)) :
    List Char :=
  fields.flatMap fun (field, separator) => mark field ++ separator

variable {fields : List (SharedField × List Char)}

private theorem render_written (h : ∀ f ∈ fields, IsSeparator f.2) (t : LocalTime) :
    DatePattern.render t (written dateMark fields) = written (shown t) fields := by
  induction fields with
  | nil => rfl
  | cons f fields ih =>
    have hrest := ih fun g hg => h g (by simp [hg])
    change DatePattern.render t (f.1.dateMark ++ f.2 ++ written dateMark fields) = _
    rw [render_mark f.1 (h f (by simp)), hrest]
    rfl

private theorem renderFields_written (h : ∀ f ∈ fields, IsSeparator f.2) (l : Locale)
    (t : LocalTime) :
    Calendar.renderFields l t (written calendarMark fields) = written (shown t) fields := by
  induction fields with
  | nil => simp [written, Calendar.renderFields, PatternPiece.scan]
  | cons f fields ih =>
    have hrest := ih fun g hg => h g (by simp [hg])
    change Calendar.renderFields l t (f.1.calendarMark ++ f.2 ++ written calendarMark fields) = _
    rw [renderFields_mark f.1 (h f (by simp)), hrest]
    rfl

/-- A pattern of such fields has no composed forms. -/
theorem expand_written (h : ∀ f ∈ fields, IsSeparator f.2) (l : Locale) :
    Calendar.expand l (written calendarMark fields) = written calendarMark fields := by
  apply expand_eq_self
  · intro hmem
    obtain ⟨f, hf, hc⟩ := List.mem_flatMap.mp hmem
    rcases List.mem_append.mp hc with hc | hc
    · have hmark : 'L' ∉ f.1.calendarMark := by
        cases f.1 <;> decide
      exact hmark hc
    · have hletter := (h f hf).not_letter 'L' hc
      exact absurd hletter (by decide)
  · intro hmem
    obtain ⟨f, hf, hc⟩ := List.mem_flatMap.mp hmem
    rcases List.mem_append.mp hc with hc | hc
    · have hmark : '[' ∉ f.1.calendarMark := by
        cases f.1 <;> decide
      exact hmark hc
    · exact (h f hf).not_open hc

end SharedField

namespace Calendar

open SharedField

/-- Fields with separators behind them are shown alike in date patterns and in calendar patterns, in
every zone and every language: one behind the other, each with its separator. -/
theorem shared_fields_shown_alike (c : Calendar) (t : Instant)
    {fields : List (SharedField × List Char)} (h : ∀ f ∈ fields, IsSeparator f.2) :
    DatePattern.render (c.zone.localize t) (written dateMark fields) =
      c.chars t (written calendarMark fields) ∧
    c.chars t (written calendarMark fields) = written (shown (c.zone.localize t)) fields := by
  have hdate := render_written h (c.zone.localize t)
  have hcalendar : c.chars t (written calendarMark fields) =
      written (shown (c.zone.localize t)) fields := by
    rw [chars, expand_written h, renderFields_written h]
  exact ⟨hdate.trans hcalendar.symm, hcalendar⟩

/-- An afternoon before year zero, seen three and a half hours earlier. -/
theorem shared_fields_shown_alike_early :
    let c : Calendar := ⟨.german, .fixed ⟨-12600, by decide⟩, ⟨0, 0⟩⟩
    let t : Instant := ⟨-62500000000, 7000000⟩
    let fields : List (SharedField × List Char) :=
      [(.longYear, "-".toList), (.paddedMonth, "] ".toList), (.day, "., ".toList),
        (.hour, "::".toList), (.milli, " ".toList), (.shortYear, "%".toList)]
    (∀ f ∈ fields, IsSeparator f.2) ∧
    DatePattern.render (c.zone.localize t) (written dateMark fields) =
      c.chars t (written calendarMark fields) ∧
    c.chars t (written calendarMark fields) = written (shown (c.zone.localize t)) fields ∧
    written dateMark fields = "YYYY-MM] D., h::sss YY%".toList ∧
    written calendarMark fields = "YYYY-MM] D., H::SSS YY%".toList ∧
    written (shown (c.zone.localize t)) fields = "-011-06] 15., 5::007 89%".toList := by
  intro c t fields
  have hfields : ∀ f ∈ fields, IsSeparator f.2 := by decide
  obtain ⟨halike, hshown⟩ := shared_fields_shown_alike c t hfields
  exact ⟨hfields, halike, hshown, rfl, rfl, by decide +kernel⟩

end Calendar

end LiveText
