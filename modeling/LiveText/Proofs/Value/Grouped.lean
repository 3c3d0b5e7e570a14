import Mathlib
import LiveText.Value.Grouped
import LiveText.Proofs.Number.Fixed

/-!
# Grouping only inserts separators

Digits are cut into groups of three from their end (`exists_isGrouping`), and a number in a format
is its fixed-place text with separators between the groups and the other separator for the point:
`render_grouped`.
-/

namespace LiveText

namespace GroupedFormat

open Fixed

/-- Digits cut into groups: at most three in front, and threes behind them. -/
structure IsGrouping (digits first : List Char) (more : List (List Char)) : Prop where
  first_ne_nil : first ≠ []
  length_first : first.length ≤ 3
  length_more : ∀ group ∈ more, group.length = 3
  append : first ++ more.flatten = digits

/-- The digits behind the first group come in threes. -/
theorem IsGrouping.length_eq {digits first : List Char} {more : List (List Char)}
    (h : IsGrouping digits first more) : digits.length = first.length + more.length * 3 := by
  have hthrees : more.map List.length = List.replicate more.length 3 :=
    List.map_eq_replicate_iff.mpr h.length_more
  rw [← h.append, List.length_append, List.length_flatten, hthrees, List.sum_replicate,
    smul_eq_mul]

/-- A digit in front of a first group of three is a group of its own. -/
private theorem IsGrouping.cons_group {digits first : List Char} {more : List (List Char)}
    (h : IsGrouping digits first more) (hthree : first.length = 3) (d : Char) :
    IsGrouping (d :: digits) [d] (first :: more) where
  first_ne_nil := List.cons_ne_nil _ _
  length_first := by rw [List.length_singleton]; decide
  length_more := List.forall_mem_cons.mpr ⟨hthree, h.length_more⟩
  append := by rw [List.flatten_cons, h.append, List.singleton_append]

/-- A digit in front of a shorter first group joins it. -/
private theorem IsGrouping.cons_digit {digits first : List Char} {more : List (List Char)}
    (h : IsGrouping digits first more) (hroom : first.length < 3) (d : Char) :
    IsGrouping (d :: digits) (d :: first) more where
  first_ne_nil := List.cons_ne_nil _ _
  length_first := hroom
  length_more := h.length_more
  append := by rw [List.cons_append, h.append]

/-- A separator is written between any two groups and nowhere else. -/
theorem exists_isGrouping (separator d : Char) (ds : List Char) :
    ∃ first more, IsGrouping (d :: ds) first more ∧
      grouped separator (d :: ds) = [separator].intercalate (first :: more) := by
  induction ds generalizing d with
  | nil =>
    have hsingle : IsGrouping [d] [d] [] :=
      ⟨List.cons_ne_nil _ _, by rw [List.length_singleton]; decide, (fun _ h => nomatch h), rfl⟩
    exact ⟨[d], [], hsingle, rfl⟩
  | cons e ds ih =>
    obtain ⟨first, more, hgrouping, hgrouped⟩ := ih e
    have hlength := hgrouping.length_eq
    have hpos := List.length_pos_of_ne_nil hgrouping.first_ne_nil
    have hle := hgrouping.length_first
    rw [grouped, hgrouped]
    split_ifs with hthree
    · refine ⟨[d], first :: more, hgrouping.cons_group (by omega) d, ?_⟩
      rw [List.intercalate_cons_cons]
      rfl
    · have hroom : first.length < 3 := by
        have hmod : (e :: ds).length % 3 ≠ 0 := fun h => hthree ⟨h, List.cons_ne_nil _ _⟩
        omega
      refine ⟨d :: first, more, hgrouping.cons_digit hroom d, ?_⟩
      cases more with
      | nil => rw [List.intercalate_singleton, List.intercalate_singleton]
      | cons group more =>
        rw [List.intercalate_cons_cons, List.intercalate_cons_cons]
        rfl

/-- Digits with a point are grouped in front of it, and the fraction behind it is kept. -/
theorem separated_joined (s : Separators) {whole fraction : List Char}
    (hwhole : ∀ c ∈ whole, c.isDigit = true) : separated s (joined whole fraction) =
      grouped s.group whole ++ if fraction = [] then [] else s.decimal :: fraction := by
  have hpoint : '.' ∉ whole := Digits.point_not_mem hwhole
  rw [joined]
  split_ifs with hempty
  · rw [separated, Text.cutFirst?_eq_none_iff.mpr hpoint, List.append_nil]
  · rw [separated, Text.cutFirst?_eq_some_iff.mpr ⟨rfl, hpoint⟩]

/-- Behind the sign, fixed-place text is separated. -/
theorem chars_eq (format : GroupedFormat) {negative : Bool} {units : Nat}
    (h : Number.Representable units) (hunits : units < Nat.pow 10 21 * Number.unity)
    {sign unsigned : List Char} (hsign : sign = [] ∨ sign = ['-'])
    (hhead : unsigned.head? ≠ some '-')
    (hfixed : (Double.finite negative units h).fixedChars format.places = sign ++ unsigned) :
    format.chars (.finite negative units h) = sign ++ separated format.separators unsigned := by
  rw [chars, if_pos hunits, hfixed]
  rcases hsign with rfl | rfl
  · rw [List.nil_append]
    split
    · exact absurd rfl hhead
    · rfl
  · rfl

open Double in
/-- A finite number below `10^21` in magnitude is shown, in a format, as its fixed-place text with
the digits in front of the point in groups: one of at most three, then threes, with a separator
between any two of them. The sign and the fraction are kept, and the other separator stands for the
point. -/
theorem render_grouped {format : GroupedFormat} {v : Value} (hfinite : v.toNumber.isFinite = true)
    (hless : v.toNumber.abs.less (ofNat (Nat.pow 10 21)) = true) :
    ∃ sign whole fraction first more, (sign = [] ∨ sign = ['-']) ∧
      HasPlaces (min format.places 100) whole fraction ∧
      v.toNumber.toFixed format.places = String.ofList (sign ++ joined whole fraction) ∧
      IsGrouping whole first more ∧
      format.render v = String.ofList (sign ++
        ([format.separators.group].intercalate (first :: more) ++
        if fraction = [] then [] else format.separators.decimal :: fraction)) := by
  rw [render]
  generalize v.toNumber = x at *
  cases x with
  | nan => cases hfinite
  | infinity negative => cases hfinite
  | finite negative units h =>
    have hunits := (abs_less_iff negative units h).mp hless
    obtain ⟨sign, whole, fraction, hsign, hplaces, hfixed⟩ :=
      exists_fixedChars negative h hunits format.places
    have hwhole : ∀ c ∈ whole, c.isDigit = true :=
      fun c hc => hplaces.isDigit c (List.mem_append_left _ hc)
    obtain ⟨d, ds, rfl⟩ := List.exists_cons_of_ne_nil hplaces.whole_ne_nil
    have hhead : (joined (d :: ds) fraction).head? ≠ some '-' := by
      have hd : d ≠ '-' := Digits.ne_of_isDigit (hwhole d (List.mem_cons_self ..)) (by decide)
      rw [joined]
      split_ifs <;> simpa using hd
    obtain ⟨first, more, hgrouping, hgrouped⟩ := exists_isGrouping format.separators.group d ds
    refine ⟨sign, d :: ds, fraction, first, more, hsign, hplaces, ?_, hgrouping, ?_⟩
    · rw [toFixed, hfixed]
    · rw [chars_eq format h hunits hsign hhead hfixed, separated_joined _ hwhole, hgrouped]

open Double in
/-- `-1234567.891` with two places has groups of one, three and three digits. -/
theorem render_grouped_millions :
    (Value.string "-1234567.891 kW").toNumber.isFinite = true ∧
    (Value.string "-1234567.891 kW").toNumber.abs.less (ofNat (Nat.pow 10 21)) = true ∧
    ∃ sign whole fraction first more, (sign = [] ∨ sign = ['-']) ∧
      HasPlaces (min 2 100) whole fraction ∧
      (Value.string "-1234567.891 kW").toNumber.toFixed 2 =
        String.ofList (sign ++ joined whole fraction) ∧
      IsGrouping whole first more ∧
      render ⟨2, ⟨',', '.'⟩⟩ (.string "-1234567.891 kW") =
        String.ofList (sign ++ (['.'].intercalate (first :: more) ++
          if fraction = [] then [] else ',' :: fraction)) :=
  have hfinite : (Value.string "-1234567.891 kW").toNumber.isFinite = true := by decide +kernel
  have hless : (Value.string "-1234567.891 kW").toNumber.abs.less (ofNat (Nat.pow 10 21)) =
      true := by
    decide +kernel
  ⟨hfinite, hless, @render_grouped ⟨2, ⟨',', '.'⟩⟩ _ hfinite hless⟩

example : render ⟨2, ⟨',', '.'⟩⟩ (.string "-1234567.891 kW") = "-1.234.567,89" := by decide +kernel

end GroupedFormat

end LiveText
