import Mathlib
import LiveText.Proofs.Engine.Filling
import LiveText.Proofs.Number.Digits
import LiveText.Proofs.Number.HalfUp

/-!
# Hexadecimal text

A number is shown as the integer that it is rounded to if the size of this integer has at most 128
bits, and else as the greatest one that has. `hex_denotes_iff` says so for the plain and the padded
texts in either case, and `hex_saturates` gives a number whose text denotes another one.
-/

namespace LiveText

namespace Pipeline

open Double

/-- The text of an integer in lower-case hexadecimal digits: its sign, a zero where a padded text
has one character without it, and a numeral of its size. -/
def IsHexText (padded : Bool) (n : Int) (cs : List Char) : Prop :=
  ∃ zeros digits, cs = Digits.signOf n ++ zeros ++ digits ∧
    zeros = (if padded then List.replicate (2 - (Digits.signOf n ++ digits).length) '0' else []) ∧
    Digits.IsNumeral 16 digits n.natAbs

/-- The sign and the zeros add nothing to what the digits denote. -/
theorem IsHexText.value_eq {padded : Bool} {n : Int} {cs : List Char} (h : IsHexText padded n cs) :
    Digits.value 16 cs = n.natAbs := by
  obtain ⟨zeros, digits, rfl, hzeros, hdigits⟩ := h
  have hzeros : Digits.value 16 zeros = 0 := by
    rw [hzeros]
    split_ifs
    · exact Digits.value_replicate ..
    · rfl
  rw [Digits.value_append, Digits.value_append, Digits.value_signOf, hzeros, hdigits.denotes]
  omega

/-! ### Lower-case texts -/

/-- The nearest integer whose size has at most 128 bits. -/
def clamped (n : Int) : Int := max (-maxHex) (min maxHex n)

private theorem maxHex_add_one : maxHex + 1 = 2 ^ 128 := by decide

private theorem natAbs_clamped (n : Int) : (clamped n).natAbs = min n.natAbs maxHex := by
  rw [clamped]
  omega

private theorem signOf_clamped (n : Int) : Digits.signOf (clamped n) = Digits.signOf n := by
  have hneg : clamped n < 0 ↔ n < 0 := by
    have hpos := maxHex_add_one
    rw [clamped]
    omega
  rw [Digits.signOf, Digits.signOf, if_congr hneg rfl rfl]

/-- The text of a finite number without padding. -/
theorem hexChars_plain {x : Double} (h : x.roundHalfUp.isFinite = true) :
    hexChars false false x = Digits.signOf x.roundHalfUp.toInt ++
      Digits.ofNat 16 (clamped x.roundHalfUp.toInt).natAbs := by
  simp only [hexChars, h, ite_true, Bool.false_eq_true, false_and, ite_false, natAbs_clamped,
    Digits.signOf]
  split_ifs <;> rfl

private theorem hexChars_padded (x : Double) : hexChars false true x =
    if (hexChars false false x).length < 2 then '0' :: hexChars false false x
    else hexChars false false x := by
  simp only [hexChars, Bool.false_eq_true, false_and, true_and, ite_false]

/-- The text of a finite number is that of the integer that it is rounded to, clamped to 128 bits.
-/
theorem isHexText_hexChars (padded : Bool) {x : Double} (h : x.roundHalfUp.isFinite = true) :
    IsHexText padded (clamped x.roundHalfUp.toInt) (hexChars false padded x) := by
  have hnumeral : Digits.IsNumeral 16 (Digits.ofNat 16 (clamped x.roundHalfUp.toInt).natAbs) _ :=
    Digits.isNumeral_ofNat (by decide) (by decide) _
  cases padded with
  | false =>
    refine ⟨[], _, ?_, rfl, hnumeral⟩
    rw [signOf_clamped, List.append_nil, hexChars_plain h]
  | true =>
    refine ⟨_, _, ?_, rfl, hnumeral⟩
    rw [hexChars_padded, hexChars_plain h, signOf_clamped, if_pos rfl]
    generalize Digits.ofNat 16 (clamped x.roundHalfUp.toInt).natAbs = digits at hnumeral
    have hlength := List.length_pos_of_ne_nil hnumeral.ne_nil
    by_cases hshort : (Digits.signOf x.roundHalfUp.toInt ++ digits).length < 2
    · -- only a single digit without a sign is as short as that
      have hsign : Digits.signOf x.roundHalfUp.toInt = [] := by
        rw [List.length_append] at hshort
        exact List.length_eq_zero_iff.mp (by omega)
      have hone : 2 - digits.length = 1 := by
        rw [hsign, List.nil_append] at hshort
        omega
      rw [if_pos hshort, hsign, List.nil_append, List.nil_append, hone]
      rfl
    · have hzero : 2 - (Digits.signOf x.roundHalfUp.toInt ++ digits).length = 0 := by omega
      rw [if_neg hshort, hzero, List.replicate_zero, List.append_nil]

/-- The text of a finite number is that of the integer that it is rounded to exactly if the size of
this has at most 128 bits. -/
private theorem isHexText_hexChars_iff (padded : Bool) {x : Double}
    (h : x.roundHalfUp.isFinite = true) :
    IsHexText padded x.roundHalfUp.toInt (hexChars false padded x) ↔
      x.roundHalfUp.toInt.natAbs < 2 ^ 128 := by
  have hclamped := isHexText_hexChars padded h
  have hmax := maxHex_add_one
  constructor
  · intro htext
    have hsize := htext.value_eq.symm.trans hclamped.value_eq
    rw [natAbs_clamped] at hsize
    omega
  · intro hsize
    have hsame : clamped x.roundHalfUp.toInt = x.roundHalfUp.toInt := by
      rw [clamped]
      omega
    rwa [hsame] at hclamped

/-! ### Upper-case texts -/

/-- A hexadecimal text consists of digits and a minus. -/
theorem IsHexText.mem {padded : Bool} {n : Int} {cs : List Char} (h : IsHexText padded n cs)
    {c : Char} (hc : c ∈ cs) : c = '-' ∨ ∃ d < 16, c = Digits.char d := by
  obtain ⟨zeros, digits, rfl, hzeros, hdigits⟩ := h
  rcases List.mem_append.mp hc with hc | hc
  · rcases List.mem_append.mp hc with hc | hc
    · left
      rw [Digits.signOf] at hc
      split_ifs at hc
      · exact List.mem_singleton.mp hc
      · cases hc
    · right
      rw [hzeros] at hc
      split_ifs at hc
      · exact ⟨0, by decide, List.eq_of_mem_replicate hc⟩
      · cases hc
  · exact .inr (hdigits.digit c hc)

private theorem upperChar_of_digit {c : Char} (h : c = '-' ∨ ∃ d < 16, c = Digits.char d) :
    Text.upperChar c = [c.toUpper] := by
  have hdigits : ((List.range 16).all fun d =>
      Text.upperChar (Digits.char d) == [(Digits.char d).toUpper]) = true := by
    decide
  rcases h with rfl | ⟨d, hd, rfl⟩
  · decide
  · exact beq_iff_eq.mp (List.all_eq_true.mp hdigits d (List.mem_range.mpr hd))

/-- The upper-case text of a finite number differs in the case of its letters alone. -/
private theorem hexChars_upper (padded : Bool) {x : Double} (h : x.roundHalfUp.isFinite = true) :
    hexChars true padded x = (hexChars false padded x).map Char.toUpper := by
  have hupper : hexChars true padded x = Text.upper (hexChars false padded x) := rfl
  rw [hupper, Text.upper, List.map_eq_flatMap]
  exact List.flatMap_congr fun c hc =>
    upperChar_of_digit ((isHexText_hexChars padded h).mem hc)

/-- A finite number is rounded to the floor of the number plus one half. Its text is that of this
integer exactly if the size of the integer has at most 128 bits, and else that of the nearest
integer with such a size; the upper-case text differs in the case of its letters alone. -/
theorem hex_denotes_iff (s : Setting) (padded : Bool) (v : Value) (t : Trail)
    (h : v.toNumber.isFinite = true) :
    v.toNumber.roundHalfUp.isFinite = true ∧
    v.toNumber.roundHalfUp.exact = ⌊v.toNumber.exact + 1 / 2⌋ ∧
    ∃ lower upper : String,
      (apply s (.hex false padded) v).run t = (.string lower, t) ∧
      (apply s (.hex true padded) v).run t = (.string upper, t) ∧
      upper.toList = lower.toList.map Char.toUpper ∧
      (IsHexText padded ⌊v.toNumber.exact + 1 / 2⌋ lower.toList ↔
        ⌊v.toNumber.exact + 1 / 2⌋.natAbs < 2 ^ 128) ∧
      IsHexText padded (clamped ⌊v.toNumber.exact + 1 / 2⌋) lower.toList := by
  have hfinite := (units_roundHalfUp h).1
  refine ⟨hfinite, exact_roundHalfUp h, String.ofList (hexChars false padded v.toNumber),
    String.ofList (hexChars true padded v.toNumber), rfl, rfl, ?_⟩
  rw [← toInt_roundHalfUp h]
  simp only [String.toList_ofList]
  exact ⟨hexChars_upper padded hfinite, isHexText_hexChars_iff padded hfinite,
    isHexText_hexChars padded hfinite⟩

/-- A number below minus ten is rounded up and shown with a minus. -/
theorem hex_denotes_negative :
    let s : Setting := ⟨Engine.plain 50, {}, {}, false⟩
    let v : Value := .string "-10.5"
    v.toNumber.isFinite = true ∧ ⌊v.toNumber.exact + 1 / 2⌋ = -10 ∧
    ∃ lower upper : String,
      (apply s (.hex false true) v).run {} = (.string lower, {}) ∧
      (apply s (.hex true true) v).run {} = (.string upper, {}) ∧
      upper.toList = lower.toList.map Char.toUpper ∧ IsHexText true (-10) lower.toList := by
  intro s v
  have hfinite : v.toNumber.isFinite = true := by decide +kernel
  have hrounded : ⌊v.toNumber.exact + 1 / 2⌋ = -10 := by
    rw [← toInt_roundHalfUp hfinite]
    decide +kernel
  obtain ⟨-, -, lower, upper, hlower, hupper, hcase, htext, -⟩ :=
    hex_denotes_iff s true v {} hfinite
  rw [hrounded] at htext
  exact ⟨hfinite, hrounded, lower, upper, hlower, hupper, hcase, htext.mpr (by decide)⟩

/-- The text of `2^128` is that of the integer in front of it. -/
theorem hex_saturates :
    let v : Value := .number 0x100000000000000000000000000000000
    v.toNumber.isFinite = true ∧ ⌊v.toNumber.exact + 1 / 2⌋ = 2 ^ 128 ∧
    hexChars false false v.toNumber = List.replicate 32 'f' ∧
    ¬ IsHexText false (2 ^ 128) (hexChars false false v.toNumber) := by
  intro v
  have hfinite : v.toNumber.isFinite = true := by decide +kernel
  have htext : hexChars false false v.toNumber = List.replicate 32 'f' := by decide +kernel
  refine ⟨hfinite, ?_, htext, ?_⟩
  · rw [← toInt_roundHalfUp hfinite]
    decide +kernel
  · intro hdenotes
    have hvalue := hdenotes.value_eq
    rw [htext] at hvalue
    exact absurd hvalue (by decide)

end Pipeline

end LiveText
