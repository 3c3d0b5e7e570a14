import Mathlib
import LiveText.Number.Layout
import LiveText.Text.Search
import LiveText.Proofs.Number.Digits
import LiveText.Proofs.Number.Shortest

/-!
# Plain numerals

A plain numeral is made of digits with at most one point. The plain text of every finite number is
one, never in scientific form, and denotes the number of its shortest decimal: `denoted_plain`.
-/

namespace LiveText

namespace Digits

/-- Digits, or digits with a point between. -/
inductive IsPlain : List Char → Prop where
  | whole {cs : List Char} (hne : cs ≠ []) (h : ∀ c ∈ cs, c.isDigit = true) : IsPlain cs
  | pointed {whole fraction : List Char} (hwhole : whole ≠ []) (hfraction : fraction ≠ [])
      (h : ∀ c ∈ whole ++ fraction, c.isDigit = true) : IsPlain (whole ++ '.' :: fraction)

/-- The number that digits with at most one point denote. -/
def denoted (cs : List Char) : ℚ :=
  match Text.cutFirst? '.' cs with
  | some (whole, fraction) => value 10 (whole ++ fraction) / 10 ^ fraction.length
  | none => value 10 cs

theorem point_not_mem {cs : List Char} (h : ∀ c ∈ cs, c.isDigit = true) : '.' ∉ cs :=
  fun hmem => absurd (h _ hmem) (by decide)

/-- Digits without a point denote an integer. -/
theorem denoted_whole {cs : List Char} (h : ∀ c ∈ cs, c.isDigit = true) :
    denoted cs = value 10 cs := by
  rw [denoted, Text.cutFirst?_eq_none_iff.mpr (point_not_mem h)]

/-- Digits behind the point count by their places. -/
theorem denoted_pointed {whole : List Char} (h : ∀ c ∈ whole, c.isDigit = true)
    (fraction : List Char) : denoted (whole ++ '.' :: fraction) =
      value 10 (whole ++ fraction) / 10 ^ fraction.length := by
  rw [denoted, Text.cutFirst?_eq_some_iff.mpr ⟨rfl, point_not_mem h⟩]

end Digits

namespace Fixed

open Digits

/-- The whole part, and the fraction digits behind a point if there are any. -/
def joined (whole fraction : List Char) : List Char :=
  if fraction = [] then whole else whole ++ '.' :: fraction

variable {whole fraction : List Char}

private theorem isPlain_joined (hne : whole ≠ []) (h : ∀ c ∈ whole ++ fraction, c.isDigit = true) :
    IsPlain (joined whole fraction) := by
  rw [joined]
  split_ifs with hempty
  · exact .whole hne fun c hc => h c (List.mem_append_left _ hc)
  · exact .pointed hne hempty h

/-- A whole part and fraction digits denote the count of their last place. -/
theorem denoted_joined (h : ∀ c ∈ whole ++ fraction, c.isDigit = true) :
    denoted (joined whole fraction) = value 10 (whole ++ fraction) / 10 ^ fraction.length := by
  have hwhole : ∀ c ∈ whole, c.isDigit = true := fun c hc => h c (List.mem_append_left _ hc)
  rw [joined]
  split_ifs with hempty
  · rw [denoted_whole hwhole, hempty, List.append_nil, List.length_nil, pow_zero, div_one]
  · exact denoted_pointed hwhole fraction

/-- A whole part and so many fraction digits: there is no superfluous zero in front. -/
structure HasPlaces (places : Nat) (whole fraction : List Char) : Prop where
  isDigit : ∀ c ∈ whole ++ fraction, c.isDigit = true
  whole_ne_nil : whole ≠ []
  whole_of_zero : whole.head? = some '0' → whole = ['0']
  length_fraction : fraction.length = places

end Fixed

namespace Layout

open Digits Fixed

/-- Digits in positional form are a whole part and a fraction, and the point says how much they
denote. No zero is put in front of a whole part that has digits of its own. -/
theorem exists_positional {digits : List Char} (hne : digits ≠ [])
    (hdigits : ∀ c ∈ digits, c.isDigit = true) (point : Int) :
    ∃ whole fraction, positional false digits point = joined whole fraction ∧
      (∀ c ∈ whole ++ fraction, c.isDigit = true) ∧ whole ≠ [] ∧
      (whole = ['0'] ∨ whole.head? = digits.head?) ∧
      (value 10 (whole ++ fraction) / 10 ^ fraction.length : ℚ) =
        value 10 digits * 10 ^ (point - digits.length) := by
  have hzeros (count : Nat) : ∀ c ∈ List.replicate count '0', c.isDigit = true := by
    intro c hc
    rw [List.eq_of_mem_replicate hc]
    decide
  have hlength : 0 < digits.length := List.length_pos_of_ne_nil hne
  by_cases hpoint : point ≤ 0
  · -- zeros lead from the point to the digits
    have hfraction : List.replicate (-point).toNat '0' ++ digits ≠ [] := by simp [hne]
    refine ⟨List.replicate 1 '0', List.replicate (-point).toNat '0' ++ digits, ?_, ?_, by simp,
      .inl rfl, ?_⟩
    · rw [positional, if_pos hpoint, joined, if_neg hfraction]
      rfl
    · simp only [List.mem_append]
      rintro c (hc | hc | hc)
      exacts [hzeros _ c hc, hzeros _ c hc, hdigits c hc]
    · rw [value_replicate_append, value_replicate_append, List.length_append,
        List.length_replicate, div_eq_mul_inv, ← zpow_natCast, ← zpow_neg]
      congr 2
      omega
  by_cases hwhole : digits.length ≤ point.toNat
  · -- zeros lead from the digits to the point
    refine ⟨digits ++ List.replicate (point.toNat - digits.length) '0', [], ?_, ?_, by simp [hne],
      .inr (List.head?_append_of_ne_nil _ hne), ?_⟩
    · rw [positional, if_neg hpoint, if_pos hwhole, if_neg (by decide), List.append_nil, joined,
        if_pos rfl]
    · rw [List.append_nil]
      exact fun c hc => (List.mem_append.mp hc).elim (hdigits c) (hzeros _ c)
    · rw [List.append_nil, value_append_replicate, List.length_nil, pow_zero, div_one, Nat.cast_mul,
        Nat.cast_pow, Nat.cast_ofNat, ← zpow_natCast]
      congr 2
      omega
  · have hfraction : digits.drop point.toNat ≠ [] := by
      rw [← List.length_pos_iff, List.length_drop]
      omega
    refine ⟨digits.take point.toNat, digits.drop point.toNat, ?_, ?_, ?_, .inr ?_, ?_⟩
    · rw [positional, if_neg hpoint, if_neg hwhole, joined, if_neg hfraction]
    · rwa [List.take_append_drop]
    · rw [← List.length_pos_iff, List.length_take]
      omega
    · rw [List.head?_take, if_neg (by omega)]
    · rw [List.take_append_drop, List.length_drop, div_eq_mul_inv, ← zpow_natCast, ← zpow_neg]
      congr 2
      omega

/-- Digits in positional form are plain, and the point says how much they denote. -/
theorem denoted_positional {digits : List Char} (hne : digits ≠ [])
    (hdigits : ∀ c ∈ digits, c.isDigit = true) (point : Int) :
    IsPlain (positional false digits point) ∧
      denoted (positional false digits point) =
        value 10 digits * 10 ^ (point - digits.length) := by
  obtain ⟨whole, fraction, htext, hall, hwhole, -, hvalue⟩ := exists_positional hne hdigits point
  rw [htext, denoted_joined hall]
  exact ⟨isPlain_joined hwhole hall, hvalue⟩

/-- The leading digit of a shortest decimal stands within the reach of plain layout. -/
private theorem leading_shortest (tie : Decimal.Tie) {units : Nat} (h : units ≠ 0)
    (hlimit : units < Number.limit) :
    -400 ≤ (Decimal.shortest tie units).exponent +
        (Digits.ofNat 10 (Decimal.shortest tie units).digits).length - 1 ∧
      (Decimal.shortest tie units).exponent +
        (Digits.ofNat 10 (Decimal.shortest tie units).digits).length - 1 ≤ 400 := by
  obtain ⟨hlow, hhigh⟩ := Decimal.value_shortest_bounds tie h hlimit
  generalize Decimal.shortest tie units = d at hlow hhigh ⊢
  have hten : (1 : ℚ) < 10 := by norm_num
  have hpower : (0 : ℚ) < 10 ^ d.exponent := by positivity
  have hdigits : d.digits ≠ 0 := by
    intro hzero
    rw [Decimal.value, hzero] at hlow
    norm_num at hlow
  have hfrom : (10 : ℚ) ^ ((ofNat 10 d.digits).length - 1) ≤ d.digits := by
    exact_mod_cast pow_length_ofNat_le hdigits
  have hto : (d.digits : ℚ) < 10 ^ (ofNat 10 d.digits).length := by
    exact_mod_cast lt_pow_length_ofNat d.digits
  have hpos : 0 < (ofNat 10 d.digits).length :=
    List.length_pos_of_ne_nil (ofNat_ne_nil 10 d.digits)
  constructor
  · have hlt : (10 : ℚ) ^ (0 : Int) <
        10 ^ ((ofNat 10 d.digits).length + d.exponent + 400 : Int) := by
      calc (10 : ℚ) ^ (0 : Int) ≤ d.digits * 10 ^ d.exponent * 10 ^ 400 := by
            rwa [zpow_zero]
        _ < 10 ^ (ofNat 10 d.digits).length * 10 ^ d.exponent * 10 ^ 400 := by gcongr
        _ = 10 ^ ((ofNat 10 d.digits).length + d.exponent + 400 : Int) := by
            rw [zpow_add₀ (by norm_num), zpow_add₀ (by norm_num)]
            rfl
    have := (zpow_lt_zpow_iff_right₀ hten).mp hlt
    omega
  · have hlt : (10 : ℚ) ^ (((ofNat 10 d.digits).length - 1 : Nat) + d.exponent : Int) <
        10 ^ (400 : Int) := by
      calc (10 : ℚ) ^ (((ofNat 10 d.digits).length - 1 : Nat) + d.exponent : Int) =
            10 ^ ((ofNat 10 d.digits).length - 1) * 10 ^ d.exponent := by
            rw [zpow_add₀ (by norm_num), zpow_natCast]
        _ ≤ d.digits * 10 ^ d.exponent := by gcongr
        _ < 10 ^ (400 : Int) := hhigh
    have := (zpow_lt_zpow_iff_right₀ hten).mp hlt
    omega

/-- The plain text of a decimal within reach has no superfluous zero and denotes the decimal. -/
theorem exists_places_decimalText {d : Decimal} (hzero : d.digits ≠ 0)
    (h : -400 ≤ d.exponent + (ofNat 10 d.digits).length - 1 ∧
      d.exponent + (ofNat 10 d.digits).length - 1 ≤ 400) :
    ∃ whole fraction, plain.decimalText d = joined whole fraction ∧
      HasPlaces fraction.length whole fraction ∧
      (value 10 (whole ++ fraction) / 10 ^ fraction.length : ℚ) = d.value := by
  have hpositional : plain.decimalText d = positional false (ofNat 10 d.digits)
      (d.exponent + (ofNat 10 d.digits).length) := by
    have htext : plain.decimalText d = positional false (ofNat 10 d.digits)
        (d.exponent + (ofNat 10 d.digits).length - 1 + 1) := if_pos h
    rw [htext, Int.sub_add_cancel]
  obtain ⟨whole, fraction, htext, hall, hne, hhead, hvalue⟩ :=
    exists_positional (ofNat_ne_nil 10 d.digits) (fun c hc => isDigit_of_mem_ofNat hc)
      (d.exponent + (ofNat 10 d.digits).length)
  refine ⟨whole, fraction, hpositional.trans htext, ⟨hall, hne, fun hwhole => ?_, rfl⟩, ?_⟩
  · rcases hhead with hsingle | hhead
    · exact hsingle
    · exact absurd (hhead ▸ hwhole) (ofNat_head (by decide) (Nat.pos_of_ne_zero hzero))
  · rw [hvalue, value_ofNat (by decide) (by decide), add_sub_cancel_right]
    rfl

/-- The plain text of a magnitude has no superfluous zero and denotes its shortest decimal. -/
theorem exists_places_plain {units : Nat} (h : Number.Representable units) :
    ∃ whole fraction, plain.chars (.finite false units h) = joined whole fraction ∧
      HasPlaces fraction.length whole fraction ∧
      (value 10 (whole ++ fraction) / 10 ^ fraction.length : ℚ) =
        (Decimal.shortest .up units).value := by
  have hchars : plain.chars (.finite false units h) =
      plain.decimalText (Decimal.shortest .up units) := by
    simp only [chars, Bool.false_eq_true, false_and, ite_false]
    rfl
  rw [hchars]
  by_cases hzero : units = 0
  · subst hzero
    have hshortest : Decimal.shortest .up 0 = ⟨0, 0⟩ := if_pos rfl
    have htext : plain.decimalText ⟨0, 0⟩ = ['0'] := by
      rw [decimalText, ofNat_zero]
      rfl
    rw [hshortest, htext]
    have hvalue : value 10 (['0'] ++ []) = 0 := by decide
    refine ⟨['0'], [], rfl, ⟨by simp, List.cons_ne_nil _ _, fun _ => rfl, rfl⟩, ?_⟩
    rw [hvalue, Decimal.value, Nat.cast_zero, zero_div, zero_mul]
  · refine exists_places_decimalText ?_ (leading_shortest .up hzero h.1)
    intro hdigits
    obtain ⟨hpos, -⟩ := Decimal.value_shortest_bounds .up hzero h.1
    rw [Decimal.value, hdigits] at hpos
    norm_num at hpos

/-- The plain text of a magnitude is a plain numeral and denotes its shortest decimal. -/
theorem denoted_plain {units : Nat} (h : Number.Representable units) :
    IsPlain (plain.chars (.finite false units h)) ∧
      denoted (plain.chars (.finite false units h)) = (Decimal.shortest .up units).value := by
  obtain ⟨whole, fraction, htext, hplaces, hvalue⟩ := exists_places_plain h
  rw [htext, denoted_joined hplaces.isDigit]
  exact ⟨isPlain_joined hplaces.whole_ne_nil hplaces.isDigit, hvalue⟩

end Layout

end LiveText
