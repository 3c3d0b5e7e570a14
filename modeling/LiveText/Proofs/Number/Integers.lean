import Mathlib
import LiveText.Proofs.Number.Display
import LiveText.Proofs.Number.Whole

/-!
# Integers as text

The shortest decimal of an integer of at most 53 bits is the integer without the zeros at its end
(`shortest_whole`), so the display text of the integer is its sign and its digits:
`display_ofInt`.
-/

namespace LiveText

open Number

namespace Decimal

/-- A search that comes past the grid of the integers ends there if it has a hit. -/
private theorem exponent_search_nonneg {tie : Tie} {units : Nat} (hhit : onGrid tie units 0 ≠ none)
    {reach : Nat} {exponent : Int} (hlow : 0 ≤ exponent) (hreach : exponent < reach) :
    0 ≤ (search tie units reach exponent).exponent := by
  induction reach generalizing exponent with
  | zero => omega
  | succ reach ih =>
    rw [search]
    split
    · rename_i d h
      rwa [(onGrid_eq_some h).1]
    · rename_i h
      have hne : exponent ≠ 0 := by
        rintro rfl
        exact hhit h
      exact ih (by omega) (by omega)

private theorem exponent_le_normalize (d : Decimal) : d.exponent ≤ d.normalize.exponent := by
  fun_induction normalize d with
  | case1 d h ih => exact (Int.le_add_one (Int.le_refl _)).trans ih
  | case2 d h => exact Int.le_refl _

/-- A grid has a hit if the neighbour below reads back. -/
private theorem onGrid_ne_none (tie : Tie) {units : Nat} {exponent : Int} {digits : Nat}
    (hdigits : units * Nat.pow 10 (-exponent).toNat / (unity * Nat.pow 10 exponent.toNat) = digits)
    (h : readsAs ⟨digits, exponent⟩ units = true) : onGrid tie units exponent ≠ none := by
  simp only [onGrid, hdigits, h]
  split
  · contradiction
  · exact Option.some_ne_none _
  · exact Option.some_ne_none _
  · split_ifs <;> cases tie <;> exact Option.some_ne_none _

/-- An integer has a hit on the grid of the integers. -/
private theorem onGrid_whole (tie : Tie) (n : Nat) : onGrid tie (n * unity) 0 ≠ none := by
  have hone : Nat.pow 10 0 = 1 := rfl
  refine onGrid_ne_none tie (?_ : _ / _ = n) ?_
  · rw [neg_zero, Int.toNat_zero, hone, Nat.mul_one, Nat.mul_one, Nat.mul_div_cancel _ unity_pos]
  · apply readsAs_of_point
    rw [neg_zero, Int.toNat_zero, Nat.mul_right_comm]

/-- The search for an integer of at most 53 bits comes past the grid of the integers. -/
private theorem leading_bounds {units : Nat} (hlow : 1074 ≤ units.log2)
    (hhigh : units.log2 < 1127) :
    0 ≤ leading units ∧ leading units < 21 := by
  rw [leading]
  omega

/-- The bits of an integer of at most 53 of them stand in front of the point. -/
theorem whole_log2 {n : Nat} (hpos : n ≠ 0) (hlt : n < 2 ^ 53) :
    1074 ≤ (n * unity).log2 ∧ (n * unity).log2 < 1127 := by
  obtain ⟨one, hone, hunity⟩ := exists_unity_eq
  rw [Nat.pow_eq] at hunity
  have hne : n * unity ≠ 0 := Nat.mul_ne_zero hpos unity_pos.ne'
  constructor
  · rw [Nat.le_log2 hne, hone, ← hunity]
    exact Nat.le_mul_of_pos_left unity (Nat.pos_of_ne_zero hpos)
  · rw [Nat.log2_lt hne]
    calc n * unity < 2 ^ 53 * unity := Nat.mul_lt_mul_of_pos_right hlt unity_pos
      _ = 2 ^ 1127 := by
        rw [hunity, ← pow_add, ← hone]

/-- The grain of such an integer is at most one. -/
private theorem grain_whole_le {n : Nat} (hpos : n ≠ 0) (hlt : n < 2 ^ 53) :
    grain (n * unity) ≤ unity := by
  have hlog := (whole_log2 hpos hlt).2
  obtain ⟨one, hone, hunity⟩ := exists_unity_eq
  rw [grain]
  calc Nat.pow 2 ((n * unity).log2 - 52) ≤ Nat.pow 2 one :=
        Nat.pow_le_pow_right (by decide) (by omega)
    _ = unity := hunity.symm

/-- The shortest decimal of an integer of at most 53 bits is that integer. -/
theorem shortest_whole (tie : Tie) {n : Nat} (hpos : n ≠ 0) (hlt : n < 2 ^ 53) :
    ∃ digits zeros : Nat, shortest tie (n * unity) = ⟨digits, zeros⟩ ∧ digits * 10 ^ zeros = n := by
  have hne : n * unity ≠ 0 := Nat.mul_ne_zero hpos unity_pos.ne'
  have hexponent : 0 ≤ (shortest tie (n * unity)).exponent := by
    obtain ⟨hlow, hhigh⟩ := leading_bounds (whole_log2 hpos hlt).1 (whole_log2 hpos hlt).2
    rw [shortest, if_neg hne]
    exact (exponent_search_nonneg (onGrid_whole tie n) hlow hhigh).trans (exponent_le_normalize _)
  obtain ⟨hlow, hhigh⟩ := value_shortest_between tie hne
  obtain ⟨⟨digits, exponent⟩, hshortest⟩ : ∃ d, shortest tie (n * unity) = d := ⟨_, rfl⟩
  rw [hshortest] at hexponent hlow hhigh
  obtain ⟨zeros, rfl⟩ := Int.eq_ofNat_of_zero_le hexponent
  refine ⟨digits, zeros, hshortest, ?_⟩
  have hvalue : value ⟨digits, zeros⟩ = (digits * 10 ^ zeros : Nat) := by
    rw [value, zpow_natCast]
    push_cast
    rfl
  have hgrain := grain_whole_le hpos hlt
  have hunity := unity_pos
  rw [hvalue] at hlow hhigh
  generalize digits * 10 ^ zeros = v at hlow hhigh ⊢
  generalize unity = one at hlow hhigh hgrain hunity
  have hlow : (interval (n * one)).1 ≤ 4 * one * v := by exact_mod_cast hlow
  have hhigh : 4 * one * v ≤ (interval (n * one)).2 := by exact_mod_cast hhigh
  -- the interval ends at most half of one away from the integer
  have hbelow : 4 * n * one ≤ (4 * v + 2) * one := by
    have hleft : 4 * (n * one) ≤ (interval (n * one)).1 + 2 * one := by
      simp only [interval]
      split <;> omega
    linarith
  have habove : 4 * v * one ≤ (4 * n + 2) * one := by
    have hright : (interval (n * one)).2 ≤ 4 * (n * one) + 2 * one := by
      simp only [interval]
      omega
    linarith
  have hle := Nat.le_of_mul_le_mul_right hbelow hunity
  have hge := Nat.le_of_mul_le_mul_right habove hunity
  omega

end Decimal

/-- Zeros stand at the end of a number for the powers of ten in it. -/
private theorem Digits.ofNat_mul_pow {n : Nat} (h : n ≠ 0) (zeros : Nat) :
    ofNat 10 (n * 10 ^ zeros) = ofNat 10 n ++ List.replicate zeros '0' := by
  induction zeros with
  | zero => rw [pow_zero, Nat.mul_one, List.replicate_zero, List.append_nil]
  | succ zeros ih =>
    have hne : n * 10 ^ zeros ≠ 0 := Nat.mul_ne_zero h (by positivity)
    have hlast := ofNat_mul_add hne (show 0 < 10 by decide)
    rw [Nat.add_zero, Nat.mul_assoc, ← pow_succ, ih] at hlast
    rw [hlast, List.replicate_succ', List.append_assoc]
    rfl

namespace Layout

open Digits

/-- A decimal without a fraction is displayed as its digits up to `10^21`. -/
theorem display_decimalText {digits zeros : Nat} (hne : digits ≠ 0)
    (hlt : digits * 10 ^ zeros < 10 ^ 21) :
    display.decimalText ⟨digits, zeros⟩ = ofNat 10 (digits * 10 ^ zeros) := by
  have hlength := (length_ofNat_le_iff (by decide)).mpr hlt
  have hpos := List.length_pos_of_ne_nil (ofNat_ne_nil 10 digits)
  rw [ofNat_mul_pow hne] at hlength ⊢
  rw [List.length_append, List.length_replicate] at hlength
  have hplain : display.plainFrom ≤ (zeros : Int) + (ofNat 10 digits).length - 1 ∧
      (zeros : Int) + (ofNat 10 digits).length - 1 ≤ display.plainTo := by
    simp only [display]
    omega
  have hpoint : ¬ (zeros : Int) + (ofNat 10 digits).length - 1 + 1 ≤ 0 := by omega
  have hplaces : ((zeros : Int) + (ofNat 10 digits).length - 1 + 1).toNat =
      (ofNat 10 digits).length + zeros := by omega
  have hzero : display.pointZero = false := rfl
  simp only [decimalText, if_pos hplain, positional, if_neg hpoint, hplaces,
    if_pos (Nat.le_add_right _ _), Nat.add_sub_cancel_left, hzero, Bool.false_eq_true, ite_false,
    List.append_nil]

end Layout

namespace Double

/-- The display text of an integer of at most 53 bits is its sign and its digits. -/
theorem display_ofInt {n : Int} (h : n.natAbs < 2 ^ 53) :
    Layout.display.chars (ofInt n) = Digits.signOf n ++ Digits.ofNat 10 n.natAbs := by
  by_cases hzero : n = 0
  · have hnil : Digits.signOf 0 = [] := rfl
    rw [hzero, ofInt_zero, zero, display_zero, Int.natAbs_zero, Digits.ofNat_zero, hnil,
      List.nil_append]
  · have hwhole : IsWhole n := Nat.le_of_lt h
    have hpos : n.natAbs ≠ 0 := Int.natAbs_ne_zero.mpr hzero
    obtain ⟨digits, zeros, hshortest, hvalue⟩ :=
      Decimal.shortest_whole Layout.display.tie hpos h
    have hdigits : digits ≠ 0 := by
      rintro rfl
      rw [Nat.zero_mul] at hvalue
      exact hpos hvalue.symm
    have hsmall : digits * 10 ^ zeros < 10 ^ 21 := by omega
    have htext := Layout.display_decimalText hdigits hsmall
    have hunits : n.natAbs * unity ≠ 0 := Nat.mul_ne_zero hpos unity_pos.ne'
    rw [hvalue] at htext
    rw [ofInt_eq hwhole]
    simp only [Layout.chars, hshortest, htext, Digits.signOf, decide_eq_true_eq, hunits, ne_eq,
      not_false_eq_true, or_true, and_true]
    split_ifs <;> rfl

end Double

end LiveText
