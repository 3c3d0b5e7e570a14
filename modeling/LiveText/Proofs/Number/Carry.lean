import Mathlib
import LiveText.Number.Fixed
import LiveText.Proofs.Number.Plain

/-!
# Rounding digits with a carry

Digits that are raised from their last place on denote one more (`value_raised`), and what is
carried puts no zero in front of them (`head_raised`). So the digits that are kept of a plain
numeral, rounded by the digit behind them, are those of the numeral rounded half up in exact
arithmetic (`value_rounded`), with so many places and no superfluous zero (`IsPlaced.rounded`).
-/

namespace LiveText

/-- The decimal times `10^places`, rounded to a natural number with a half going up. -/
def Decimal.scaled (d : Decimal) (places : Nat) : Nat :=
  let shift := d.exponent + places
  if 0 ≤ shift then d.digits * 10 ^ shift.toNat
  else (2 * d.digits + 10 ^ (-shift).toNat) / (2 * 10 ^ (-shift).toNat)

/-- The decimal at so many places is rounded half up in exact arithmetic. -/
theorem Decimal.scaled_eq_floor (d : Decimal) (places : Nat) :
    (d.scaled places : Int) = ⌊d.value * 10 ^ places + 1 / 2⌋ := by
  have hvalue : d.value * 10 ^ places = d.digits * 10 ^ (d.exponent + places) := by
    rw [value, mul_assoc, ← zpow_natCast, ← zpow_add₀ (by norm_num)]
  by_cases hshift : 0 ≤ d.exponent + places
  · -- no place is dropped, and the half is
    have hnat : d.value * 10 ^ places =
        ((d.digits * 10 ^ (d.exponent + places).toNat : Nat) : ℚ) := by
      rw [hvalue, Nat.cast_mul, Nat.cast_pow, Nat.cast_ofNat, ← zpow_natCast,
        Int.toNat_of_nonneg hshift]
    have hfloor : ⌊d.value * 10 ^ places + 1 / 2⌋ =
        ((d.digits * 10 ^ (d.exponent + places).toNat : Nat) : Int) := by
      rw [hnat, Int.floor_natCast_add]
      norm_num
    rw [hfloor, scaled, if_pos hshift]
  · have hpower : (10 : ℚ) ^ (d.exponent + places) =
        1 / (10 ^ (-(d.exponent + places)).toNat : Nat) := by
      rw [Nat.cast_pow, Nat.cast_ofNat, ← zpow_natCast, one_div, ← zpow_neg]
      congr 1
      omega
    have hpos : (0 : ℚ) < (10 ^ (-(d.exponent + places)).toNat : Nat) := by positivity
    have hquotient : d.value * 10 ^ places + 1 / 2 =
        ((2 * d.digits + 10 ^ (-(d.exponent + places)).toNat : Nat) : ℚ) /
          ((2 * 10 ^ (-(d.exponent + places)).toNat : Nat) : ℚ) := by
      rw [hvalue, hpower]
      push_cast at hpos ⊢
      field_simp
    rw [hquotient, Rat.floor_natCast_div_natCast, scaled, if_neg hshift]
    push_cast
    rfl

namespace Fixed

open Digits

variable {digits whole fraction : List Char} {places : Nat}

/-! ### The carry -/

/-- The digit after one below nine is one more, and no zero. -/
theorem next_spec {d : Char} (h : d.isDigit = true) (hnine : d ≠ '9') :
    (next d).isDigit = true ∧ next d ≠ '0' ∧
      (digit? (next d)).getD 0 = (digit? d).getD 0 + 1 := by
  have all : ∀ k : Fin 10, char k ≠ '9' → (next (char k)).isDigit = true ∧ next (char k) ≠ '0' ∧
      (digit? (next (char k))).getD 0 = (digit? (char k)).getD 0 + 1 := by decide
  have hchar := char_digit? h
  rw [← hchar] at hnine ⊢
  exact all ⟨_, digit?_of_isDigit h⟩ hnine

private theorem isDigit_carried (h : ∀ c ∈ digits, c.isDigit = true) :
    ∀ c ∈ carried digits, c.isDigit = true := by
  induction digits with
  | nil =>
    intro c hc
    rw [List.mem_singleton.mp hc]
    decide
  | cons d rest ih =>
    obtain ⟨hd, hrest⟩ := List.forall_mem_cons.mp h
    rw [carried]
    split_ifs with hnine
    · exact List.forall_mem_cons.mpr ⟨by decide, ih hrest⟩
    · exact List.forall_mem_cons.mpr ⟨(next_spec hd hnine).1, hrest⟩

/-- With a carry, digits denote one more. -/
theorem value_carried (h : ∀ c ∈ digits, c.isDigit = true) :
    value 10 (carried digits).reverse = value 10 digits.reverse + 1 := by
  induction digits with
  | nil => decide
  | cons d rest ih =>
    obtain ⟨hd, hrest⟩ := List.forall_mem_cons.mp h
    rw [carried, List.reverse_cons, value_append_singleton]
    split_ifs with hnine
    · -- a nine becomes a zero, and the digits before it denote one more
      have hzero : (digit? '0').getD 0 = 0 := by decide
      have hdigit : (digit? d).getD 0 = 9 := by
        rw [hnine]
        decide
      rw [List.reverse_cons, value_append_singleton, ih hrest, hzero, hdigit]
      omega
    · rw [List.reverse_cons, value_append_singleton, (next_spec hd hnine).2.2, Nat.add_assoc]

/-- After a carry, a zero stands in front only if one has stood there and no digit has been added.
-/
private theorem getLast?_carried (h : ∀ c ∈ digits, c.isDigit = true)
    (hzero : (carried digits).getLast? = some '0') :
    digits.getLast? = some '0' ∧ (carried digits).length = digits.length := by
  induction digits with
  | nil => cases hzero
  | cons d rest ih =>
    obtain ⟨hd, hrest⟩ := List.forall_mem_cons.mp h
    rw [carried] at hzero ⊢
    split_ifs at hzero ⊢ with hnine
    · have hne : carried rest ≠ [] := by
        cases rest with
        | nil => exact List.cons_ne_nil _ _
        | cons e rest =>
          rw [carried]
          split_ifs <;> exact List.cons_ne_nil _ _
      rw [List.getLast?_cons_of_ne_nil hne] at hzero
      obtain ⟨hlast, hlength⟩ := ih hrest hzero
      have hne' : rest ≠ [] := by
        rintro rfl
        cases hlast
      rw [List.getLast?_cons_of_ne_nil hne', List.length_cons, List.length_cons, hlength]
      exact ⟨hlast, rfl⟩
    · cases rest with
      | nil => exact absurd (Option.some.inj hzero) (next_spec hd hnine).2.1
      | cons e rest =>
        rw [List.getLast?_cons_cons] at hzero ⊢
        exact ⟨hzero, rfl⟩

private theorem isDigit_raised (h : ∀ c ∈ digits, c.isDigit = true) :
    ∀ c ∈ raised digits, c.isDigit = true := by
  intro c hc
  have hdigits : ∀ c ∈ digits.reverse, c.isDigit = true := fun c hc => h c (List.mem_reverse.mp hc)
  exact isDigit_carried hdigits c (List.mem_reverse.mp hc)

/-- Raised digits denote one more. -/
theorem value_raised (h : ∀ c ∈ digits, c.isDigit = true) :
    value 10 (raised digits) = value 10 digits + 1 := by
  rw [raised, value_carried fun c hc => h c (List.mem_reverse.mp hc), List.reverse_reverse]

/-- Raising digits puts no zero in front of them. -/
theorem head_raised (h : ∀ c ∈ digits, c.isDigit = true)
    (hzero : (raised digits).head? = some '0') :
    digits.head? = some '0' ∧ (raised digits).length = digits.length := by
  rw [raised, List.head?_reverse] at hzero
  obtain ⟨hlast, hlength⟩ := getLast?_carried (fun c hc => h c (List.mem_reverse.mp hc)) hzero
  rw [List.getLast?_reverse] at hlast
  rw [raised, List.length_reverse, hlength, List.length_reverse]
  exact ⟨hlast, rfl⟩

private theorem length_le_raised (digits : List Char) : digits.length ≤ (raised digits).length := by
  have hcarried (ds : List Char) : ds.length ≤ (carried ds).length := by
    induction ds with
    | nil => exact Nat.zero_le _
    | cons d rest ih =>
      rw [carried]
      split_ifs <;> simp [ih]
  have h := hcarried digits.reverse
  rw [raised, List.length_reverse]
  rwa [List.length_reverse] at h

/-! ### The digits that are kept -/

/-- The fraction is cut, or filled up with zeros. -/
theorem kept_eq (places : Nat) (whole fraction : List Char) : kept places whole fraction =
    whole ++ (fraction.take places ++ List.replicate (places - fraction.length) '0') := by
  rw [kept, List.append_cancel_left_eq]
  apply List.ext_getElem
  · simp only [List.length_map, List.length_range, List.length_append, List.length_take,
      List.length_replicate]
    omega
  · intro i hi hi'
    rw [List.getElem_map, List.getElem_range, List.getElem_append]
    split_ifs with hfraction
    · rw [List.length_take] at hfraction
      rw [List.getElem_take, List.getD_eq_getElem _ _ (by omega)]
    · rw [List.length_map, List.length_range] at hi
      rw [List.length_take] at hfraction
      rw [List.getElem_replicate, List.getD_eq_default _ _ (by omega)]

/-- Digits with so many of them behind the point and at least one in front of it, which is a zero
only if it stands there alone. -/
structure IsPlaced (places : Nat) (digits : List Char) : Prop where
  isDigit : ∀ c ∈ digits, c.isDigit = true
  lt_length : places < digits.length
  length_of_zero : digits.head? = some '0' → digits.length = places + 1

private theorem IsPlaced.kept (h : HasPlaces fraction.length whole fraction) (places : Nat) :
    IsPlaced places (kept places whole fraction) := by
  have hlength := List.length_pos_of_ne_nil h.whole_ne_nil
  rw [kept_eq]
  refine ⟨?_, ?_, fun hzero => ?_⟩
  · intro c hc
    rcases List.mem_append.mp hc with hc | hc
    · exact h.isDigit c (List.mem_append_left _ hc)
    rcases List.mem_append.mp hc with hc | hc
    · exact h.isDigit c (List.mem_append_right _ (List.mem_of_mem_take hc))
    · rw [List.eq_of_mem_replicate hc]
      decide
  · simp only [List.length_append, List.length_take, List.length_replicate]
    omega
  · rw [List.head?_append_of_ne_nil _ h.whole_ne_nil] at hzero
    simp only [h.whole_of_zero hzero, List.length_append, List.length_take, List.length_replicate,
      List.length_singleton]
    omega

private theorem IsPlaced.raised (h : IsPlaced places digits) : IsPlaced places (raised digits) where
  isDigit := isDigit_raised h.isDigit
  lt_length := Nat.lt_of_lt_of_le h.lt_length (length_le_raised digits)
  length_of_zero := fun hzero => by
    obtain ⟨hhead, hlength⟩ := head_raised h.isDigit hzero
    rw [hlength, h.length_of_zero hhead]

theorem IsPlaced.rounded (h : HasPlaces fraction.length whole fraction) (places : Nat) :
    IsPlaced places (rounded places whole fraction) := by
  have hkept := IsPlaced.kept h places
  rw [Fixed.rounded]
  split
  · split_ifs
    · exact hkept.raised
    · exact hkept
  · exact hkept

/-- Placed digits are a whole part and so many fraction digits. -/
theorem IsPlaced.hasPlaces (h : IsPlaced places digits) :
    HasPlaces places (digits.take (digits.length - places))
      (digits.drop (digits.length - places)) := by
  have hlength := h.lt_length
  have hne : digits ≠ [] := List.ne_nil_of_length_pos (by omega)
  refine ⟨?_, ?_, fun hzero => ?_, ?_⟩
  · rw [List.take_append_drop]
    exact h.isDigit
  · rw [← List.length_pos_iff, List.length_take]
    omega
  · rw [List.head?_take, if_neg (by omega)] at hzero
    obtain ⟨d, rest, rfl⟩ := List.exists_cons_of_ne_nil hne
    rw [h.length_of_zero hzero, Nat.add_sub_cancel_left]
    obtain rfl : d = '0' := Option.some.inj hzero
    rfl
  · rw [List.length_drop]
    omega

theorem IsPlaced.pointed_eq (h : IsPlaced places digits) :
    pointed places digits = joined (digits.take (digits.length - places))
      (digits.drop (digits.length - places)) := by
  have hlength := h.hasPlaces.length_fraction
  rw [pointed, joined]
  by_cases hplaces : places = 0
  · rw [if_pos hplaces, if_pos (List.length_eq_zero_iff.mp (hlength.trans hplaces)),
      List.append_nil]
  · rw [if_neg hplaces, if_neg (fun hempty => hplaces (by rw [← hlength, hempty]; rfl))]

/-! ### Rounding -/

/-- A digit is at least five exactly if its character is. -/
theorem five_le_iff {d : Char} (h : d.isDigit = true) : '5' ≤ d ↔ 5 ≤ (digit? d).getD 0 := by
  have all : ∀ k : Fin 10, '5' ≤ char k ↔ 5 ≤ (digit? (char k)).getD 0 := by decide
  rw [← char_digit? h]
  exact all ⟨_, digit?_of_isDigit h⟩

/-- A digit behind the digits that are kept, and more behind it that is less than one of its place,
decide how the whole is rounded. -/
theorem half_up_eq {kept d rest place : Nat} (hd : d < 10) (hrest : rest < place) :
    (2 * ((kept * 10 + d) * place + rest) + place * 10) / (2 * (place * 10)) =
      if 5 ≤ d then kept + 1 else kept := by
  have hplace : 0 < 2 * (place * 10) := by omega
  split_ifs with hfive
  · have hlow := Nat.mul_le_mul_right place hfive
    have hhigh := Nat.mul_le_mul_right place (Nat.le_of_lt_succ hd)
    refine Nat.div_eq_of_lt_le ?_ ?_
    all_goals
      ring_nf at hlow hhigh ⊢
      omega
  · have hhigh := Nat.mul_le_mul_right place (Nat.le_of_not_lt hfive)
    refine Nat.div_eq_of_lt_le ?_ ?_
    all_goals
      ring_nf at hhigh ⊢
      omega

/-- The digits that are kept of a numeral, rounded by the digit behind them, denote the decimal of
the numeral rounded half up. -/
theorem value_rounded (h : ∀ c ∈ whole ++ fraction, c.isDigit = true) (places : Nat) :
    value 10 (rounded places whole fraction) =
      (Decimal.mk (value 10 (whole ++ fraction)) (-fraction.length)).scaled places := by
  rw [rounded]
  split
  case h_1 d hd =>
    -- the digits behind the last place decide, the first of them alone
    obtain ⟨hplaces, hget⟩ := List.getElem?_eq_some_iff.mp hd
    have hkept : kept places whole fraction = whole ++ fraction.take places := by
      rw [kept_eq, Nat.sub_eq_zero_of_le hplaces.le, List.replicate_zero, List.append_nil]
    have hsplit : whole ++ fraction =
        (whole ++ fraction.take places) ++ [d] ++ fraction.drop (places + 1) := by
      rw [← hget, List.append_assoc, List.append_assoc, List.append_cancel_left_eq,
        List.singleton_append, ← List.drop_eq_getElem_cons, List.take_append_drop]
    have hdigit : d.isDigit = true :=
      h d (List.mem_append_right _ (hget ▸ List.getElem_mem hplaces))
    have hkeptDigits : ∀ c ∈ whole ++ fraction.take places, c.isDigit = true := by
      intro c hc
      refine h c ?_
      rw [hsplit]
      exact List.mem_append_left _ (List.mem_append_left _ hc)
    have hrest : value 10 (fraction.drop (places + 1)) < 10 ^ (fraction.drop (places + 1)).length :=
      value_lt fun c hc => h c (List.mem_append_right _ (List.mem_of_mem_drop hc))
    have hlength : fraction.length = places + 1 + (fraction.drop (places + 1)).length := by
      rw [List.length_drop]
      omega
    have hshift : ¬ (0 : Int) ≤ -fraction.length + places := by omega
    have hpower : (-(-(fraction.length : Int) + places)).toNat =
        (fraction.drop (places + 1)).length + 1 := by omega
    rw [Decimal.scaled, if_neg hshift]
    dsimp only
    rw [hpower, hkept, hsplit, value_append, value_append_singleton, pow_succ,
      half_up_eq (digit?_of_isDigit hdigit) hrest]
    by_cases hfive : '5' ≤ d
    · rw [if_pos hfive, if_pos ((five_le_iff hdigit).mp hfive), value_raised hkeptDigits]
    · rw [if_neg hfive, if_neg fun hle => hfive ((five_le_iff hdigit).mpr hle)]
  case h_2 hnone =>
    -- every digit is kept
    have hplaces := List.getElem?_eq_none_iff.mp hnone
    have hshift : (0 : Int) ≤ -fraction.length + places := by omega
    have hpower : (-(fraction.length : Int) + places).toNat = places - fraction.length := by omega
    rw [kept_eq, List.take_of_length_le hplaces, ← List.append_assoc, value_append_replicate,
      Decimal.scaled, if_pos hshift]
    dsimp only
    rw [hpower]

end Fixed

end LiveText
