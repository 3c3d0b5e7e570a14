import Mathlib
import LiveText.Proofs.Number.Rounding

/-!
# Whole numbers

Integers of at most 53 bits are doubles (`ofInt_eq`). They are compared as integers
(`less_ofInt_iff`), their sums and their products with counts are those of integers
(`ofInt_add_ofInt`, `ofInt_mul_ofNat`), and they are their own floor (`floor_ofInt`). Those of at
most 32 bits are kept where a number is cut to an index (`toInt32_ofInt`).
-/

namespace LiveText.Double

open Number

theorem unity_cast_pos : (0 : Int) < unity := Int.natCast_pos.mpr unity_pos

/-- An integer of at most 53 bits. -/
def IsWhole (n : Int) : Prop := n.natAbs ≤ Nat.pow 2 53

theorem isWhole_iff {n : Int} : IsWhole n ↔ n.natAbs ≤ 9007199254740992 := by
  rw [IsWhole, show Nat.pow 2 53 = 9007199254740992 from by decide]

theorem representable_of_isWhole {n : Int} (h : IsWhole n) : Representable (n.natAbs * unity) := by
  constructor
  · calc n.natAbs * unity ≤ Nat.pow 2 53 * unity := Nat.mul_le_mul_right unity h
      _ < limit := by decide +kernel
  · obtain ⟨bits, -, hunity⟩ := Decimal.exists_unity_eq
    rw [hunity]
    exact grain_dvd_mul h

theorem units_finite (negative : Bool) (units : Nat) (h : Representable units) :
    (Double.finite negative units h).units = if negative then -(units : Int) else units := by
  cases negative <;> rfl

/-- An integer of at most 53 bits is a double. -/
theorem ofInt_eq {n : Int} (h : IsWhole n) :
    ofInt n = .finite (n < 0) (n.natAbs * unity) (representable_of_isWhole h) :=
  ofUnits_of_representable _ _

theorem ofInt_zero : ofInt 0 = zero false := by decide +kernel

/-- A count is an integer. -/
theorem ofInt_natCast (n : Nat) : ofInt n = ofNat n := by
  have hsign : decide ((n : Int) < 0) = false :=
    decide_eq_false (Int.not_lt.mpr (Int.natCast_nonneg n))
  rw [ofInt, ofNat, hsign, Int.natAbs_natCast]

theorem isFinite_ofInt {n : Int} (h : IsWhole n) : (ofInt n).isFinite = true := by
  rw [ofInt_eq h, isFinite]

theorem isIntegral_ofInt {n : Int} (h : IsWhole n) : (ofInt n).isIntegral = true := by
  rw [ofInt_eq h, isIntegral, Nat.mul_mod_left, beq_self_eq_true]

theorem isZero_ofInt_iff {n : Int} (h : IsWhole n) : (ofInt n).isZero = true ↔ n = 0 := by
  rw [ofInt_eq h, isZero, beq_iff_eq, Nat.mul_eq_zero, or_iff_left unity_pos.ne',
    Int.natAbs_eq_zero]

theorem isNaN_ofInt {n : Int} (h : IsWhole n) : (ofInt n).isNaN = false := by
  rw [ofInt_eq h]
  rfl

theorem units_ofInt {n : Int} (h : IsWhole n) : (ofInt n).units = n * unity := by
  rw [ofInt_eq h]
  rcases lt_or_ge n 0 with hn | hn
  · rw [decide_eq_true hn, units, Nat.cast_mul, Int.ofNat_natAbs_of_nonpos hn.le, Int.neg_mul,
      Int.neg_neg]
  · rw [decide_eq_false (not_lt.mpr hn), units, Nat.cast_mul, Int.natAbs_of_nonneg hn]

/-- Finite numbers are compared by their least units. -/
theorem compare?_of_isFinite {x y : Double} (hx : x.isFinite = true) (hy : y.isFinite = true) :
    compare? x y = some (compare x.units y.units) := by
  obtain ⟨_, _, _, rfl⟩ := exists_finite_eq hx
  obtain ⟨_, _, _, rfl⟩ := exists_finite_eq hy
  rfl

private theorem less_iff_units {x y : Double} (hx : x.isFinite = true) (hy : y.isFinite = true) :
    x.less y = true ↔ x.units < y.units := by
  rw [less, compare?_of_isFinite hx hy, beq_iff_eq, Option.some.injEq, compare_lt_iff_lt]

/-- Integers are compared as such. -/
theorem less_ofInt_iff {m n : Int} (hm : IsWhole m) (hn : IsWhole n) :
    (ofInt m).less (ofInt n) = true ↔ m < n := by
  rw [less_iff_units (isFinite_ofInt hm) (isFinite_ofInt hn), units_ofInt hm, units_ofInt hn,
    mul_lt_mul_iff_left₀ unity_cast_pos]

/-- A quotient that comes out even is rounded like the whole number that it is. -/
private theorem ofUnits_mul_self (negative : Bool) (num : Nat) {den : Nat} (hden : 0 < den) :
    ofUnits negative (num * den) den = ofUnits negative num 1 := by
  have hunity : (unity : ℚ) ≠ 0 := Nat.cast_ne_zero.mpr unity_pos.ne'
  have hne : (den : ℚ) ≠ 0 := Nat.cast_ne_zero.mpr hden.ne'
  apply Rounds.unique (rounds_ofUnits negative (q := num / unity) hden ?_)
    (rounds_ofUnits negative (q := num / unity) Nat.one_pos ?_)
  · rw [div_mul_cancel₀ _ hunity, Nat.cast_mul, mul_div_cancel_right₀ _ hne]
  · rw [div_mul_cancel₀ _ hunity, Nat.cast_one, div_one]

private theorem finite_mul_finite {a b : Bool} {u v : Nat} (hu : Representable u)
    (hv : Representable v) :
    Double.finite a u hu * Double.finite b v hv = ofUnits (a != b) (u * v) unity := by
  change mul _ _ = _
  rw [mul]

/-- The product of an integer and a count is that of the integers. -/
theorem ofInt_mul_ofNat {n : Int} {k : Nat} (hn : IsWhole n) (hk : IsWhole k) (hpos : 0 < k) :
    ofInt n * ofNat k = ofInt (n * k) := by
  have hsign : ((decide (n < 0)) != (decide ((k : Int) < 0))) = decide (n * k < 0) := by
    have hcount : ¬ (k : Int) < 0 := Int.not_lt.mpr (Int.natCast_nonneg k)
    have hproduct : n * k < 0 ↔ n < 0 := by
      rw [mul_neg_iff, or_iff_right (fun h => hcount h.2)]
      exact and_iff_left (Int.natCast_pos.mpr hpos)
    rw [decide_eq_false hcount, Bool.bne_false, decide_eq_decide, hproduct]
  have hunits : n.natAbs * unity * ((k : Int).natAbs * unity) = (n * k).natAbs * unity * unity := by
    rw [Int.natAbs_mul]
    ring
  rw [← ofInt_natCast k, ofInt_eq hn, ofInt_eq hk, finite_mul_finite, hsign, hunits,
    ofUnits_mul_self _ _ unity_pos, ofInt]

/-- An integer is its own floor. -/
theorem floor_ofInt {n : Int} (h : IsWhole n) : (ofInt n).floor = ofInt n := by
  have hcut : ¬ (decide (n < 0) = true ∧ n.natAbs * unity % unity ≠ 0) :=
    fun hcut => hcut.2 (Nat.mul_mod_left ..)
  rw [ofInt_eq h, floor, if_neg hcut, Nat.mul_div_cancel _ unity_pos]
  exact ofUnits_of_representable _ (representable_of_isWhole h)

/-- The integral part of a whole count of units of one is that count. -/
theorem toInt_of_units {x : Double} {n : Int} (h : x.isFinite = true)
    (hunits : x.units = n * unity) :
    x.toInt = n := by
  obtain ⟨negative, units, h, rfl⟩ := exists_finite_eq h
  rw [units_finite] at hunits
  have hunity := unity_cast_pos.ne'
  cases negative with
  | false =>
    rw [if_neg Bool.false_ne_true] at hunits
    rw [toInt, if_neg Bool.false_ne_true, Int.natCast_ediv, hunits, Int.mul_ediv_cancel _ hunity]
  | true =>
    rw [if_pos rfl] at hunits
    rw [toInt, if_pos rfl, Int.natCast_ediv, ← neg_neg (units : Int), hunits, ← neg_mul,
      Int.mul_ediv_cancel _ hunity, neg_neg]

theorem toInt_ofInt {n : Int} (h : IsWhole n) : (ofInt n).toInt = n :=
  toInt_of_units (isFinite_ofInt h) (units_ofInt h)

/-! ### Sums -/

theorem finite_add_finite {a b : Bool} {u v : Nat} (hu : Representable u) (hv : Representable v) :
    Double.finite a u hu + Double.finite b v hv =
      let sum := (Double.finite a u hu).units + (Double.finite b v hv).units
      if sum = 0 then zero (a && b && u == 0 && v == 0) else ofUnits (sum < 0) sum.natAbs 1 := rfl

/-- A count of least units that is a magnitude is what the number has. -/
private theorem units_ofUnits {n : Int} (h : Representable n.natAbs) :
    (ofUnits (n < 0) n.natAbs 1).isFinite = true ∧ (ofUnits (n < 0) n.natAbs 1).units = n := by
  rw [ofUnits_of_representable _ h, units_finite]
  refine ⟨rfl, ?_⟩
  simp only [decide_eq_true_eq]
  split_ifs <;> omega

theorem add_of_units {x y : Double} (hx : x.isFinite = true) (hy : y.isFinite = true)
    (hne : x.units + y.units ≠ 0) :
    x + y = ofUnits (x.units + y.units < 0) (x.units + y.units).natAbs 1 := by
  obtain ⟨_, _, _, rfl⟩ := exists_finite_eq hx
  obtain ⟨_, _, _, rfl⟩ := exists_finite_eq hy
  exact if_neg hne

/-- Least units are added exactly where their sum is a magnitude. -/
theorem units_add {x y : Double} (hx : x.isFinite = true) (hy : y.isFinite = true)
    (hsum : Representable (x.units + y.units).natAbs) :
    (x + y).isFinite = true ∧ (x + y).units = x.units + y.units := by
  obtain ⟨_, _, _, rfl⟩ := exists_finite_eq hx
  obtain ⟨_, _, _, rfl⟩ := exists_finite_eq hy
  rw [finite_add_finite]
  dsimp only
  split_ifs with hzero
  · refine ⟨rfl, ?_⟩
    rw [hzero, zero, units_finite, Nat.cast_zero, neg_zero, ite_self]
  · exact units_ofUnits hsum

/-- The sum of integers is that of the integers. -/
theorem ofInt_add_ofInt {m n : Int} (hm : IsWhole m) (hn : IsWhole n) :
    ofInt m + ofInt n = ofInt (m + n) := by
  have hunity := unity_cast_pos
  have hunits : (ofInt m).units + (ofInt n).units = (m + n) * unity := by
    rw [units_ofInt hm, units_ofInt hn, add_mul]
  rw [ofInt_eq hm, ofInt_eq hn] at hunits
  rw [ofInt_eq hm, ofInt_eq hn, finite_add_finite, hunits]
  dsimp only
  split_ifs with hzero
  · -- integers that cancel out are not both negative
    have hcancel : m + n = 0 := (mul_eq_zero_iff_right hunity.ne').mp hzero
    have hsign : (decide (m < 0) && decide (n < 0)) = false := by
      rw [Bool.and_eq_false_iff, decide_eq_false_iff_not, decide_eq_false_iff_not]
      omega
    rw [hsign, hcancel, Bool.false_and, Bool.false_and, ofInt_eq (Nat.zero_le _)]
    simp only [zero, Int.natAbs_zero, Nat.zero_mul, lt_irrefl, decide_false]
  · have hneg : (m + n) * (unity : Int) < 0 ↔ m + n < 0 := by
      rw [mul_neg_iff]
      omega
    rw [decide_eq_decide.mpr hneg, Int.natAbs_mul, Int.natAbs_natCast, ofInt]

/-- The sum of counts is that of the numbers. -/
theorem ofNat_add_ofNat {m n : Nat} (h : m + n < 2 ^ 53) : ofNat m + ofNat n = ofNat (m + n) := by
  have hm : IsWhole m := isWhole_iff.mpr (by omega)
  have hn : IsWhole n := isWhole_iff.mpr (by omega)
  rw [← ofInt_natCast, ← ofInt_natCast, ofInt_add_ofInt hm hn, ← Nat.cast_add, ofInt_natCast]

/-- The opposite of an integer other than zero is that of the integer. -/
theorem neg_ofInt {n : Int} (h : IsWhole n) (hne : n ≠ 0) : -ofInt n = ofInt (-n) := by
  have hneg : IsWhole (-n) := by rwa [IsWhole, Int.natAbs_neg]
  have hsign : (!decide (n < 0)) = decide (-n < 0) := by
    rw [← decide_not, decide_eq_decide]
    omega
  change neg _ = _
  rw [ofInt_eq h, ofInt_eq hneg, neg]
  simp only [hsign, Int.natAbs_neg]

private theorem finite_sub_self {units : Nat} (h : Representable units) :
    Double.finite false units h - Double.finite false units h = zero false := by
  have hsub : Double.finite false units h - Double.finite false units h =
      Double.finite false units h + Double.finite true units h := rfl
  have hsum : (Double.finite false units h).units + (Double.finite true units h).units = 0 :=
    Int.add_right_neg _
  rw [hsub, finite_add_finite, hsum]
  rfl

/-- An integer has nothing behind the point. -/
theorem fract_whole {size : Nat} (h : Representable (size * unity)) :
    (Double.finite false (size * unity) h).fract = zero false := by
  have htrunc : (Double.finite false (size * unity) h).trunc = .finite false (size * unity) h := by
    rw [trunc, Nat.mul_div_cancel _ unity_pos]
    exact ofUnits_of_representable false h
  rw [fract, htrunc, finite_sub_self]

/-! ### Integers of 32 bits -/

/-- Integers of at most 32 bits, with a sign. -/
def FitsInt32 (n : Int) : Prop := -0x80000000 ≤ n ∧ n < 0x80000000

instance : DecidablePred FitsInt32 := fun _ => inferInstanceAs (Decidable (_ ∧ _))

/-- Whatever a number is, its index has at most 32 bits. -/
theorem fitsInt32_toInt32 (x : Double) : FitsInt32 x.toInt32 := by
  simp only [FitsInt32, toInt32, Int.bmod]
  omega

/-- An integral part is its own index exactly if it has at most 32 bits. -/
theorem toInt32_eq_toInt_iff {x : Double} : x.toInt32 = x.toInt ↔ FitsInt32 x.toInt := by
  constructor
  · intro h
    exact h ▸ fitsInt32_toInt32 x
  · rintro ⟨hlow, hhigh⟩
    simp only [toInt32, Int.bmod]
    omega

/-- An integer of at most 32 bits is its own index. -/
theorem toInt32_ofInt {n : Int} (h : FitsInt32 n) : (ofInt n).toInt32 = n := by
  have hwhole : (ofInt n).toInt = n := by
    apply toInt_ofInt
    rw [isWhole_iff]
    obtain ⟨hlow, hhigh⟩ := h
    omega
  rw [toInt32_eq_toInt_iff.mpr (by rwa [hwhole]), hwhole]

theorem toInt32_ofNat {n : Nat} (h : n < 2 ^ 31) : (ofNat n).toInt32 = n := by
  rw [← ofInt_natCast, toInt32_ofInt ⟨by omega, by omega⟩]

end LiveText.Double
