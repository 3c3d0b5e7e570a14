import Mathlib
import LiveText.Number.Decimal

/-!
# The number of a shortest decimal

The search for the shortest decimal of a magnitude ends with one that reads back as it
(`readsAs_search`), and taking zeros off its digits does not change its number (`value_normalize`).
So this number lies in the interval that rounds to the magnitude, and is neither below `10^-400` nor
as great as `10^400` (`value_shortest_bounds`).
-/

namespace LiveText.Decimal

open Number

/-- The number of a decimal. -/
def value (d : Decimal) : ℚ := d.digits * 10 ^ d.exponent

/-- A power of ten is the quotient of two with natural exponents, one of which is one. -/
private theorem zpow_mul_pow_toNat_neg (exponent : Int) :
    (10 : ℚ) ^ exponent * 10 ^ (-exponent).toNat = 10 ^ exponent.toNat := by
  rw [← zpow_natCast, ← zpow_natCast, ← zpow_add₀ (by norm_num)]
  congr 1
  omega

/-- Zeros at the end of the digits count in the exponent as well. -/
theorem value_normalize (d : Decimal) : d.normalize.value = d.value := by
  fun_induction normalize d with
  | case1 d h ih =>
    have hdigits : (d.digits : ℚ) = 10 * (d.digits / 10 : Nat) := by
      exact_mod_cast (Nat.mul_div_cancel' (Nat.dvd_of_mod_eq_zero h.1)).symm
    rw [ih, value, value, hdigits, zpow_add_one₀ (by norm_num)]
    ring
  | case2 d h => rfl

/-! ### The interval of a magnitude -/

theorem grain_le {units : Nat} (h : units ≠ 0) : grain units ≤ units := by
  have hle : Nat.pow 2 (units.log2 - 52) ≤ Nat.pow 2 units.log2 :=
    Nat.pow_le_pow_right (by decide) (Nat.sub_le _ _)
  exact hle.trans ((Nat.log2_eq_iff h).mp rfl).1

/-- The interval of a magnitude ends within half of the magnitude. -/
theorem interval_bounds {units : Nat} (h : units ≠ 0) :
    2 * units ≤ (interval units).1 ∧ (interval units).1 < 4 * units ∧
      4 * units < (interval units).2 ∧ (interval units).2 ≤ 6 * units := by
  have hgrain := grain_le h
  have hpos := grain_pos units
  simp only [interval]
  split <;> omega

/-- The place of a decimal in quarters of a least unit, scaled to a natural number. -/
theorem cast_point (d : Decimal) :
    ((4 * d.digits * 10 ^ d.exponent.toNat * unity : Nat) : ℚ) =
      4 * unity * d.value * (10 ^ (-d.exponent).toNat : Nat) := by
  push_cast
  rw [value, ← zpow_mul_pow_toNat_neg]
  ring

/-- A decimal that reads back as a magnitude lies in its interval. -/
theorem between_of_readsAs {d : Decimal} {units : Nat} (h : d.readsAs units = true) :
    ((interval units).1 : ℚ) ≤ 4 * unity * d.value ∧
      4 * unity * d.value ≤ ((interval units).2 : ℚ) := by
  have hle : (interval units).1 * 10 ^ (-d.exponent).toNat ≤
        4 * d.digits * 10 ^ d.exponent.toNat * unity ∧
      4 * d.digits * 10 ^ d.exponent.toNat * unity ≤
        (interval units).2 * 10 ^ (-d.exponent).toNat := by
    simp only [readsAs, Nat.pow_eq] at h
    split at h
    · simpa only [Bool.and_eq_true, decide_eq_true_eq] using h
    · rw [Bool.and_eq_true, decide_eq_true_eq, decide_eq_true_eq] at h
      exact ⟨h.1.le, h.2.le⟩
  have hscale : (0 : ℚ) < (10 ^ (-d.exponent).toNat : Nat) := by positivity
  constructor
  · rw [← mul_le_mul_iff_left₀ hscale, ← cast_point]
    exact_mod_cast hle.1
  · rw [← mul_le_mul_iff_left₀ hscale, ← cast_point]
    exact_mod_cast hle.2

/-- An end of its interval reads back as a magnitude only if the magnitude is even. -/
theorem closed_of_readsAs {d : Decimal} {units : Nat} (h : d.readsAs units = true)
    (hend : 4 * unity * d.value = ((interval units).1 : ℚ) ∨
      4 * unity * d.value = ((interval units).2 : ℚ)) : closed units = true := by
  have hpoint : 4 * d.digits * 10 ^ d.exponent.toNat * unity =
        (interval units).1 * 10 ^ (-d.exponent).toNat ∨
      4 * d.digits * 10 ^ d.exponent.toNat * unity =
        (interval units).2 * 10 ^ (-d.exponent).toNat := by
    have hcast := cast_point d
    rcases hend with hend | hend
    · rw [hend] at hcast
      exact .inl (by exact_mod_cast hcast)
    · rw [hend] at hcast
      exact .inr (by exact_mod_cast hcast)
  by_contra hopen
  simp only [readsAs, Nat.pow_eq, if_neg hopen, Bool.and_eq_true, decide_eq_true_eq] at h
  omega

/-! ### The search -/

/-- The number one is a power of two, as is the limit of the magnitudes. -/
theorem exists_unity_eq : ∃ n : Nat, 1074 = n ∧ unity = Nat.pow 2 n := ⟨1074, by decide +kernel⟩

private theorem exists_limit_eq : ∃ n : Nat, 2098 = n ∧ limit = Nat.pow 2 n :=
  ⟨2098, by decide +kernel⟩

/-- A decimal that is as great as a magnitude reads back as it. -/
theorem readsAs_of_point {d : Decimal} {units : Nat}
    (h : d.digits * Nat.pow 10 d.exponent.toNat * unity =
      units * Nat.pow 10 (-d.exponent).toNat) : d.readsAs units = true := by
  have hpoint : 4 * d.digits * Nat.pow 10 d.exponent.toNat * unity =
      4 * units * Nat.pow 10 (-d.exponent).toNat := by
    rw [Nat.mul_assoc, Nat.mul_assoc, ← Nat.mul_assoc d.digits, h, Nat.mul_assoc]
  have hpos : 0 < Nat.pow 10 (-d.exponent).toNat := Nat.pow_pos (by decide)
  simp only [readsAs, hpoint]
  by_cases hzero : units = 0
  · subst hzero
    simp only [interval, closed, Nat.zero_div, Nat.zero_mod, beq_self_eq_true, ite_true,
      Nat.mul_zero, Nat.zero_sub, Nat.zero_mul, Nat.zero_add, Nat.zero_le, decide_true,
      Bool.and_true]
  · obtain ⟨-, hlow, hhigh, -⟩ := interval_bounds hzero
    split <;> rw [Bool.and_eq_true, decide_eq_true_eq, decide_eq_true_eq]
    · exact ⟨Nat.mul_le_mul_right _ hlow.le, Nat.mul_le_mul_right _ hhigh.le⟩
    · exact ⟨Nat.mul_lt_mul_of_pos_right hlow hpos, Nat.mul_lt_mul_of_pos_right hhigh hpos⟩

/-- The exact expansion of a magnitude, counted in units of `2^-n`, reads back as it. -/
theorem readsAs_exact (units : Nat) {n : Nat} (hunity : unity = Nat.pow 2 n) :
    readsAs ⟨units * Nat.pow 5 n, -(n : Int)⟩ units = true := by
  have hzero : (-(n : Int)).toNat = 0 := by omega
  have hplaces : (-(-(n : Int))).toNat = n := by omega
  have hten : Nat.pow 10 n = Nat.pow 5 n * Nat.pow 2 n := mul_pow 5 2 n
  apply readsAs_of_point
  rw [hzero, hplaces, hunity, hten, show Nat.pow 10 0 = 1 from rfl, Nat.mul_one, Nat.mul_assoc]

/-- What is found on a grid lies on it and reads back as the magnitude. -/
theorem onGrid_eq_some {tie : Tie} {units : Nat} {exponent : Int} {d : Decimal}
    (h : onGrid tie units exponent = some d) : d.exponent = exponent ∧ d.readsAs units = true := by
  simp only [onGrid] at h
  split at h
  · cases h
  · rename_i hbelow _
    exact Option.some.inj h ▸ ⟨rfl, hbelow⟩
  · rename_i _ habove
    exact Option.some.inj h ▸ ⟨rfl, habove⟩
  · rename_i hbelow habove
    split_ifs at h
    · exact Option.some.inj h ▸ ⟨rfl, hbelow⟩
    · exact Option.some.inj h ▸ ⟨rfl, habove⟩
    · cases tie with
      | up => exact Option.some.inj h ▸ ⟨rfl, habove⟩
      | even => exact Option.some.inj h ▸ ⟨rfl, hbelow⟩
    · cases tie <;> exact Option.some.inj h ▸ ⟨rfl, habove⟩

/-- The search ends with a decimal that reads back as the magnitude. -/
theorem readsAs_search (tie : Tie) (units reach : Nat) (exponent : Int) :
    (search tie units reach exponent).readsAs units = true := by
  induction reach generalizing exponent with
  | zero =>
    obtain ⟨n, hn, hunity⟩ := exists_unity_eq
    have hexponent : (-1074 : Int) = -(n : Int) := by omega
    rw [search, hexponent, hn]
    exact readsAs_exact units hunity
  | succ reach ih =>
    rw [search]
    split
    · rename_i d h
      exact (onGrid_eq_some h).2
    · exact ih (exponent - 1)

/-- The number of the shortest decimal lies in the interval that rounds to the magnitude. -/
theorem value_shortest_between (tie : Tie) {units : Nat} (h : units ≠ 0) :
    ((interval units).1 : ℚ) ≤ 4 * unity * (shortest tie units).value ∧
      4 * unity * (shortest tie units).value ≤ ((interval units).2 : ℚ) := by
  rw [shortest, if_neg h, value_normalize]
  exact between_of_readsAs (readsAs_search ..)

/-- Three bits are fewer than one decimal digit. -/
theorem two_pow_le_ten_pow {R : Type} [CommSemiring R] [LinearOrder R] [IsStrictOrderedRing R]
    {m n : Nat} (h : m ≤ 3 * n) : (2 : R) ^ m ≤ 10 ^ n := by
  calc (2 : R) ^ m ≤ 2 ^ (3 * n) := pow_le_pow_right₀ one_le_two h
    _ = (2 ^ 3) ^ n := pow_mul 2 3 n
    _ ≤ 10 ^ n := pow_le_pow_left₀ (by norm_num) (by norm_num) n

/-- The shortest decimals of doubles stay within the powers of ten `10^-400` and `10^400`. -/
theorem value_shortest_bounds (tie : Tie) {units : Nat} (h : units ≠ 0) (hlimit : units < limit) :
    1 ≤ (shortest tie units).value * 10 ^ 400 ∧ (shortest tie units).value < 10 ^ 400 := by
  obtain ⟨hlow, hhigh⟩ := value_shortest_between tie h
  obtain ⟨hmin, -, -, hmax⟩ := interval_bounds h
  generalize (shortest tie units).value = v at hlow hhigh ⊢
  obtain ⟨n, hn, hunity⟩ := exists_unity_eq
  obtain ⟨m, hm, hlimit'⟩ := exists_limit_eq
  have hlow' : 2 ≤ 4 * (2 : ℚ) ^ n * v := by
    have htwo : (2 : ℚ) ≤ (interval units).1 := by
      have hnat : 2 ≤ (interval units).1 := by omega
      exact_mod_cast hnat
    simpa [hunity] using htwo.trans hlow
  have hhigh' : 4 * (2 : ℚ) ^ n * v < 6 * (2 ^ n * 2 ^ 1024) := by
    have hsix : ((interval units).2 : ℚ) ≤ 6 * units := by exact_mod_cast hmax
    have hunits : (units : ℚ) < 2 ^ n * 2 ^ 1024 := by
      have hsum : m = n + 1024 := by omega
      rw [hlimit', hsum] at hlimit
      rw [← pow_add]
      exact_mod_cast hlimit
    have hvalue : 4 * (2 : ℚ) ^ n * v ≤ (interval units).2 := by simpa [hunity] using hhigh
    exact hvalue.trans_lt (hsix.trans_lt (mul_lt_mul_of_pos_left hunits (by norm_num)))
  have hlower : (2 : ℚ) ^ n * 2 ^ 126 ≤ 10 ^ 400 := by
    rw [← pow_add]
    exact two_pow_le_ten_pow (by omega)
  have hupper : (2 : ℚ) ^ 1024 * 2 ^ 176 ≤ 10 ^ 400 := by
    rw [← pow_add]
    exact two_pow_le_ten_pow (by omega)
  have hpos : (0 : ℚ) < 2 ^ n := by positivity
  have htop : (0 : ℚ) ≤ 2 ^ 1024 := by positivity
  -- from here on the great powers are only names
  generalize (2 : ℚ) ^ n = one at hlow' hhigh' hlower hpos
  generalize (10 : ℚ) ^ 400 = great at hlower hupper ⊢
  generalize (2 : ℚ) ^ 1024 = top at hhigh' hupper htop
  have hv : 0 < v := by
    by_contra hneg
    have hle : one * v ≤ 0 := mul_nonpos_of_nonneg_of_nonpos hpos.le (not_lt.mp hneg)
    linarith
  constructor
  · have hmul : one * v * 2 ^ 126 ≤ v * great := by
      calc one * v * 2 ^ 126 = v * (one * 2 ^ 126) := by ring
        _ ≤ v * great := mul_le_mul_of_nonneg_left hlower hv.le
    linarith
  · have hlt : v < 2 * top := by
      have hmul : one * (2 * v) < one * (3 * top) := by linarith
      have hcancel := lt_of_mul_lt_mul_left hmul hpos.le
      linarith
    linarith

end LiveText.Decimal
