import Mathlib
import LiveText.Proofs.Number.Whole

/-!
# Rounding half up

The floor of a finite number is exact (`units_floor`). Its distance from there is exact as well
below one half, and elsewhere it is not rounded below one half: `less_half_iff`. So rounding half up
gives the floor of the number plus one half, in exact arithmetic: `units_roundHalfUp`.
-/

namespace LiveText

namespace Number

/-- Rounding does not pass below a magnitude. -/
private theorem le_nearest {v num : Nat} (hv : grain v ∣ v) (h : v ≤ num) : v ≤ nearest num 1 := by
  by_contra hlt
  have hlt : ((nearest num 1 : Nat) : ℚ) < v := by exact_mod_cast Nat.lt_of_not_le hlt
  have hle : (v : ℚ) ≤ num := by exact_mod_cast h
  have hnear := (isNearest_nearest num Nat.one_pos).nearest v hv
  rw [Nat.cast_one, div_one, abs_of_nonneg (by linarith), abs_of_nonneg (by linarith)] at hnear
  linarith

/-- Rounding does not pass above a magnitude. -/
private theorem nearest_le {v num : Nat} (hv : grain v ∣ v) (h : num ≤ v) : nearest num 1 ≤ v := by
  by_contra hlt
  have hlt : (v : ℚ) < (nearest num 1 : Nat) := by exact_mod_cast Nat.lt_of_not_le hlt
  have hle : (num : ℚ) ≤ v := by exact_mod_cast h
  have hnear := (isNearest_nearest num Nat.one_pos).nearest v hv
  rw [Nat.cast_one, div_one, abs_of_nonpos (by linarith), abs_of_nonpos (by linarith)] at hnear
  linarith

/-- A magnitude with a fraction has at most 52 bits in front of the point, and its grain is a part
of the number one. -/
theorem grain_dvd_unity {units : Nat} (h : grain units ∣ units) (hfraction : ¬ unity ∣ units) :
    grain units ∣ unity ∧ units / unity < 2 ^ 52 := by
  obtain ⟨n, hn, hunity⟩ := Decimal.exists_unity_eq
  rw [Nat.pow_eq] at hunity
  have hlog : units.log2 - 52 < n := by
    by_contra hge
    exact hfraction (hunity ▸ (Nat.pow_dvd_pow 2 (Nat.le_of_not_lt hge)).trans h)
  refine ⟨hunity ▸ Nat.pow_dvd_pow 2 hlog.le, ?_⟩
  have hunits : units < 2 ^ (units.log2 + 1) := Nat.lt_log2_self
  rw [Nat.div_lt_iff_lt_mul unity_pos, hunity, ← pow_add]
  exact hunits.trans_le (Nat.pow_le_pow_right (by decide) (by omega))

/-- What a magnitude has behind the point, or what it lacks to the next integer, is a magnitude if
it is no greater. -/
private theorem representable_of_dvd {units part : Nat} (h : Representable units)
    (hle : part ≤ units) (hdvd : grain units ∣ part) : Representable part :=
  ⟨hle.trans_lt h.1, (grain_dvd_grain hle).trans hdvd⟩

end Number

namespace Double

open Number

/-- The exact value of a finite number. -/
def exact (x : Double) : ℚ := x.units / unity

/-! ### The floor -/

theorem dvd_units (negative : Bool) {units n : Nat} (h : Representable units) (hdvd : n ∣ units) :
    (n : Int) ∣ (Double.finite negative units h).units := by
  rw [units_finite]
  split_ifs
  · exact Int.dvd_neg.mpr (Int.natCast_dvd_natCast.mpr hdvd)
  · exact Int.natCast_dvd_natCast.mpr hdvd

/-- The integer below or at a number, in the direction of its sign. -/
def floorSize (negative : Bool) (units : Nat) : Nat :=
  if negative ∧ units % unity ≠ 0 then units / unity + 1 else units / unity

private theorem floor_finite (negative : Bool) {units : Nat} (h : Representable units) :
    (Double.finite negative units h).floor =
      ofUnits negative (floorSize negative units * unity) 1 :=
  rfl

/-- The size of the floor is that of the quotient of least units. -/
theorem units_div_unity (negative : Bool) {units : Nat} (h : Representable units) :
    (Double.finite negative units h).units / (unity : Int) =
      if negative then -(floorSize negative units : Int) else floorSize negative units := by
  rw [units_finite]
  cases negative with
  | false =>
    have hsize : floorSize false units = units / unity := if_neg fun hcut => nomatch hcut.1
    rw [if_neg Bool.false_ne_true, if_neg Bool.false_ne_true, hsize, Int.natCast_ediv]
  | true =>
    rw [if_pos rfl, if_pos rfl, Int.neg_ediv, Int.sign_eq_one_of_pos unity_cast_pos, floorSize]
    by_cases hwhole : units % unity = 0
    · have hdvd : (unity : Int) ∣ units :=
        Int.natCast_dvd_natCast.mpr (Nat.dvd_of_mod_eq_zero hwhole)
      rw [if_pos hdvd, if_neg fun hcut => hcut.2 hwhole, sub_zero, Int.natCast_ediv]
    · have hdvd : ¬ (unity : Int) ∣ units := fun hdvd =>
        hwhole (Nat.mod_eq_zero_of_dvd (Int.natCast_dvd_natCast.mp hdvd))
      rw [if_neg hdvd, if_pos ⟨rfl, hwhole⟩]
      push_cast
      ring

/-- The floor of a number with a fraction has at most 53 bits. -/
theorem floorSize_le (negative : Bool) {units : Nat} (h : grain units ∣ units)
    (hfraction : ¬ unity ∣ units) : floorSize negative units ≤ 2 ^ 52 := by
  have hlt := (grain_dvd_unity h hfraction).2
  rw [floorSize]
  split_ifs <;> omega

/-- The floor of a magnitude is one. -/
private theorem representable_floorSize (negative : Bool) {units : Nat} (h : Representable units) :
    Representable (floorSize negative units * unity) := by
  by_cases hwhole : unity ∣ units
  · have hsize : floorSize negative units * unity = units := by
      rw [floorSize, if_neg fun hcut => hcut.2 (Nat.mod_eq_zero_of_dvd hwhole),
        Nat.div_mul_cancel hwhole]
    rwa [hsize]
  · have hbits : IsWhole (floorSize negative units) := by
      have hle := floorSize_le negative h.2 hwhole
      rw [isWhole_iff, Int.natAbs_natCast]
      omega
    have hrepresentable := representable_of_isWhole hbits
    rwa [Int.natAbs_natCast] at hrepresentable

/-- The integer above a number with a fraction has at most 53 bits. -/
private theorem isWhole_floor_add_one {x : Double} (h : x.isFinite = true)
    (hfraction : x.units % (unity : Int) ≠ 0) : IsWhole (x.units / (unity : Int) + 1) := by
  obtain ⟨negative, units, hunits, rfl⟩ := exists_finite_eq h
  have hle := floorSize_le negative hunits.2 fun hwhole =>
    hfraction (Int.emod_eq_zero_of_dvd (dvd_units negative hunits hwhole))
  rw [units_div_unity, isWhole_iff]
  split_ifs <;> omega

/-- The floor is exact. -/
theorem units_floor {x : Double} (h : x.isFinite = true) :
    x.floor.isFinite = true ∧ x.floor.units = x.units / unity * unity := by
  obtain ⟨negative, units, hunits, rfl⟩ := exists_finite_eq h
  rw [floor_finite, ofUnits_of_representable _ (representable_floorSize negative hunits),
    units_finite, units_div_unity]
  refine ⟨rfl, ?_⟩
  split_ifs <;> push_cast <;> ring

/-! ### The distance from the floor -/

private theorem neg_finite (negative : Bool) {units : Nat} (h : Representable units) :
    -Double.finite negative units h = .finite (!negative) units h := rfl

private theorem units_neg {x : Double} (h : x.isFinite = true) :
    (-x).isFinite = true ∧ (-x).units = -x.units := by
  obtain ⟨negative, units, h, rfl⟩ := exists_finite_eq h
  cases negative <;> exact ⟨rfl, by simp [neg_finite, units_finite]⟩

/-- The distance of a number from its floor is no greater than its magnitude if it is below one
half. -/
private theorem units_emod_le (negative : Bool) {units : Nat} (h : Representable units)
    (hlow : 2 * ((Double.finite negative units h).units % (unity : Int)) < unity) :
    (Double.finite negative units h).units % (unity : Int) ≤ units := by
  rw [units_finite] at hlow ⊢
  cases negative with
  | false =>
    rw [if_neg Bool.false_ne_true]
    rw [← Int.natCast_emod]
    exact Int.ofNat_le.mpr (Nat.mod_le units unity)
  | true =>
    rw [if_pos rfl] at hlow ⊢
    have hnonneg := Int.emod_nonneg (-(units : Int)) unity_cast_pos.ne'
    have hdvd : (unity : Int) ∣ -(units : Int) % unity + units := by
      rw [← sub_neg_eq_add]
      exact Int.dvd_emod_sub_self
    -- otherwise the two would add up to a number between zero and one
    by_contra hlt
    have hpos : 0 < -(units : Int) % unity + units := by omega
    have hle := Int.le_of_dvd hpos hdvd
    omega

/-- The distance of a number from its floor is a magnitude if it is below one half. -/
private theorem representable_emod {x : Double} (h : x.isFinite = true)
    (hlow : 2 * (x.units % (unity : Int)) < unity) :
    Representable (x.units % (unity : Int)).natAbs := by
  obtain ⟨negative, units, hunits, rfl⟩ := exists_finite_eq h
  have hnonneg := Int.emod_nonneg (Double.finite negative units hunits).units unity_cast_pos.ne'
  have hle := units_emod_le negative hunits hlow
  by_cases hzero : (Double.finite negative units hunits).units % (unity : Int) = 0
  · have hnone := representable_of_isWhole (isWhole_iff.mpr (by decide) : IsWhole (0 : Int))
    rwa [Int.natAbs_zero, Nat.zero_mul, ← Int.natAbs_zero, ← hzero] at hnone
  · refine representable_of_dvd hunits (by omega) ?_
    have hfraction : ¬ unity ∣ units := fun hwhole =>
      hzero (Int.emod_eq_zero_of_dvd (dvd_units negative hunits hwhole))
    have hunity : (grain units : Int) ∣ unity :=
      Int.natCast_dvd_natCast.mpr (grain_dvd_unity hunits.2 hfraction).1
    rw [← Int.natCast_dvd, Int.emod_def]
    exact dvd_sub (dvd_units negative hunits hunits.2) (hunity.mul_right _)

private theorem units_half : half.isFinite = true ∧ 2 * half.units = (unity : Int) :=
  by decide +kernel

/-- One half and one are magnitudes, and nothing is lost by halving one. -/
private theorem representable_half :
    Representable (unity / 2) ∧ Representable unity ∧ 2 * (unity / 2) = unity := by
  decide +kernel

/-- What is at least one half stays so when it is rounded. -/
private theorem half_le_ofUnits {n : Int} (hlow : (unity : Int) ≤ 2 * n) (hhigh : n ≤ unity) :
    (ofUnits (n < 0) n.natAbs 1).isFinite = true ∧
      (unity : Int) ≤ 2 * (ofUnits (n < 0) n.natAbs 1).units := by
  have hunity := unity_cast_pos
  obtain ⟨hhalf, hone, heven⟩ := representable_half
  have hlimit : nearest n.natAbs 1 < limit := (nearest_le hone.2 (by omega)).trans_lt hone.1
  have hrounds : unity / 2 ≤ nearest n.natAbs 1 := le_nearest hhalf.2 (by omega)
  have hsign : decide (n < 0) = false := decide_eq_false (by omega)
  have hnearest : Representable (nearest n.natAbs 1) := ⟨hlimit, grain_dvd_nearest ..⟩
  have hrounded : ofUnits (n < 0) n.natAbs 1 = .finite (n < 0) (nearest n.natAbs 1) hnearest :=
    dif_pos hlimit
  rw [hrounded, units_finite, hsign, if_neg Bool.false_ne_true]
  exact ⟨rfl, by omega⟩

/-- The difference of a number from its floor is below one half exactly if the distance is. -/
private theorem units_sub_floor {x : Double} (h : x.isFinite = true) :
    (x - x.floor).isFinite = true ∧
      (2 * (x - x.floor).units < unity ↔ 2 * (x.units % (unity : Int)) < unity) := by
  obtain ⟨hfloor, hunits⟩ := units_floor h
  obtain ⟨hneg, hnegUnits⟩ := units_neg hfloor
  have hsum : x.units + (-x.floor).units = x.units % (unity : Int) := by
    rw [hnegUnits, hunits, Int.emod_def]
    ring
  have hsub : x - x.floor = x + -x.floor := rfl
  rw [hsub]
  by_cases hlow : 2 * (x.units % (unity : Int)) < unity
  · obtain ⟨hfinite, hexact⟩ := units_add h hneg (hsum ▸ representable_emod h hlow)
    exact ⟨hfinite, by rw [hexact, hsum]⟩
  · have hunity := unity_cast_pos
    have hhigh := Int.emod_lt_of_pos x.units unity_cast_pos
    have hrounded := half_le_ofUnits (not_lt.mp hlow) hhigh.le
    rw [← hsum, ← add_of_units h hneg (by omega)] at hrounded
    exact ⟨hrounded.1, iff_of_false (not_lt.mpr hrounded.2) hlow⟩

/-- Rounding half up goes to the next integer exactly if the number is at least one half above its
floor. -/
theorem roundHalfUp_eq {x : Double} (h : x.isFinite = true) :
    x.roundHalfUp =
      if 2 * (x.units % (unity : Int)) < unity then x.floor else x.floor + ofInt 1 := by
  obtain ⟨hfinite, hlow⟩ := units_sub_floor h
  obtain ⟨hhalf, hunits⟩ := units_half
  have hless : (x - x.floor).units < half.units ↔ 2 * (x.units % (unity : Int)) < unity := by
    rw [← hlow]
    omega
  have hone : ofInt 1 = 1 := ofInt_natCast 1
  rw [roundHalfUp, compare?_of_isFinite hfinite hhalf, if_congr hless.symm rfl rfl, hone]
  cases hcompare : compare (x - x.floor).units half.units with
  | lt => rw [if_pos (compare_lt_iff_lt.mp hcompare)]
  | eq => rw [if_neg (compare_eq_iff_eq.mp hcompare).not_lt]
  | gt => rw [if_neg (compare_gt_iff_gt.mp hcompare).not_gt]

private theorem floor_div_add_half (n : Int) {one : Nat} (hone : 0 < one) :
    ⌊(n : ℚ) / one + 1 / 2⌋ = if 2 * (n % (one : Int)) < one then n / one else n / one + 1 := by
  have hpos : (0 : Int) < one := Int.natCast_pos.mpr hone
  have hquotient : (n : ℚ) / one + 1 / 2 = ((2 * n + one : Int) : ℚ) / (2 * one : Nat) := by
    have hne : (one : ℚ) ≠ 0 := Nat.cast_ne_zero.mpr hone.ne'
    push_cast
    field_simp
  have hlow := Int.emod_nonneg n hpos.ne'
  have hhigh := Int.emod_lt_of_pos n hpos
  have hdiv := Int.mul_ediv_add_emod n one
  rw [hquotient, Rat.floor_intCast_div_natCast, Nat.cast_mul, Nat.cast_ofNat,
    Int.ediv_eq_iff_of_pos (by omega)]
  split_ifs with hhalf
  · constructor <;> linarith
  · constructor <;> linarith

/-- Rounding half up gives the floor of the number plus one half. -/
theorem units_roundHalfUp {x : Double} (h : x.isFinite = true) :
    x.roundHalfUp.isFinite = true ∧ x.roundHalfUp.units = ⌊x.exact + 1 / 2⌋ * unity := by
  obtain ⟨hfloor, hunits⟩ := units_floor h
  rw [roundHalfUp_eq h, exact, floor_div_add_half _ unity_pos]
  split_ifs with hlow
  · exact ⟨hfloor, hunits⟩
  · have hone : IsWhole 1 := isWhole_iff.mpr (by decide)
    have hunity := unity_cast_pos
    have hsum : x.floor.units + (ofInt 1).units = (x.units / (unity : Int) + 1) * unity := by
      rw [hunits, units_ofInt hone]
      ring
    have hrepresentable : Representable (x.floor.units + (ofInt 1).units).natAbs := by
      rw [hsum, Int.natAbs_mul, Int.natAbs_natCast]
      exact representable_of_isWhole (isWhole_floor_add_one h (by omega))
    rw [← hsum]
    exact units_add hfloor (isFinite_ofInt hone) hrepresentable

theorem toInt_roundHalfUp {x : Double} (h : x.isFinite = true) :
    x.roundHalfUp.toInt = ⌊x.exact + 1 / 2⌋ :=
  toInt_of_units (units_roundHalfUp h).1 (units_roundHalfUp h).2

theorem exact_roundHalfUp {x : Double} (h : x.isFinite = true) :
    x.roundHalfUp.exact = ⌊x.exact + 1 / 2⌋ := by
  have hunity : (unity : ℚ) ≠ 0 := Nat.cast_ne_zero.mpr unity_pos.ne'
  rw [exact, (units_roundHalfUp h).2, Int.cast_mul, Int.cast_natCast,
    mul_div_cancel_right₀ _ hunity]

end Double

end LiveText
