/-!
# Rounding to the nearest double

The magnitude of a finite double is counted here in *least units* of `2^-1074`. In that unit every
finite magnitude is a natural number, and a natural number is a magnitude exactly when it stays
below `limit` and its bits beyond the leading 53 are zero. `nearest` rounds an exact quotient of
least units to such a number, half to even; `grain_dvd_nearest` says that it is one, and
`nearest_of_dvd` that it leaves alone what needs no rounding.
-/

namespace LiveText.Number

/-- The number one, counted in least units. -/
def unity : Nat := Nat.pow 2 1074

/-- Finite magnitudes lie below this number of least units, which is `2^1024`. -/
def limit : Nat := Nat.pow 2 2098

/-- The distance between neighbouring doubles from `units` upwards. -/
def grain (units : Nat) : Nat := Nat.pow 2 (units.log2 - 52)

/-- The magnitudes of the finite doubles. -/
def Representable (units : Nat) : Prop := units < limit ∧ grain units ∣ units

instance (units : Nat) : Decidable (Representable units) :=
  inferInstanceAs (Decidable (_ ∧ _))

/-- Rounds `num / den` to the grid of its neighbouring doubles, half to even. -/
def nearest (num den : Nat) : Nat :=
  let g := grain (num / den)
  let q := num / (den * g)
  let r := num % (den * g)
  if den * g < 2 * r ∨ 2 * r = den * g ∧ q % 2 = 1 then (q + 1) * g else q * g

theorem unity_pos : 0 < unity := by decide +kernel

theorem grain_pos (units : Nat) : 0 < grain units := Nat.pow_pos (by decide)

/-- Fewer than `2^53` grains fit below a number that has that grain. -/
theorem div_grain_lt (n : Nat) : n / grain n < Nat.pow 2 53 := by
  by_cases h : n = 0
  · simp [h]
  · have hn : n < 2 ^ (n.log2 + 1) := Nat.lt_log2_self
    rw [Nat.div_lt_iff_lt_mul (grain_pos n), grain, Nat.pow_eq, Nat.pow_eq, ← Nat.pow_add]
    exact Nat.lt_of_lt_of_le hn (Nat.pow_le_pow_right (by decide) (by omega))

/-- A multiple of a power of two that is at most `2^53` times that power lies on its own grid. -/
theorem grain_dvd_mul {k s : Nat} (hk : k ≤ Nat.pow 2 53) :
    grain (k * Nat.pow 2 s) ∣ k * Nat.pow 2 s := by
  simp only [Nat.pow_eq, grain] at hk ⊢
  by_cases h0 : k = 0
  · simp [h0]
  have hne : k * 2 ^ s ≠ 0 := Nat.mul_ne_zero h0 (Nat.ne_of_gt (Nat.two_pow_pos s))
  by_cases htop : k = 2 ^ 53
  · subst htop
    rw [← Nat.pow_add, Nat.log2_two_pow]
    exact Nat.pow_dvd_pow 2 (by omega)
  · have hlt : k * 2 ^ s < 2 ^ (53 + s) := by
      rw [Nat.pow_add]
      exact Nat.mul_lt_mul_of_pos_right (by omega) (Nat.two_pow_pos s)
    have hlog : (k * 2 ^ s).log2 < 53 + s := (Nat.log2_lt hne).2 hlt
    exact Nat.dvd_trans (Nat.pow_dvd_pow 2 (by omega)) (Nat.dvd_mul_left _ _)

/-- A rounded number needs no further rounding. -/
theorem grain_dvd_nearest (num den : Nat) : grain (nearest num den) ∣ nearest num den := by
  have hq : num / (den * grain (num / den)) < Nat.pow 2 53 := by
    rw [← Nat.div_div_eq_div_mul]
    exact div_grain_lt _
  simp only [nearest]
  split
  · exact grain_dvd_mul hq
  · exact grain_dvd_mul (Nat.le_of_lt hq)

/-- Rounding leaves a number on its own grid unchanged. -/
theorem nearest_of_dvd {units : Nat} (h : grain units ∣ units) : nearest units 1 = units := by
  have hr : units % grain units = 0 := Nat.mod_eq_zero_of_dvd h
  have hg := grain_pos units
  simp only [nearest, Nat.div_one, Nat.one_mul, hr, Nat.mul_zero]
  rw [if_neg (by omega), Nat.div_mul_cancel h]

end LiveText.Number
