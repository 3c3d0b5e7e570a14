import Mathlib
import LiveText.Proofs.Number.Shortest

/-!
# Correct rounding

Which double an exact number is rounded to is said here without the rounding: `IsNearest` is
nearness to the grid of magnitudes with 53 bits, the even one between two, and `Double.Rounds` adds
the sign and the overflow. There is one such double (`Double.Rounds.unique`), and reading a decimal
gives it (`Double.rounds_ofDecimal`). Whatever lies in the interval of a magnitude is nearest to it
(`isNearest_of_readsAs`).
-/

namespace LiveText

namespace Number

/-! ### The grid -/

theorem grain_dvd_grain {u v : Nat} (h : u ≤ v) : grain u ∣ grain v := by
  refine Nat.pow_dvd_pow 2 (Nat.sub_le_sub_right ?_ 52)
  by_cases hu : u = 0
  · rw [hu, Nat.log2_zero]
    exact Nat.zero_le _
  · have hv : v ≠ 0 := by omega
    have hpow : 2 ^ u.log2 ≤ u := (Nat.le_log2 hu).mp (le_refl _)
    exact (Nat.le_log2 hv).mpr (hpow.trans h)

/-- The next magnitude on the grid is a grain away. -/
theorem add_grain_le {u v : Nat} (hu : grain u ∣ u) (hv : grain v ∣ v) (h : u < v) :
    u + grain u ≤ v := by
  obtain ⟨k, hk⟩ := hu
  obtain ⟨l, hl⟩ := (grain_dvd_grain h.le).trans hv
  have hlt : k < l := by
    rw [hk, hl] at h
    exact lt_of_mul_lt_mul_left h (Nat.zero_le _)
  calc u + grain u = grain u * (k + 1) := by rw [mul_add, mul_one, ← hk]
    _ ≤ grain u * l := Nat.mul_le_mul_left _ hlt
    _ = v := hl.symm

/-- A magnitude and a grain more, as counts of the grain. -/
theorem add_grain_eq {u : Nat} (hu : grain u ∣ u) :
    u + grain u = (u / grain u + 1) * Nat.pow 2 (u.log2 - 52) := by
  rw [add_mul, one_mul]
  exact congrArg (· + grain u) (Nat.div_mul_cancel hu).symm

private theorem grain_dvd_add_grain {u : Nat} (hu : grain u ∣ u) :
    grain (u + grain u) ∣ u + grain u := by
  rw [add_grain_eq hu]
  exact grain_dvd_mul (div_grain_lt u)

/-- Neighbours on the grid have different last bits. -/
theorem div_grain_add_grain {u : Nat} (hu : grain u ∣ u) :
    (u + grain u) / grain (u + grain u) % 2 = (u / grain u + 1) % 2 := by
  have hpos := grain_pos u
  have hle : u / grain u + 1 ≤ 2 ^ 53 := div_grain_lt u
  by_cases htop : u / grain u + 1 = 2 ^ 53
  · -- the next magnitude is a power of two, and begins a coarser grid
    have hnext : u + grain u = 2 ^ (53 + (u.log2 - 52)) := by
      rw [add_grain_eq hu, htop, Nat.pow_eq, ← pow_add]
    have hgrain : grain (u + grain u) = 2 ^ (53 + (u.log2 - 52) - 52) := by
      rw [grain, hnext, Nat.log2_two_pow, Nat.pow_eq]
    have hsplit : 53 + (u.log2 - 52) = 52 + (53 + (u.log2 - 52) - 52) := by omega
    have hquotient : (u + grain u) / grain (u + grain u) = 2 ^ 52 := by
      rw [hgrain, hnext, Nat.div_eq_iff_eq_mul_left (by positivity)
        (Nat.pow_dvd_pow 2 (by omega)), ← pow_add, ← hsplit]
    rw [hquotient, htop]
    decide
  · -- the next magnitude lies on the same grid
    have hne : u + grain u ≠ 0 := by omega
    have hlog : (u + grain u).log2 < 53 + (u.log2 - 52) := by
      rw [Nat.log2_lt hne, add_grain_eq hu, Nat.pow_eq, pow_add]
      exact Nat.mul_lt_mul_of_pos_right (by omega) (by positivity)
    have hsame : grain (u + grain u) = grain u := by
      apply Nat.dvd_antisymm
      · exact Nat.pow_dvd_pow 2 (by omega)
      · exact grain_dvd_grain (Nat.le_add_right ..)
    rw [hsame, Nat.add_div_right _ hpos]

/-- Cutting a number down to its grid leaves its grid what it is. -/
private theorem grain_cut (n : Nat) : grain (n / grain n * grain n) = grain n := by
  by_cases hn : n = 0
  · rw [hn, Nat.zero_div, Nat.zero_mul]
  · have hdvd : grain n ∣ 2 ^ n.log2 := Nat.pow_dvd_pow 2 (Nat.sub_le ..)
    have hlow : 2 ^ n.log2 ≤ n / grain n * grain n := by
      rw [← Nat.div_mul_cancel hdvd]
      exact Nat.mul_le_mul_right _ (Nat.div_le_div_right ((Nat.le_log2 hn).mp (le_refl _)))
    have hhigh : n / grain n * grain n < 2 ^ (n.log2 + 1) :=
      (Nat.div_mul_le_self ..).trans_lt Nat.lt_log2_self
    have hne : n / grain n * grain n ≠ 0 := by
      have hpos : 0 < 2 ^ n.log2 := by positivity
      omega
    have hlog : (n / grain n * grain n).log2 = n.log2 := (Nat.log2_eq_iff hne).mpr ⟨hlow, hhigh⟩
    rw [grain, hlog, grain]

/-! ### The nearest magnitude -/

/-- A magnitude on the grid is nearest to an exact number of least units: none is nearer, and if
another one is as near, its own last bit is zero. -/
structure IsNearest (q : ℚ) (units : Nat) : Prop where
  onGrid : grain units ∣ units
  nearest : ∀ v, grain v ∣ v → |q - units| ≤ |q - v|
  even : ∀ v, grain v ∣ v → v ≠ units → |q - v| = |q - units| → units / grain units % 2 = 0

/-- A magnitude is nearest to what lies within half a grain above it and half the gap below it; in
the middle between two magnitudes it has to be the even one. -/
theorem IsNearest.of_between {q : ℚ} {u : Nat} (gap : ℚ) (hu : grain u ∣ u)
    (hgap : ∀ v, grain v ∣ v → v < u → v + gap ≤ u) (hlow : 2 * (u - q) ≤ gap)
    (hhigh : 2 * (q - u) ≤ grain u)
    (heven : 2 * (u - q) = gap ∨ 2 * (q - u) = grain u → u / grain u % 2 = 0) :
    IsNearest q u := by
  have hgrain : (0 : ℚ) < grain u := by exact_mod_cast grain_pos u
  have haway (v : Nat) (hv : grain v ∣ v) (hne : v ≠ u) :
      |q - u| < |q - v| ∨ |q - u| ≤ |q - v| ∧ u / grain u % 2 = 0 := by
    rcases Nat.lt_or_gt_of_ne hne with hlt | hgt
    · have hcast : (v : ℚ) < u := by exact_mod_cast hlt
      have hbelow := hgap v hv hlt
      have habs : q - v ≤ |q - v| := le_abs_self _
      rcases le_total (u : ℚ) q with hq | hq
      · rw [abs_of_nonneg (sub_nonneg.mpr hq)]
        exact .inl (by linarith)
      · rw [abs_sub_comm q u, abs_of_nonneg (sub_nonneg.mpr hq)]
        rcases hlow.lt_or_eq with hlt | heq
        · exact .inl (by linarith)
        · exact .inr ⟨by linarith, heven (.inl heq)⟩
    · have hcast : (u : ℚ) + grain u ≤ v := by exact_mod_cast add_grain_le hu hv hgt
      have habs : -(q - v) ≤ |q - v| := neg_le_abs _
      rcases le_total (u : ℚ) q with hq | hq
      · rw [abs_of_nonneg (sub_nonneg.mpr hq)]
        rcases hhigh.lt_or_eq with hlt | heq
        · exact .inl (by linarith)
        · exact .inr ⟨by linarith, heven (.inr heq)⟩
      · rw [abs_sub_comm q u, abs_of_nonneg (sub_nonneg.mpr hq)]
        exact .inl (by linarith)
  refine ⟨hu, fun v hv => ?_, fun v hv hne htie => ?_⟩
  · by_cases hne : v = u
    · rw [hne]
    · exact (haway v hv hne).elim le_of_lt And.left
  · exact (haway v hv hne).elim (fun hlt => absurd htie hlt.ne') And.right

/-- Only one magnitude is nearest. -/
theorem IsNearest.unique {q : ℚ} {u v : Nat} (hu : IsNearest q u) (hv : IsNearest q v) : u = v := by
  wlog hle : u ≤ v generalizing u v
  · exact (this hv hu (Nat.le_of_not_le hle)).symm
  by_contra hne
  have hlt : u < v := lt_of_le_of_ne hle hne
  have hcast : (u : ℚ) < v := by exact_mod_cast hlt
  have htie : |q - u| = |q - v| := le_antisymm (hu.nearest v hv.onGrid) (hv.nearest u hu.onGrid)
  have hmiddle : q - u = v - q := by
    rcases abs_eq_abs.mp htie with h | h
    · linarith
    · linarith
  have hstep : u + grain u ≤ v := add_grain_le hu.onGrid hv.onGrid hlt
  have hgrain : (0 : ℚ) < grain u := by exact_mod_cast grain_pos u
  -- the next magnitude above the lower one would be nearer if it were another one than the upper
  have hnext : v = u + grain u := by
    by_contra hother
    have hbetween : (u : ℚ) + grain u < v := by
      exact_mod_cast lt_of_le_of_ne hstep (Ne.symm hother)
    have hnearer := hu.nearest _ (grain_dvd_add_grain hu.onGrid)
    have hdistance : |q - ((u + grain u : Nat) : ℚ)| < q - u := by
      push_cast
      exact abs_lt.mpr ⟨by linarith, by linarith⟩
    have habs : |q - u| = q - u := abs_of_nonneg (by linarith)
    linarith
  have hevenLow := hu.even v hv.onGrid (Ne.symm hne) htie.symm
  have hevenHigh := hv.even u hu.onGrid hne htie
  have hlast := div_grain_add_grain hu.onGrid
  rw [← hnext] at hlast
  omega

/-- What rounding does: it takes the magnitude below the quotient, or the next one if this is nearer
or if the quotient is in the middle and the last bit below is one. -/
theorem nearest_cases (num : Nat) {den : Nat} (hden : 0 < den) :
    ∃ u, grain u ∣ u ∧ (u : ℚ) ≤ num / den ∧ (num : ℚ) / den < u + grain u ∧
      (nearest num den = u ∧ 2 * ((num : ℚ) / den - u) ≤ grain u ∧
          (2 * ((num : ℚ) / den - u) = grain u → u / grain u % 2 = 0) ∨
        nearest num den = u + grain u ∧ grain u ≤ 2 * ((num : ℚ) / den - u) ∧
          (2 * ((num : ℚ) / den - u) = grain u → u / grain u % 2 = 1)) := by
  have hcut := grain_cut (num / den)
  rw [Nat.div_div_eq_div_mul] at hcut
  have hnearest : nearest num den =
      if den * grain (num / den) < 2 * (num % (den * grain (num / den)))
      ∨ 2 * (num % (den * grain (num / den))) = den * grain (num / den) ∧
        num / (den * grain (num / den)) % 2 = 1
      then (num / (den * grain (num / den)) + 1) * grain (num / den)
      else num / (den * grain (num / den)) * grain (num / den) := rfl
  have hnum := Nat.div_add_mod num (den * grain (num / den))
  have hlt := Nat.mod_lt num (Nat.mul_pos hden (grain_pos (num / den)))
  have hpos := grain_pos (num / den)
  generalize num / (den * grain (num / den)) = k at *
  generalize num % (den * grain (num / den)) = r at *
  generalize grain (num / den) = g at *
  have hdenQ : (0 : ℚ) < den := by exact_mod_cast hden
  have hrest : (num : ℚ) / den - (k * g : Nat) = r / den := by
    rw [← hnum]
    push_cast
    field_simp
    ring
  have hquotient : k * g / grain (k * g) = k := by rw [hcut, Nat.mul_div_cancel _ hpos]
  have hbelow : (0 : ℚ) ≤ r / den := by positivity
  have habove : (r : ℚ) / den < g := by
    rw [div_lt_iff₀ hdenQ, mul_comm]
    exact_mod_cast hlt
  have hdvd : grain (k * g) ∣ k * g := by
    rw [hcut]
    exact dvd_mul_left g k
  refine ⟨k * g, hdvd, by linarith, by rw [hcut]; linarith, ?_⟩
  rw [hquotient, hcut, hrest, hnearest]
  have hdouble : 2 * ((r : ℚ) / den) = (2 * r : Nat) / den := by push_cast; ring
  have hle : 2 * ((r : ℚ) / den) ≤ g ↔ 2 * r ≤ den * g := by
    rw [hdouble, div_le_iff₀ hdenQ, mul_comm den g]
    exact_mod_cast Iff.rfl
  have heq : 2 * ((r : ℚ) / den) = g ↔ 2 * r = den * g := by
    rw [hdouble, div_eq_iff hdenQ.ne', mul_comm den g]
    exact_mod_cast Iff.rfl
  have hge : (g : ℚ) ≤ 2 * (r / den) ↔ den * g ≤ 2 * r := by
    rw [hdouble, le_div_iff₀ hdenQ, mul_comm den g]
    exact_mod_cast Iff.rfl
  rw [hle, heq, hge]
  split_ifs with hup
  · exact .inr ⟨by ring, by omega, fun htie => by omega⟩
  · exact .inl ⟨rfl, by omega, fun htie => by omega⟩

/-- Rounding gives the nearest magnitude. -/
theorem isNearest_nearest (num : Nat) {den : Nat} (hden : 0 < den) :
    IsNearest (num / den) (nearest num den) := by
  obtain ⟨u, hu, hbelow, habove, hcase⟩ := nearest_cases num hden
  have hgrain : (0 : ℚ) < grain u := by exact_mod_cast grain_pos u
  rcases hcase with ⟨heq, hle, htie⟩ | ⟨heq, hge, htie⟩
  · -- the magnitude below is a whole unit away from any that is lower
    rw [heq]
    refine .of_between 1 hu ?_ (by linarith) hle ?_
    · intro v _ hlt
      exact_mod_cast hlt
    · rintro (h | h)
      · linarith
      · exact htie h
  · rw [heq]
    have hnext := grain_dvd_add_grain hu
    have hnextGrain : (0 : ℚ) < grain (u + grain u) := by exact_mod_cast grain_pos _
    refine .of_between (grain u) hnext ?_ ?_ ?_ ?_
    · intro v hv hlt
      have hle : v ≤ u := by
        by_contra hgt
        have hstep := add_grain_le hu hv (Nat.lt_of_not_le hgt)
        omega
      exact_mod_cast Nat.add_le_add_right hle _
    · push_cast
      linarith
    · push_cast
      linarith
    · push_cast
      rintro (h | h)
      · have hodd := htie (by linarith)
        rw [div_grain_add_grain hu]
        omega
      · linarith

private theorem isNearest_zero {q : ℚ} (hq : 0 ≤ q) (hhalf : 2 * q < 1) : IsNearest q 0 := by
  refine .of_between 1 (dvd_zero _) ?_ ?_ ?_ ?_
  · intro v _ hlt
    exact absurd hlt (Nat.not_lt_zero v)
  · push_cast
    linarith
  · have hgrain : (1 : ℚ) ≤ grain 0 := by exact_mod_cast grain_pos 0
    push_cast
    linarith
  · intro _
    rw [Nat.zero_div]

/-- What lies beyond the limit is not rounded below it. -/
private theorem IsNearest.limit_le {q : ℚ} {u : Nat} (h : IsNearest q u) (hq : (limit : ℚ) ≤ q) :
    limit ≤ u := by
  by_contra hlt
  have hcast : (u : ℚ) < limit := by exact_mod_cast Nat.lt_of_not_le hlt
  have hnearer := h.nearest limit (by decide +kernel)
  rw [abs_of_nonneg (by linarith), abs_of_nonneg (by linarith)] at hnearer
  linarith

/-! ### The interval of a magnitude -/

/-- Below a magnitude the grid is at most twice as fine. -/
private theorem add_half_grain_le {u v : Nat} (hu : grain u ∣ u) (hv : grain v ∣ v) (h : v < u) :
    2 * v + grain u ≤ 2 * u := by
  have hne : u ≠ 0 := by omega
  have hlow : 2 ^ u.log2 ≤ u := (Nat.le_log2 hne).mp (le_refl _)
  by_cases hfar : 2 * v < 2 ^ u.log2
  · have hgrain := Decimal.grain_le hne
    omega
  · have hstep := add_grain_le hv hu h
    have hlog : u.log2 < v.log2 + 2 := by
      rw [← Nat.pow_lt_pow_iff_right (by decide : 1 < 2), pow_succ]
      have hhigh : v < 2 ^ (v.log2 + 1) := Nat.lt_log2_self
      omega
    have hgrain : grain u ≤ 2 ^ (v.log2 - 52 + 1) := Nat.pow_le_pow_right (by decide) (by omega)
    have hdouble : 2 ^ (v.log2 - 52 + 1) = grain v * 2 := pow_succ ..
    omega

/-- Below a magnitude that is no power of two the grid is as fine as above it. -/
private theorem add_grain_le_of_lt {u v : Nat} (hu : grain u ∣ u) (hv : grain v ∣ v) (h : v < u)
    (hnot : ¬ (u = Nat.pow 2 u.log2 ∧ 1 < grain u)) : v + grain u ≤ u := by
  by_cases hone : 1 < grain u
  · have hne : u ≠ 0 := by omega
    have hlow : 2 ^ u.log2 ≤ u := (Nat.le_log2 hne).mp (le_refl _)
    have hgrain : grain (2 ^ u.log2) = grain u := by rw [grain, Nat.log2_two_pow, grain]
    have hpower : u ≠ 2 ^ u.log2 := fun heq => hnot ⟨heq, hone⟩
    have hdvd : grain (2 ^ u.log2) ∣ 2 ^ u.log2 := by
      rw [hgrain]
      exact Nat.pow_dvd_pow 2 (Nat.sub_le ..)
    by_cases hv' : v < 2 ^ u.log2
    · have hstep := add_grain_le hdvd hu (by omega)
      omega
    · have hle := Nat.le_of_dvd (grain_pos v) (grain_dvd_grain (Nat.le_of_not_lt hv'))
      have hstep := add_grain_le hv hu h
      omega
  · omega

/-- The lower end of the interval of a magnitude is in the middle of the gap below it. -/
private theorem exists_gap {units : Nat} (hne : units ≠ 0) (hgrid : grain units ∣ units) :
    ∃ gap : ℚ, ((Decimal.interval units).1 : ℚ) = 4 * units - 2 * gap ∧
      ∀ v, grain v ∣ v → v < units → v + gap ≤ units := by
  have hgrain := Decimal.grain_le hne
  by_cases hpower : units = Nat.pow 2 units.log2 ∧ 1 < grain units
  · refine ⟨grain units / 2, ?_, fun v hv hlt => ?_⟩
    · simp only [Decimal.interval, if_pos hpower]
      rw [Nat.cast_sub (by omega)]
      push_cast
      ring
    · have hstep : (2 : ℚ) * v + grain units ≤ 2 * units := by
        exact_mod_cast add_half_grain_le hgrid hv hlt
      linarith
  · refine ⟨grain units, ?_, fun v hv hlt => ?_⟩
    · simp only [Decimal.interval, if_neg hpower]
      rw [Nat.cast_sub (by omega)]
      push_cast
      rfl
    · exact_mod_cast add_grain_le_of_lt hgrid hv hlt hpower

/-- What reads back as a magnitude is nearest to it. -/
theorem isNearest_of_readsAs {d : Decimal} {units : Nat} (hne : units ≠ 0)
    (hgrid : grain units ∣ units) (h : d.readsAs units = true) :
    IsNearest (d.value * unity) units := by
  obtain ⟨hlow, hhigh⟩ := Decimal.between_of_readsAs h
  have hend := Decimal.closed_of_readsAs h
  have hpoint : 4 * unity * d.value = 4 * (d.value * unity) := by ring
  have hup : ((Decimal.interval units).2 : ℚ) = 4 * units + 2 * grain units := by
    simp only [Decimal.interval]
    push_cast
    rfl
  obtain ⟨gap, hdown, hgap⟩ := exists_gap hne hgrid
  rw [hpoint, hdown] at hlow
  rw [hpoint, hup] at hhigh
  rw [hpoint, hdown, hup] at hend
  have heven : Decimal.closed units = true → units / grain units % 2 = 0 := beq_iff_eq.mp
  refine .of_between gap hgrid hgap (by linarith) (by linarith) ?_
  rintro (htie | htie)
  · exact heven (hend (.inl (by linarith)))
  · exact heven (hend (.inr (by linarith)))

/-- The shortest decimal of a magnitude is nearest to it. -/
theorem isNearest_shortest (tie : Decimal.Tie) {units : Nat} (hne : units ≠ 0)
    (hgrid : grain units ∣ units) :
    IsNearest ((Decimal.shortest tie units).value * unity) units := by
  rw [Decimal.shortest, if_neg hne, Decimal.value_normalize]
  exact isNearest_of_readsAs hne hgrid (Decimal.readsAs_search ..)

end Number

namespace Double

open Number

/-! ### Correctly rounded doubles -/

/-- A double is the correctly rounded value of an exact magnitude with a sign: the nearest magnitude
if it is below the limit, and infinite if it is not. -/
inductive Rounds (negative : Bool) (q : ℚ) : Double → Prop where
  | finite {units : Nat} (near : IsNearest (q * unity) units) (h : Representable units) :
      Rounds negative q (.finite negative units h)
  | overflow {units : Nat} (near : IsNearest (q * unity) units) (h : limit ≤ units) :
      Rounds negative q (.infinity negative)

/-- There is only one correctly rounded value. -/
theorem Rounds.unique {negative : Bool} {q : ℚ} {x y : Double} (hx : Rounds negative q x)
    (hy : Rounds negative q y) : x = y := by
  cases hx with
  | finite near h =>
    cases hy with
    | finite near' h' => cases near.unique near'; rfl
    | overflow near' h' =>
      cases near.unique near'
      exact absurd h.1 (Nat.not_lt.mpr h')
  | overflow near h =>
    cases hy with
    | finite near' h' =>
      cases near.unique near'
      exact absurd h'.1 (Nat.not_lt.mpr h)
    | overflow near' h' => rfl

theorem Rounds.ne_nan {negative : Bool} {q : ℚ} {x : Double} (h : Rounds negative q x) :
    x ≠ .nan := by
  cases h <;> exact nofun

/-- A quotient of least units is rounded correctly. -/
theorem rounds_ofUnits (negative : Bool) {q : ℚ} {num den : Nat} (hden : 0 < den)
    (hq : q * unity = num / den) : Rounds negative q (ofUnits negative num den) := by
  have hnear : IsNearest (q * unity) (nearest num den) := hq ▸ isNearest_nearest num hden
  rw [ofUnits]
  split_ifs with hlt
  · exact .finite hnear _
  · exact .overflow hnear (Nat.le_of_not_lt hlt)

/-- What is below half a least unit is rounded to zero. -/
theorem rounds_zero (negative : Bool) {q : ℚ} (hq : 0 ≤ q) (hhalf : 2 * (q * unity) < 1) :
    Rounds negative q (zero negative) :=
  .finite (isNearest_zero (mul_nonneg hq (Nat.cast_nonneg _)) hhalf) _

/-- What is beyond the limit is rounded to an infinity. -/
theorem rounds_infinity (negative : Bool) {q : ℚ} {num : Nat} (hq : q * unity = num)
    (hlimit : limit ≤ num) : Rounds negative q (.infinity negative) := by
  have hnear : IsNearest (q * unity) (nearest num 1) := by
    rw [hq, ← div_one (num : ℚ), ← Nat.cast_one (R := ℚ)]
    exact isNearest_nearest num (by decide)
  exact .overflow hnear (hnear.limit_le (by rw [hq]; exact_mod_cast hlimit))

/-- The limit in units of one is a power of two. -/
private theorem exists_limit_eq_mul : ∃ n : Nat, 1024 = n ∧ limit = 2 ^ n * unity :=
  ⟨1024, rfl, by decide +kernel⟩

/-- Scales above 400 bring every decimal beyond the limit. -/
private theorem limit_le_of_scale {digits scale : Nat} (hdigits : 0 < digits)
    (hscale : 400 < scale) :
    limit ≤ digits * 10 ^ scale * unity := by
  obtain ⟨n, hn, hlimit⟩ := exists_limit_eq_mul
  rw [hlimit]
  apply Nat.mul_le_mul_right
  calc 2 ^ n ≤ 10 ^ scale := Decimal.two_pow_le_ten_pow (by omega)
    _ ≤ digits * 10 ^ scale := Nat.le_mul_of_pos_left _ hdigits

/-- So many places behind the point bring every decimal below half a least unit. -/
private theorem lt_pow_of_places {digits places : Nat} (hplaces : 400 + digits.log2 < places) :
    2 * (digits * unity) < 10 ^ places := by
  obtain ⟨n, hn, hunity⟩ := Decimal.exists_unity_eq
  have hdigits : digits < 2 ^ (digits.log2 + 1) := Nat.lt_log2_self
  have hpos : 0 < 2 ^ n := by positivity
  calc 2 * (digits * unity) = digits * (2 * 2 ^ n) := by rw [hunity, Nat.pow_eq]; ring
    _ < 2 ^ (digits.log2 + 1) * (2 * 2 ^ n) := Nat.mul_lt_mul_of_pos_right hdigits (by omega)
    _ = 2 ^ (digits.log2 + 1 + (1 + n)) := by rw [← pow_succ', ← pow_add, add_comm 1 n]
    _ ≤ 10 ^ places := Decimal.two_pow_le_ten_pow (by omega)

/-- Digits with a power of ten are rounded correctly. -/
theorem rounds_ofDecimal (negative : Bool) (digits : Nat) (exponent : Int) :
    Rounds negative (digits * 10 ^ exponent) (ofDecimal negative digits exponent) := by
  have hwhole (h : 0 ≤ exponent) : (digits : ℚ) * 10 ^ exponent * unity =
      (digits * 10 ^ exponent.toNat * unity : Nat) := by
    push_cast
    rw [← zpow_natCast, Int.toNat_of_nonneg h]
  have hplaces (h : ¬ 0 ≤ exponent) : (digits : ℚ) * 10 ^ exponent * unity =
      (digits * unity : Nat) / (10 ^ (-exponent).toNat : Nat) := by
    push_cast
    rw [← zpow_natCast, Int.toNat_of_nonneg (by omega), zpow_neg, div_inv_eq_mul]
    ring
  rw [ofDecimal]
  split_ifs with hzero hbig hsmall hpos
  · rw [hzero]
    exact rounds_zero negative (by simp) (by rw [Nat.cast_zero, zero_mul, zero_mul]; norm_num)
  · refine rounds_infinity negative (hwhole (by omega)) ?_
    exact limit_le_of_scale (Nat.pos_of_ne_zero hzero) (by omega)
  · refine rounds_zero negative (by positivity) ?_
    rw [hplaces (by omega), ← mul_div_assoc, div_lt_one (by positivity)]
    exact_mod_cast lt_pow_of_places (by omega)
  · refine rounds_ofUnits negative Nat.one_pos ?_
    rw [hwhole hpos, Nat.cast_one, div_one, Nat.pow_eq]
  · exact rounds_ofUnits negative (Nat.pow_pos (by decide)) (hplaces hpos)

end Double

end LiveText
