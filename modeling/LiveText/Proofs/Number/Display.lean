import Mathlib
import LiveText.Proofs.Number.Plain
import LiveText.Proofs.Number.Reading

/-!
# Display text is read back

The text of a decimal spells a numeral that denotes it, in positional and in scientific form
(`spells_decimalText`). As the shortest decimal of a magnitude is nearest to it, both ways of
reading the display text of a number give that number, and zero for a zero of either sign:
`display_reads_back`.
-/

namespace LiveText

open Digits Numeral

/-- A plain numeral is a mantissa that denotes the same number. -/
theorem Digits.IsPlain.exists_mantissa {cs : List Char} (h : IsPlain cs) :
    ∃ whole fraction, IsMantissa cs whole fraction ∧
      denoted cs = value 10 (whole ++ fraction) / 10 ^ fraction.length := by
  cases h with
  | whole hne hdigits =>
    refine ⟨cs, [], .whole hne hdigits, ?_⟩
    rw [denoted_whole hdigits, List.append_nil, List.length_nil, pow_zero, div_one]
  | @pointed whole fraction hwhole hfraction hdigits =>
    have hdigitsWhole : ∀ c ∈ whole, c.isDigit = true :=
      fun c hc => hdigits c (List.mem_append_left _ hc)
    refine ⟨whole, fraction, .pointed (List.append_ne_nil_of_left_ne_nil hwhole _) hdigitsWhole
      (fun c hc => hdigits c (List.mem_append_right _ hc)), denoted_pointed hdigitsWhole fraction⟩

namespace Layout

/-- An exponent is written as the power of ten that it is. -/
private theorem isPower_exponent (exponent : Int) :
    IsPower ('e' :: (if exponent < 0 then '-' else '+') :: ofNat 10 exponent.natAbs) exponent := by
  have hne := ofNat_ne_nil 10 exponent.natAbs
  have hdigits : ∀ c ∈ ofNat 10 exponent.natAbs, c.isDigit = true :=
    fun c hc => isDigit_of_mem_ofNat hc
  have hsize (negative : Bool) : signedSize negative (ofNat 10 exponent.natAbs) =
      if negative then -(exponent.natAbs : Int) else exponent.natAbs := by
    rw [signedSize, value_ofNat (by decide) (by decide)]
  split_ifs with hneg
  · have hpower := IsPower.marked (.inl rfl) .minus hne hdigits
    rw [hsize, if_pos rfl, Int.ofNat_natAbs_of_nonpos hneg.le, neg_neg] at hpower
    exact hpower
  · have hpower := IsPower.marked (.inl rfl) .plus hne hdigits
    rw [hsize, if_neg (by decide), Int.natAbs_of_nonneg (not_lt.mp hneg)] at hpower
    exact hpower

/-- The mantissa and the power of digits in scientific form. -/
private theorem exists_parts_scientific {digits : List Char} (hne : digits ≠ [])
    (hdigits : ∀ c ∈ digits, c.isDigit = true) (exponent : Int) :
    ∃ mantissa power whole fraction, scientific digits exponent = mantissa ++ power ∧
      IsMantissa mantissa whole fraction ∧ IsPower power exponent ∧ whole ++ fraction = digits ∧
      fraction.length + 1 = digits.length := by
  have hpower := isPower_exponent exponent
  obtain ⟨first, rest, rfl⟩ := List.exists_cons_of_ne_nil hne
  cases rest with
  | nil => exact ⟨[first], _, [first], [], rfl, .whole hne hdigits, hpower, rfl, rfl⟩
  | cons second rest =>
    refine ⟨[first] ++ '.' :: second :: rest, _, [first], second :: rest, rfl,
      .pointed (List.cons_ne_nil _ _) ?_ ?_, hpower, rfl, rfl⟩
    · intro c hc
      rw [List.mem_singleton.mp hc]
      exact hdigits first (List.mem_cons_self ..)
    · exact fun c hc => hdigits c (List.mem_cons_of_mem _ hc)

/-- The text of a decimal spells, with any sign in front, a numeral that denotes the decimal. -/
theorem spells_decimalText {l : Layout} (hpoint : l.pointZero = false) (d : Decimal) :
    ∃ whole fraction exponent, ∀ sign negative, IsSign sign negative →
      Spells (sign ++ l.decimalText d) ⟨negative, whole, fraction, exponent⟩ ∧
      magnitude ⟨negative, whole, fraction, exponent⟩ = d.value := by
  have hne := ofNat_ne_nil 10 d.digits
  have hdigits : ∀ c ∈ ofNat 10 d.digits, c.isDigit = true := fun c hc => isDigit_of_mem_ofNat hc
  have hvalue : value 10 (ofNat 10 d.digits) = d.digits := value_ofNat (by decide) (by decide) _
  rw [decimalText, hpoint]
  split_ifs with hplain
  · -- in positional form there is no power
    obtain ⟨hisPlain, hdenoted⟩ := denoted_positional hne hdigits
      (d.exponent + (ofNat 10 d.digits).length - 1 + 1)
    obtain ⟨whole, fraction, hmantissa, hmagnitude⟩ := hisPlain.exists_mantissa
    refine ⟨whole, fraction, 0, fun sign negative hsign => ⟨?_, ?_⟩⟩
    · have hspells := Spells.parts hsign hmantissa .absent
      rwa [List.append_nil] at hspells
    · rw [magnitude, ← hmagnitude, hdenoted, hvalue, zpow_zero, mul_one, sub_add_cancel,
        add_sub_cancel_right, Decimal.value]
  · obtain ⟨mantissa, power, whole, fraction, htext, hmantissa, hpower, happend, hlength⟩ :=
      exists_parts_scientific hne hdigits (d.exponent + (ofNat 10 d.digits).length - 1)
    refine ⟨whole, fraction, d.exponent + (ofNat 10 d.digits).length - 1,
      fun sign negative hsign => ⟨?_, ?_⟩⟩
    · rw [htext]
      exact .parts hsign hmantissa hpower
    · have hexponent : d.exponent + (ofNat 10 d.digits).length - 1 - fraction.length =
          d.exponent := by omega
      simp only [magnitude, happend, hvalue]
      rw [div_mul_eq_mul_div, mul_div_assoc, ← zpow_natCast, ← zpow_sub₀ (by norm_num), hexponent,
        Decimal.value]

end Layout

namespace Double

theorem display_zero (negative : Bool) (h : Number.Representable 0) :
    Layout.display.chars (.finite negative 0 h) = ['0'] := by
  have hsign : ¬ (negative = true ∧ (Layout.display.signedZero = true ∨ (0 : Nat) ≠ 0)) := by
    rintro ⟨-, hsigned | hne⟩
    · cases hsigned
    · exact hne rfl
  have htext : Layout.display.decimalText (Decimal.shortest .up 0) = ['0'] := by decide +kernel
  rw [Layout.chars, if_neg hsign]
  exact htext

/-- The display text of a number other than zero spells a numeral of which the number is the
correctly rounded value. -/
theorem exists_spells_display (negative : Bool) {units : Nat} (h : Number.Representable units)
    (hne : units ≠ 0) : ∃ n, Spells (Layout.display.chars (.finite negative units h)) n ∧
      n.value = .finite negative units h := by
  obtain ⟨whole, fraction, exponent, hspells⟩ :=
    Layout.spells_decimalText (l := Layout.display) rfl (Decimal.shortest .up units)
  have hsign : ∃ sign, IsSign sign negative ∧ Layout.display.chars (.finite negative units h) =
      sign ++ Layout.display.decimalText (Decimal.shortest .up units) := by
    rw [Layout.chars]
    split_ifs with hnegative
    · exact ⟨['-'], hnegative.1 ▸ .minus, rfl⟩
    · have hfalse : negative = false := by
        simpa [hne] using hnegative
      exact ⟨[], hfalse ▸ .absent, rfl⟩
  obtain ⟨sign, hsign, htext⟩ := hsign
  obtain ⟨hspelled, hmagnitude⟩ := hspells sign negative hsign
  refine ⟨_, htext ▸ hspelled, ?_⟩
  have hrounds := rounds_value ⟨negative, whole, fraction, exponent⟩
  rw [hmagnitude] at hrounds
  exact hrounds.unique (.finite (Number.isNearest_shortest .up hne h.2) h)

/-- The display text of a number is read back, leniently and strictly, as the number itself, and as
zero if it is a zero of either sign; that of `nan` is read as `nan`. -/
theorem display_reads_back (x : Double) :
    readWhole x.display.toList = (if x.isZero then 0 else x) ∧
    readPrefix x.display.toList = (if x.isZero then 0 else x) := by
  rw [display, String.toList_ofList]
  cases x with
  | nan => exact ⟨by decide, by decide⟩
  | infinity negative => cases negative <;> exact ⟨by decide, by decide⟩
  | finite negative units h =>
    by_cases hzero : units = 0
    · subst hzero
      have hzero : (Double.finite negative 0 h).isZero = true := rfl
      rw [display_zero, if_pos hzero]
      exact ⟨by decide +kernel, by decide +kernel⟩
    · obtain ⟨n, hspells, hvalue⟩ := exists_spells_display negative h hzero
      have hnot : ¬ (Double.finite negative units h).isZero = true := by
        simpa [isZero] using hzero
      rw [if_neg hnot, readWhole_of_spells hspells, readPrefix_of_spells hspells, hvalue]
      exact ⟨rfl, rfl⟩

example : (ofDecimal true 15 (-8)).display = "-1.5e-7" := by decide +kernel

end Double

end LiveText
