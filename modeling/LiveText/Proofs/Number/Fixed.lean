import Mathlib
import LiveText.Number.Fixed
import LiveText.Proofs.Number.Carry

/-!
# Fixed places in exact arithmetic

A number with a fixed count of places shows its plain text rounded to that place, a half going away
from zero: `toFixed_denotes`. What is rounded is the number that the plain text denotes, not the
double itself.
-/

namespace LiveText

open Digits

namespace Fixed

variable {whole fraction digits : List Char} {places : Nat}

private theorem HasPlaces.denoted_joined (h : HasPlaces places whole fraction) :
    denoted (joined whole fraction) = value 10 (whole ++ fraction) / 10 ^ places := by
  rw [Fixed.denoted_joined h.isDigit, h.length_fraction]

/-- Placed digits with their point denote the count of the last place. -/
theorem IsPlaced.denoted_joined (h : IsPlaced places digits) :
    denoted (joined (digits.take (digits.length - places))
      (digits.drop (digits.length - places))) = value 10 digits / 10 ^ places := by
  rw [h.hasPlaces.denoted_joined, List.take_append_drop]

private theorem parts_joined (h : ∀ c ∈ whole ++ fraction, c.isDigit = true) :
    parts (joined whole fraction) = (whole, fraction) := by
  have hpoint : '.' ∉ whole := point_not_mem fun c hc => h c (List.mem_append_left _ hc)
  rw [parts, joined]
  split_ifs with hempty
  · rw [Text.cutFirst?_eq_none_iff.mpr hpoint, hempty]
    rfl
  · rw [Text.cutFirst?_eq_some_iff.mpr ⟨rfl, hpoint⟩]
    rfl

/-- There is a digit other than zero exactly if digits denote something else. -/
private theorem any_ne_zero_iff (h : ∀ c ∈ digits, c.isDigit = true) :
    digits.any (· ≠ '0') = true ↔ value 10 digits ≠ 0 := by
  have hdigit {c : Char} (hc : c.isDigit = true) : (digit? c).getD 0 = 0 ↔ c = '0' := by
    have all : ∀ k : Fin 10, (digit? (char k)).getD 0 = 0 ↔ char k = '0' := by decide
    rw [← char_digit? hc]
    exact all ⟨_, digit?_of_isDigit hc⟩
  induction digits using List.reverseRecOn with
  | nil => decide
  | append_singleton cs c ih =>
    have hc : c ≠ '0' ↔ (digit? c).getD 0 ≠ 0 := not_congr (hdigit (h c (by simp))).symm
    have hcs : cs.any (· ≠ '0') = true ↔ value 10 cs ≠ 0 :=
      ih fun d hd => h d (List.mem_append_left _ hd)
    rw [value_append_singleton, List.any_append, Bool.or_eq_true, hcs]
    simp only [List.any_cons, List.any_nil, Bool.or_false, decide_eq_true_eq, hc]
    omega

end Fixed

namespace Double

open Fixed

private theorem ofNat_eq (n : Nat) (h : Number.Representable (n * Number.unity)) :
    ofNat n = .finite false (n * Number.unity) h := ofUnits_of_representable false h

private theorem representable_zero : Number.Representable 0 := by decide +kernel

theorem zero_eq : (0 : Double) = .finite false 0 representable_zero := by
  change ofNat 0 = _
  rw [ofNat_eq 0 (by rw [Nat.zero_mul]; exact representable_zero)]
  simp only [Nat.zero_mul]

/-- A magnitude is below `10^21` if its units are. -/
theorem abs_less_iff (negative : Bool) (units : Nat) (h : Number.Representable units) :
    (Double.finite negative units h).abs.less (ofNat (Nat.pow 10 21)) = true ↔
      units < Nat.pow 10 21 * Number.unity := by
  rw [ofNat_eq _ (by decide +kernel), less, beq_iff_eq, abs]
  simp only [compare?, Option.some.injEq, compare_lt_iff_lt, Double.units, Nat.cast_lt]

/-- The digits of a number below `10^21` in magnitude are those of its plain text, rounded to the
last place, with a sign if the number is below zero and they denote something else than zero. -/
theorem exists_rounded (negative : Bool) {units : Nat} (h : Number.Representable units)
    (hunits : units < Nat.pow 10 21 * Number.unity) (places : Nat) :
    ∃ digits, IsPlaced (min places 100) digits ∧
      (value 10 digits : Int) =
        ⌊denoted (Layout.plain.chars (.finite false units h)) * 10 ^ min places 100 + 1 / 2⌋ ∧
      (Double.finite negative units h).fixedChars places =
        (if (Double.finite negative units h).less 0 = true ∧ value 10 digits ≠ 0 then ['-']
            else []) ++
          joined (digits.take (digits.length - min places 100))
            (digits.drop (digits.length - min places 100)) := by
  obtain ⟨whole, fraction, htext, hplaces, -⟩ := Layout.exists_places_plain h
  have hplaced := IsPlaced.rounded hplaces (min places 100)
  have hvalue : (Decimal.mk (value 10 (whole ++ fraction)) (-fraction.length)).value =
      denoted (joined whole fraction) := by
    rw [Fixed.denoted_joined hplaces.isDigit, Decimal.value, zpow_neg, zpow_natCast, div_eq_mul_inv]
  refine ⟨rounded (min places 100) whole fraction, hplaced, ?_, ?_⟩
  · rw [value_rounded hplaces.isDigit, Decimal.scaled_eq_floor, hvalue, htext]
  · rw [fixedChars, if_pos hunits, abs, htext, parts_joined hplaces.isDigit]
    dsimp only
    rw [maxPlaces, hplaced.pointed_eq]
    simp only [Bool.and_eq_true, any_ne_zero_iff hplaced.isDigit]

/-- The digits of a number below `10^21` in magnitude are a sign or none, a whole part and so many
fraction digits. -/
theorem exists_fixedChars (negative : Bool) {units : Nat} (h : Number.Representable units)
    (hunits : units < Nat.pow 10 21 * Number.unity) (places : Nat) :
    ∃ sign whole fraction, (sign = [] ∨ sign = ['-']) ∧ HasPlaces (min places 100) whole fraction ∧
      (Double.finite negative units h).fixedChars places = sign ++ joined whole fraction := by
  obtain ⟨digits, hplaced, -, htext⟩ := exists_rounded negative h hunits places
  refine ⟨_, _, _, ?_, hplaced.hasPlaces, htext⟩
  split_ifs
  · exact .inr rfl
  · exact .inl rfl

/-- A finite number below `10^21` in magnitude is shown with so many places, at most a hundred, as
its plain text rounded to the last of them, a half away from zero; the sign is shown only beside a
number other than zero. -/
theorem toFixed_denotes {x : Double} (hfinite : x.isFinite = true)
    (hless : x.abs.less (ofNat (Nat.pow 10 21)) = true) (places : Nat) :
    IsPlain (Layout.plain.chars x.abs) ∧
    ∃ whole fraction, HasPlaces (min places 100) whole fraction ∧
      denoted (joined whole fraction) =
        ⌊denoted (Layout.plain.chars x.abs) * 10 ^ min places 100 + 1 / 2⌋ /
          10 ^ min places 100 ∧
      ∃ sign, x.toFixed places = String.ofList (sign ++ joined whole fraction) ∧
        (sign = ['-'] ∧ x.less 0 = true ∧ denoted (joined whole fraction) ≠ 0 ∨
          sign = [] ∧ ¬ (x.less 0 = true ∧ denoted (joined whole fraction) ≠ 0)) := by
  cases x with
  | nan => cases hfinite
  | infinity negative => cases hfinite
  | finite negative units h =>
    have hunits := (abs_less_iff negative units h).mp hless
    obtain ⟨hplain, -⟩ := Layout.denoted_plain h
    obtain ⟨digits, hplaced, hvalue, htext⟩ := exists_rounded negative h hunits places
    have hdenoted := hplaced.denoted_joined
    have hne : denoted (joined (digits.take (digits.length - min places 100))
        (digits.drop (digits.length - min places 100))) ≠ 0 ↔ value 10 digits ≠ 0 := by
      rw [hdenoted]
      simp
    refine ⟨hplain, _, _, hplaced.hasPlaces, ?_, _, congrArg String.ofList htext, ?_⟩
    · rw [hdenoted, abs, ← hvalue, Int.cast_natCast]
    · rw [hne]
      split_ifs with hsign
      · exact .inl ⟨rfl, hsign⟩
      · exact .inr ⟨rfl, hsign⟩

/-- `-2.55` with one place is rounded on these digits, although the double is nearer to zero. -/
theorem toFixed_denotes_at_half :
    (ofDecimal true 255 (-2)).isFinite = true ∧
    (ofDecimal true 255 (-2)).abs.less (ofNat (Nat.pow 10 21)) = true ∧
    IsPlain (Layout.plain.chars (ofDecimal true 255 (-2)).abs) ∧
    ∃ whole fraction, HasPlaces (min 1 100) whole fraction ∧
      denoted (joined whole fraction) =
        ⌊denoted (Layout.plain.chars (ofDecimal true 255 (-2)).abs) * 10 ^ min 1 100 + 1 / 2⌋ /
          10 ^ min 1 100 ∧
      ∃ sign, (ofDecimal true 255 (-2)).toFixed 1 = String.ofList (sign ++ joined whole fraction) ∧
        (sign = ['-'] ∧ (ofDecimal true 255 (-2)).less 0 = true ∧
            denoted (joined whole fraction) ≠ 0 ∨
          sign = [] ∧ ¬ ((ofDecimal true 255 (-2)).less 0 = true ∧
            denoted (joined whole fraction) ≠ 0)) :=
  have hfinite : (ofDecimal true 255 (-2)).isFinite = true := by decide +kernel
  have hless : (ofDecimal true 255 (-2)).abs.less (ofNat (Nat.pow 10 21)) = true := by
    decide +kernel
  ⟨hfinite, hless, toFixed_denotes hfinite hless 1⟩

example : (ofDecimal true 255 (-2)).toFixed 1 = "-2.6" := by decide +kernel

end Double

end LiveText
