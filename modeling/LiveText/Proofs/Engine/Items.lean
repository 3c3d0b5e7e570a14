import Mathlib
import LiveText.Engine.Pipeline
import LiveText.Proofs.Number.Whole

/-!
# Items by index

A number is cut to 32 bits on its way to an index. Where it fits, the item at its integral part is
shown; beyond that the index wraps around, and an infinity is taken for zero. `array_exact_iff` says
on which numbers a list shows the item that the number stands for, and `array_wraps` where it shows
another one.
-/

namespace LiveText

namespace Pipeline

open Double

/-- The item at an integer; `undefined` if there is none. -/
def itemAtInt (items : List String) (i : Int) : Value :=
  if i < 0 then .undefined else ((items[i.toNat]?).map Value.string).getD .undefined

/-- The item that a number stands for: the first one for `nan`, the one at the integral part of a
finite number, and none for an infinity. -/
def exactItem (items : List String) : Double → Value
  | .nan => itemAtInt items 0
  | .infinity _ => .undefined
  | x@(.finite ..) => itemAtInt items x.toInt

private theorem exactItem_of_isFinite {x : Double} (h : x.isFinite = true) (items : List String) :
    exactItem items x = itemAtInt items x.toInt := by
  obtain ⟨_, _, _, rfl⟩ := Double.exists_finite_eq h
  rfl

/-- There is an item at an integer exactly from zero up to the count of the items. -/
theorem itemAtInt_eq_undefined_iff {items : List String} {i : Int} :
    itemAtInt items i = .undefined ↔ ¬ (0 ≤ i ∧ i < items.length) := by
  rw [itemAtInt]
  split_ifs with hneg
  · simp only [true_iff]
    omega
  · by_cases hi : i.toNat < items.length
    · rw [List.getElem?_eq_getElem hi, Option.map_some, Option.getD_some]
      exact ⟨nofun, fun h => absurd ⟨by omega, by omega⟩ h⟩
    · rw [List.getElem?_eq_none (Nat.le_of_not_lt hi), Option.map_none, Option.getD_none]
      simp only [true_iff]
      omega

private theorem itemAt_eq (items : List String) (v : Value) :
    itemAt items v = itemAtInt items v.toStrictNumber.toInt32 := rfl

/-- An infinity is taken for zero. -/
theorem itemAtInt_infinity_iff (items : List String) (negative : Bool) :
    itemAtInt items (Double.infinity negative).toInt32 = .undefined ↔ items = [] := by
  have hzero : (Double.infinity negative).toInt32 = 0 := rfl
  rw [hzero, itemAtInt_eq_undefined_iff, ← List.length_eq_zero_iff]
  omega

/-- The numbers that lead to another item than the one they stand for: infinities, if there are any
items, and finite numbers whose integral part has more than 32 bits, unless the index that is left
of it gives the same. -/
inductive Misled (items : List String) : Double → Prop where
  | infinity {negative : Bool} (h : items ≠ []) : Misled items (.infinity negative)
  | wrapped {x : Double} (hfinite : x.isFinite = true) (hwide : ¬ FitsInt32 x.toInt)
      (hdiffer : itemAtInt items x.toInt32 ≠ itemAtInt items x.toInt) : Misled items x

/-- The item at the index of a number is the one that it stands for unless the number is misled. -/
theorem itemAtInt_toInt32_eq_iff (items : List String) (x : Double) :
    itemAtInt items x.toInt32 = exactItem items x ↔ ¬ Misled items x := by
  by_cases hfinite : x.isFinite = true
  · rw [exactItem_of_isFinite hfinite]
    constructor
    · intro heq hmisled
      cases hmisled with
      | infinity => cases hfinite
      | wrapped _ _ hdiffer => exact hdiffer heq
    · intro hnot
      by_cases hfits : FitsInt32 x.toInt
      · rw [toInt32_eq_toInt_iff.mpr hfits]
      · exact by_contra fun hdiffer => hnot (.wrapped hfinite hfits hdiffer)
  · cases x with
    | nan =>
      refine ⟨fun _ hmisled => ?_, fun _ => rfl⟩
      cases hmisled with
      | wrapped hfinite => cases hfinite
    | infinity negative =>
      rw [exactItem, itemAtInt_infinity_iff]
      constructor
      · intro hnil hmisled
        cases hmisled with
        | infinity hne => exact hne hnil
        | wrapped hfinite => cases hfinite
      · exact fun hnot => by_contra fun hne => hnot (.infinity hne)
    | finite negative units h => exact absurd rfl hfinite

/-- With no more items than there are indexes, only what is left of a wide integral part matters. -/
private theorem misled_iff {items : List String} (hlength : items.length ≤ 0x80000000)
    (x : Double) :
    Misled items x ↔ (∃ negative, x = .infinity negative) ∧ items ≠ [] ∨
      x.isFinite = true ∧ ¬ FitsInt32 x.toInt ∧ 0 ≤ x.toInt32 ∧ x.toInt32 < items.length := by
  have hnone (hwide : ¬ FitsInt32 x.toInt) : itemAtInt items x.toInt = .undefined := by
    rw [itemAtInt_eq_undefined_iff]
    rintro ⟨hlow, hhigh⟩
    exact hwide ⟨by omega, by omega⟩
  have hsome : itemAtInt items x.toInt32 ≠ .undefined ↔
      0 ≤ x.toInt32 ∧ x.toInt32 < items.length := by
    rw [Ne, itemAtInt_eq_undefined_iff, not_not]
  constructor
  · intro h
    cases h with
    | infinity h => exact .inl ⟨⟨_, rfl⟩, h⟩
    | wrapped hfinite hwide hdiffer =>
      rw [hnone hwide, hsome] at hdiffer
      exact .inr ⟨hfinite, hwide, hdiffer⟩
  · rintro (⟨⟨negative, rfl⟩, h⟩ | ⟨hfinite, hwide, hinside⟩)
    · exact .infinity h
    · refine .wrapped hfinite hwide ?_
      rw [hnone hwide, hsome]
      exact hinside

/-- A list shows the item that a number stands for exactly if the number is not misled. In a list of
at most `2^31` items, misled are the infinities, if there are any items, and the finite numbers
whose integral part has more than 32 bits, of which the low ones are the index of an item. -/
theorem array_exact_iff (s : Setting) (items : List String) (v : Value) (t : Trail) :
    ((apply s (.array items) v).run t = (exactItem items v.toStrictNumber, t) ↔
      ¬ Misled items v.toStrictNumber) ∧
    (items.length ≤ 0x80000000 → (Misled items v.toStrictNumber ↔
      (∃ negative, v.toStrictNumber = .infinity negative) ∧ items ≠ [] ∨
      v.toStrictNumber.isFinite = true ∧ ¬ FitsInt32 v.toStrictNumber.toInt ∧
        0 ≤ v.toStrictNumber.toInt32 ∧ v.toStrictNumber.toInt32 < items.length)) := by
  have hrun : (apply s (.array items) v).run t = (itemAtInt items v.toStrictNumber.toInt32, t) :=
    rfl
  refine ⟨?_, fun hlength => misled_iff hlength _⟩
  rw [hrun, Prod.mk.injEq, and_iff_left rfl]
  exact itemAtInt_toInt32_eq_iff items v.toStrictNumber

/-- `2^32` and an infinity stand for no item, and are shown as the first one. -/
theorem array_wraps :
    (itemAt ["a", "b"] (.number 0x100000000) = .string "a" ∧
      exactItem ["a", "b"] (0x100000000 : Double) = .undefined) ∧
    (itemAt ["a", "b"] (.number (.infinity false)) = .string "a" ∧
      exactItem ["a", "b"] (.infinity false) = .undefined) := by
  have hnumber : (0x100000000 : Double) = Double.ofInt 0x100000000 :=
    (Double.ofInt_natCast 0x100000000).symm
  have hwide : Double.IsWhole 0x100000000 := Double.isWhole_iff.mpr (by decide)
  have hwhole : (0x100000000 : Double).toInt = 0x100000000 := by
    rw [hnumber, Double.toInt_ofInt hwide]
  have hfinite : (0x100000000 : Double).isFinite = true := by
    rw [hnumber, Double.isFinite_ofInt hwide]
  have hindex : (0x100000000 : Double).toInt32 = 0 := by
    rw [Double.toInt32, hwhole]
    rfl
  refine ⟨⟨?_, ?_⟩, rfl, rfl⟩
  · rw [itemAt_eq, Value.toStrictNumber, hindex]
    rfl
  · rw [exactItem_of_isFinite hfinite, hwhole]
    rfl

end Pipeline

end LiveText
