import Mathlib
import LiveText.Proofs.Date.Elapsed

/-!
# Numbers as dates

Whole numbers between the two bounds are seconds, and from the second bound on they are
milliseconds; the bounds fit, so that the seconds and the milliseconds of a time are the same
instant (`seconds_and_millis_alike`). A text that spells a number is the date that the number is,
unless the number is zero, which counts as false where its texts do not (`numeric_text_shown`).
-/

namespace LiveText

namespace Moment

/-! ## Whole numbers by their size -/

private theorem elapsedBelow_eq : elapsedBelow = Double.ofInt 946681200 :=
  (Double.ofInt_natCast _).symm

private theorem secondsBelow_eq : secondsBelow = Double.ofInt 946681200000 :=
  (Double.ofInt_natCast _).symm

private theorem isWhole_946681200 : Double.IsWhole 946681200 := Double.isWhole_iff.mpr (by decide)

private theorem isWhole_946681200000 : Double.IsWhole 946681200000 :=
  Double.isWhole_iff.mpr (by decide)

/-- A whole number from the first bound on is no duration unless it is asked to be one. -/
theorem ofNumber?_of_le {n : Int} (h : Double.IsWhole n) (hlow : 946681200 ≤ n) (isTime : Bool) :
    ofNumber? false isTime (Double.ofInt n) = (Instant.ofMillisNumber?
      (if n < 946681200000 then Double.ofInt n * Double.ofNat 1000 else Double.ofInt n)).map
        .instant := by
  have hless : (Double.ofInt n).less elapsedBelow = false := by
    rw [elapsedBelow_eq, Bool.eq_false_iff, ne_eq, Double.less_ofInt_iff h isWhole_946681200]
    exact not_lt.mpr hlow
  have hseconds : (Double.ofInt n).less secondsBelow = decide (n < 946681200000) := by
    rw [secondsBelow_eq, Bool.eq_iff_iff, Double.less_ofInt_iff h isWhole_946681200000,
      decide_eq_true_eq]
  simp [ofNumber?, Double.isFinite_ofInt h, Double.isIntegral_ofInt h, hless, hseconds]

/-- The seconds of a time and its milliseconds are its instant. -/
theorem ofValue?_seconds_millis {n : Nat} (hlow : 946681200 ≤ n) (hhigh : n < 946681200000)
    (zone : Zone) (isTime : Bool) :
    ofValue? zone false isTime (.number (Double.ofNat n)) = some (.instant ⟨n, 0⟩) ∧
    ofValue? zone false isTime (.number (Double.ofNat (1000 * n))) = some (.instant ⟨n, 0⟩) := by
  have hwhole : Double.IsWhole n := Double.isWhole_iff.mpr (by omega)
  have hms : Double.IsWhole (n * 1000) := Double.isWhole_iff.mpr (by omega)
  have hrange : Instant.inRange n = true := by
    rw [Instant.inRange_iff, Instant.firstSecond, Instant.lastSecond]
    omega
  have hinstant : Instant.ofMillisNumber? (Double.ofInt (n * 1000)) = some ⟨n, 0⟩ := by
    rw [Instant.ofMillisNumber?_ofInt hms, Instant.ofMillis?_seconds, if_pos hrange]
  have hproduct : Double.ofInt n * Double.ofNat 1000 = Double.ofInt (n * 1000) :=
    Double.ofInt_mul_ofNat hwhole (Double.isWhole_iff.mpr (by decide)) (by decide)
  have hcast : ((1000 * n : Nat) : Int) = n * 1000 := by
    rw [Nat.mul_comm, Nat.cast_mul]
    rfl
  constructor
  · rw [← Double.ofInt_natCast, ofValue?_of_number? (Value.truthy_ofInt hwhole (by omega)) rfl,
      ofNumber?_of_le hwhole (by omega), if_pos (by omega), hproduct, hinstant, Option.map_some]
  · rw [← Double.ofInt_natCast, hcast, ofValue?_of_number? (Value.truthy_ofInt hms (by omega)) rfl,
      ofNumber?_of_le hms (by omega), if_neg (by omega), hinstant, Option.map_some]

/-! ## Texts of numbers -/

/-- A text that is not blank and spells a number spells that number. -/
private theorem number?_text {s : String} (hblank : Text.trim s.toList ≠ [])
    (hnumber : (Numeral.readWhole s.toList).isNaN = false) :
    number? (.string s) = some (Numeral.readWhole s.toList) := by
  have hempty : (Text.trim s.toList).isEmpty = false := Bool.eq_false_iff.mpr fun h =>
    hblank (List.isEmpty_iff.mp h)
  rw [number?, hempty, hnumber]
  rfl

/-- A text that is not blank counts as true. -/
private theorem truthy_text {s : String} (hblank : Text.trim s.toList ≠ []) :
    (Value.string s).truthy = true := by
  have hne : s ≠ "" := by
    rintro rfl
    exact hblank (by decide)
  simpa [Value.truthy] using hne

end Moment

namespace DatePattern

open Moment

/-! ## Seconds and milliseconds -/

/-- The seconds of a time and its milliseconds are the same instant, never a duration, and are shown
alike, unless a duration is asked for. -/
theorem seconds_and_millis_alike {n : Nat} (hlow : 946681200 ≤ n) (hhigh : n < 946681200000)
    {arg : List Char} (hpattern : (readArgument arg).1 = false) (zone : Zone) (isTime : Bool)
    (default : List Char) :
    ofValue? zone (readArgument arg).1 isTime (.number (Double.ofNat n)) =
      some (.instant ⟨n, 0⟩) ∧
    ofValue? zone (readArgument arg).1 isTime (.number (Double.ofNat (1000 * n))) =
      some (.instant ⟨n, 0⟩) ∧
    shown zone (.number (Double.ofNat n)) arg isTime default =
      shown zone (.number (Double.ofNat (1000 * n))) arg isTime default ∧
    shown zone (.number (Double.ofNat n)) arg isTime default =
      .ok (render (zone.localize ⟨n, 0⟩) (patternOf arg default)) := by
  obtain ⟨hseconds, hmillis⟩ := ofValue?_seconds_millis hlow hhigh zone isTime
  rw [← hpattern] at hseconds hmillis
  rw [shown_of_instant hseconds, shown_of_instant hmillis]
  exact ⟨hseconds, hmillis, rfl, rfl⟩

/-- The first and the last second that are read as such, half past five hours to the east. -/
theorem seconds_and_millis_alike_ends :
    shown (.fixed ⟨19800, by decide⟩) (.number (Double.ofNat 946681200000))
      "YYYY-MM-DD hh:mm:ss".toList true [] = .ok "2000-01-01 04:30:00".toList ∧
    shown (.fixed ⟨19800, by decide⟩) (.number (Double.ofNat 946681199999000))
      "YYYY-MM-DD hh:mm:ss".toList false [] = .ok "31969-02-18 13:29:59".toList := by
  have hpattern : (readArgument "YYYY-MM-DD hh:mm:ss".toList).1 = false := by decide
  obtain ⟨-, -, halike, hfirst⟩ := seconds_and_millis_alike (n := 946681200) (by decide) (by decide)
    hpattern (.fixed ⟨19800, by decide⟩) true []
  obtain ⟨-, -, halike', hlast⟩ := seconds_and_millis_alike (n := 946681199999) (by decide)
    (by decide) hpattern (.fixed ⟨19800, by decide⟩) false []
  rw [← halike, ← halike', hfirst, hlast]
  decide +kernel

/-! ## Texts of numbers -/

/-- A text that is not blank and spells a number other than zero is the date that the number is. A
zero is no date, but a text that spells one is shown as the start of 1970: as a duration, or in the
zone where a channel holds times. -/
theorem numeric_text_shown {s : String} (hblank : Text.trim s.toList ≠ [])
    (hnumber : (Numeral.readWhole s.toList).isNaN = false) (zone : Zone) (arg : List Char)
    (isTime : Bool) (default : List Char) :
    ((Numeral.readWhole s.toList).isZero = false →
      ofValue? zone (readArgument arg).1 isTime (.string s) =
        ofValue? zone (readArgument arg).1 isTime (.number (Numeral.readWhole s.toList)) ∧
      shown zone (.string s) arg isTime default =
        shown zone (.number (Numeral.readWhole s.toList)) arg isTime default) ∧
    ((Numeral.readWhole s.toList).isZero = true →
      shown zone (.number (Numeral.readWhole s.toList)) arg isTime default = .ok [] ∧
      shown zone (.string s) arg isTime default =
        .ok (render
          ((if (readArgument arg).1 || !isTime then .fixed .zero else zone).localize ⟨0, 0⟩)
          (patternOf arg default))) := by
  have htext : ofValue? zone (readArgument arg).1 isTime (.string s) =
      ofNumber? (readArgument arg).1 isTime (Numeral.readWhole s.toList) :=
    ofValue?_of_number? (truthy_text hblank) (number?_text hblank hnumber)
  generalize Numeral.readWhole s.toList = x at hnumber htext ⊢
  constructor
  · intro hzero
    have htruthy : (Value.number x).truthy = true := by
      rw [Value.truthy, hzero, hnumber]
      rfl
    have hmoment : ofValue? zone (readArgument arg).1 isTime (.string s) =
        ofValue? zone (readArgument arg).1 isTime (.number x) := by
      rw [htext, ofValue?_of_number? htruthy rfl]
    refine ⟨hmoment, ?_⟩
    rw [shown, shown, hmoment]
  · intro hzero
    have hfalsy : (Value.number x).truthy = false := by
      rw [Value.truthy, hzero]
      rfl
    refine ⟨shown_of_none (ofValue?_of_falsy hfalsy) default, ?_⟩
    obtain ⟨hinstant, hmoment⟩ := ofNumber?_zero hzero (readArgument arg).1 isTime
    rw [hmoment] at htext
    split_ifs at htext ⊢ with hduration
    · have hrange : ShiftsInRange zone x :=
        shiftsInRange_of_le hinstant (by decide) (by decide) zone
      rw [shown_of_shiftsInRange htext hrange, elapsedChars, hinstant]
      rfl
    · exact shown_of_instant htext default

/-- Sixteen in hexadecimal between blanks, and a negative zero in a channel of times an hour to the
east. -/
theorem numeric_text_shown_hex :
    shown (.fixed ⟨3600, by decide⟩) (.string " 0x10 ") "hh:mm:ss".toList false [] =
      .ok "00:00:16".toList ∧
    shown (.fixed ⟨3600, by decide⟩) (.string "-0.0") "hh:mm:ss".toList true [] =
      .ok "01:00:00".toList := by
  constructor
  · rw [((numeric_text_shown (s := " 0x10 ") (by decide) (by decide +kernel)
      (.fixed ⟨3600, by decide⟩) "hh:mm:ss".toList false []).1 (by decide +kernel)).2]
    decide +kernel
  · rw [((numeric_text_shown (s := "-0.0") (by decide) (by decide)
      (.fixed ⟨3600, by decide⟩) "hh:mm:ss".toList true []).2 (by decide)).2]
    decide +kernel

/-- The text of a zero is shown as a duration, but the zero is not shown. -/
theorem zero_text_not_alike :
    Numeral.readWhole "0".toList = 0 ∧
    shown (.fixed .zero) (.string "0") "hh:mm:ss".toList false [] = .ok "00:00:00".toList ∧
    shown (.fixed .zero) (.number 0) "hh:mm:ss".toList false [] = .ok [] := by
  decide +kernel

end DatePattern

end LiveText
