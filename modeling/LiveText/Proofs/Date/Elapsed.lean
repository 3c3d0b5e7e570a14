import Mathlib
import LiveText.Engine.Session
import LiveText.Proofs.Date.Instants
import LiveText.Proofs.Engine.Filling

/-!
# Durations

Which values are durations does not depend on the zone (`ofValue?_eq_elapsed_iff`). A duration is
shown by the fields, in universal time, of the instant that long after the start of 1970, in every
zone whose offset shifts this instant within the range of instants (`elapsed_shown_alike`). Showing
a value breaks off exactly for the durations whose instant the offset shifts out of it, and there
are some for every offset but zero (`shown_completes_iff`).
-/

namespace LiveText

theorem Value.truthy_ofInt {n : Int} (h : Double.IsWhole n) (hne : n ≠ 0) :
    (Value.number (Double.ofInt n)).truthy = true := by
  have hzero : (Double.ofInt n).isZero = false :=
    Bool.eq_false_iff.mpr fun hzero => hne ((Double.isZero_ofInt_iff h).mp hzero)
  rw [truthy, hzero, Double.isNaN_ofInt h]
  rfl

namespace Moment

/-! ## What is a duration -/

/-- A value is a duration of a number of seconds: it counts as true, spells the finite number, and
is asked to be a duration or an integer below the first time of a channel without times. -/
structure IsElapsed (asked isTime : Bool) (v : Value) (x : Double) : Prop where
  truthy : v.truthy = true
  number : number? v = some x
  finite : x.isFinite = true
  small : asked = true ∨ x.isIntegral = true ∧ x.less elapsedBelow = true ∧ isTime = false

private theorem ofNumber?_eq_elapsed_iff {asked isTime : Bool} {x y : Double} :
    ofNumber? asked isTime x = some (.elapsed y) ↔ x = y ∧ x.isFinite = true ∧
      (asked = true ∨ x.isIntegral = true ∧ x.less elapsedBelow = true ∧ isTime = false) := by
  have hinstant (ms : Double) :
      (Instant.ofMillisNumber? ms).map Moment.instant ≠ some (.elapsed y) := by
    cases Instant.ofMillisNumber? ms <;> simp
  rw [ofNumber?]
  cases hfinite : x.isFinite with
  | false => simp
  | true =>
    cases hsmall : asked || x.isIntegral && x.less elapsedBelow && !isTime with
    | true =>
      have hparts : asked = true ∨ x.isIntegral = true ∧ x.less elapsedBelow = true ∧
          isTime = false := by
        simpa [and_assoc] using hsmall
      simp [hparts]
    | false =>
      have hparts : ¬ (asked = true ∨ x.isIntegral = true ∧ x.less elapsedBelow = true ∧
          isTime = false) := by
        intro hparts
        simp_all
      simp [hparts, hinstant]

variable {zone : Zone} {asked isTime : Bool} {v : Value} {x : Double}

/-- What counts as false is no date. -/
theorem ofValue?_of_falsy (h : v.truthy = false) : ofValue? zone asked isTime v = none := by
  unfold ofValue?
  split
  · rfl
  · rw [h]
    rfl

/-- What counts as true and spells a number is a date like the number. -/
theorem ofValue?_of_number? (htruthy : v.truthy = true) (hnumber : number? v = some x) :
    ofValue? zone asked isTime v = ofNumber? asked isTime x := by
  unfold ofValue?
  split
  · cases hnumber
  · rw [htruthy, hnumber]
    rfl

/-- What spells no number is no duration. -/
private theorem ofValue?_ne_elapsed (hnumber : number? v = none) :
    ofValue? zone asked isTime v ≠ some (.elapsed x) := by
  have hinstant (t : Option Instant) : t.map Moment.instant ≠ some (.elapsed x) := by
    cases t <;> simp
  unfold ofValue?
  split
  · exact nofun
  · simp only [hnumber]
    split
    · exact nofun
    · split
      · exact hinstant _
      · exact nofun

/-- Which values are durations, and of how many seconds, does not depend on the zone. -/
theorem ofValue?_eq_elapsed_iff :
    ofValue? zone asked isTime v = some (.elapsed x) ↔ IsElapsed asked isTime v x := by
  constructor
  · intro h
    cases htruthy : v.truthy with
    | false =>
      rw [ofValue?_of_falsy htruthy] at h
      cases h
    | true =>
      cases hnumber : number? v with
      | none => exact absurd h (ofValue?_ne_elapsed hnumber)
      | some y =>
        rw [ofValue?_of_number? htruthy hnumber, ofNumber?_eq_elapsed_iff] at h
        obtain ⟨rfl, hfinite, hsmall⟩ := h
        exact ⟨htruthy, hnumber, hfinite, hsmall⟩
  · intro h
    rw [ofValue?_of_number? h.truthy h.number, ofNumber?_eq_elapsed_iff]
    exact ⟨rfl, h.finite, h.small⟩

/-- A duration of whole seconds has its instant exactly where there is one. -/
private theorem elapsedInstant?_ofInt {n : Int} (h : Double.IsWhole n)
    (hms : Double.IsWhole (n * 1000)) :
    elapsedInstant? (Double.ofInt n) = if Instant.inRange n then some ⟨n, 0⟩ else none := by
  have hproduct : Double.ofInt n * Double.ofNat 1000 = Double.ofInt (n * 1000) :=
    Double.ofInt_mul_ofNat h (Double.isWhole_iff.mpr (by decide)) (by decide)
  rw [elapsedInstant?, hproduct, Instant.ofMillisNumber?_ofInt hms, Instant.ofMillis?_seconds]

end Moment

namespace DatePattern

open Moment

variable {zone : Zone} {v : Value} {arg : List Char} {isTime : Bool} {x : Double}

/-! ## How a duration is shown -/

/-- Whether the offset of a zone shifts the instant of a duration, if it has one, within the range
of instants. -/
def ShiftsInRange (zone : Zone) (x : Double) : Prop :=
  ∀ t, elapsedInstant? x = some t → Instant.inRange (t.seconds - (zone.offsetAt t).seconds) = true

/-- Every zone shifts a duration within the range of instants if its instant lies there by a day. -/
theorem shiftsInRange_of_le {t : Instant} (ht : elapsedInstant? x = some t)
    (hlow : Instant.firstSecond + 86400 ≤ t.seconds)
    (hhigh : t.seconds + 86400 ≤ Instant.lastSecond) (zone : Zone) : ShiftsInRange zone x := by
  intro t' ht'
  obtain rfl : t = t' := Option.some.inj (ht.symm.trans ht')
  exact Instant.inRange_sub_offset hlow hhigh (zone.offsetAt t)

/-- The text of a duration: what a pattern shows in universal time of its instant, if it has one. -/
def elapsedChars (x : Double) (pattern : List Char) : List Char :=
  renderAny pattern ((elapsedInstant? x).map (Zone.fixed .zero).localize)

private theorem shown_of_elapsed
    (h : ofValue? zone (readArgument arg).1 isTime v = some (.elapsed x))
    (default : List Char) : shown zone v arg isTime default =
      (elapsedTime zone x).map (renderAny (patternOf arg default)) := by
  rw [shown, h]
  rfl

/-- A duration whose shift stays in range is shown in universal time. -/
theorem shown_of_shiftsInRange
    (h : ofValue? zone (readArgument arg).1 isTime v = some (.elapsed x))
    (hrange : ShiftsInRange zone x) (default : List Char) :
    shown zone v arg isTime default = .ok (elapsedChars x (patternOf arg default)) := by
  rw [shown_of_elapsed h, elapsedTime, elapsedChars]
  cases hinstant : elapsedInstant? x with
  | none => rfl
  | some t =>
    have hearlier := Instant.earlier_of_inRange (hrange t hinstant)
    have halike := LocalTime.render_congr (LocalTime.seconds_earlier t (zone.offsetAt t)) rfl
      (patternOf arg default)
    simp only [hearlier, Except.map, renderAny, Option.map_some, Option.getD_some, halike]

/-- Showing a value breaks off exactly if it is a duration whose instant the offset of the zone
shifts out of range. -/
theorem shown_eq_error_iff {default : List Char} {e : OutOfRange} :
    shown zone v arg isTime default = .error e ↔ ∃ x t,
      ofValue? zone (readArgument arg).1 isTime v = some (.elapsed x) ∧ elapsedInstant? x = some t ∧
        Instant.inRange (t.seconds - (zone.offsetAt t).seconds) = false ∧
          e = ⟨t.seconds - (zone.offsetAt t).seconds⟩ := by
  cases hmoment : ofValue? zone (readArgument arg).1 isTime v with
  | none => simp [shown_of_none hmoment]
  | some m =>
    cases m with
    | instant t => simp [shown_of_instant hmoment]
    | elapsed x =>
      rw [shown_of_elapsed hmoment, elapsedTime]
      cases hinstant : elapsedInstant? x with
      | none => simp [Except.map, hinstant]
      | some t =>
        have hshift : t.earlier (zone.offsetAt t).seconds = .error e ↔
            Instant.inRange (t.seconds - (zone.offsetAt t).seconds) = false ∧
              e = ⟨t.seconds - (zone.offsetAt t).seconds⟩ := Instant.earlier_eq_error_iff
        cases hearlier : t.earlier (zone.offsetAt t).seconds with
        | ok earlier => simp_all [Except.map]
        | error e => simp_all [Except.map]

/-- A value that is a duration has the same text in every two zones that shift it within the range
of instants. The text shows the fields in universal time of the instant that lies the whole
milliseconds of the duration after the start of 1970. -/
theorem elapsed_shown_alike (zone zone' : Zone)
    (h : ofValue? zone (readArgument arg).1 isTime v = some (.elapsed x))
    (hrange : ShiftsInRange zone x) (hrange' : ShiftsInRange zone' x) (default : List Char) :
    shown zone v arg isTime default = shown zone' v arg isTime default ∧
    shown zone v arg isTime default = .ok (elapsedChars x (patternOf arg default)) ∧
    ∀ t, elapsedInstant? x = some t → t.millis = Instant.floorOf (x * Double.ofNat 1000) := by
  have h' : ofValue? zone' (readArgument arg).1 isTime v = some (.elapsed x) :=
    ofValue?_eq_elapsed_iff.mpr (ofValue?_eq_elapsed_iff.mp h)
  have hshown := shown_of_shiftsInRange h hrange default
  have hshown' := shown_of_shiftsInRange h' hrange' default
  exact ⟨hshown.trans hshown'.symm, hshown, fun t ht => (Instant.of_ofMillisNumber? ht).2⟩

/-- Half a second before the start of 1970, in zones to the east and to the west. -/
theorem elapsed_shown_alike_before :
    shown (.fixed ⟨45900, by decide⟩) (.number (-Double.half))
        "duration,DD.MM.YY hh:mm:ss.sss".toList false [] = .ok "31.12.69 23:59:59.500".toList ∧
    shown (.fixed ⟨-36000, by decide⟩) (.number (-Double.half))
      "duration,DD.MM.YY hh:mm:ss.sss".toList false [] = .ok "31.12.69 23:59:59.500".toList := by
  have hinstant : elapsedInstant? (-Double.half) = some ⟨-1, 500000000⟩ := by decide +kernel
  have hrange (zone : Zone) : ShiftsInRange zone (-Double.half) :=
    shiftsInRange_of_le hinstant (by decide) (by decide) zone
  have hmoment : ofValue? (.fixed ⟨45900, by decide⟩)
      (readArgument "duration,DD.MM.YY hh:mm:ss.sss".toList).1 false (.number (-Double.half)) =
        some (.elapsed (-Double.half)) := by decide +kernel
  obtain ⟨halike, hshown, -⟩ := elapsed_shown_alike (.fixed ⟨45900, by decide⟩)
    (.fixed ⟨-36000, by decide⟩) hmoment (hrange _) (hrange _) []
  have htext : elapsedChars (-Double.half)
      (patternOf "duration,DD.MM.YY hh:mm:ss.sss".toList []) = "31.12.69 23:59:59.500".toList := by
    rw [elapsedChars, hinstant]
    decide +kernel
  rw [← halike, hshown, htext]
  exact ⟨rfl, rfl⟩

/-! ## Where showing breaks off -/

/-- Whether an offset shifts an instant within the range of instants. -/
theorem inRange_shift_iff {t : Instant} {seconds : Int} :
    Instant.inRange (t.seconds - seconds) = true ↔
      Instant.firstSecond + seconds ≤ t.seconds ∧ t.seconds ≤ Instant.lastSecond + seconds := by
  rw [Instant.inRange_iff, le_sub_iff_add_le, sub_le_iff_le_add]

/-- A value is shown unless it is a duration whose instant lies nearer to an end of the calendar
than the offset of the zone shifts it towards that end. -/
theorem exists_shown_iff {default : List Char} :
    (∃ text, shown zone v arg isTime default = .ok text) ↔ ∀ x t,
      ofValue? zone (readArgument arg).1 isTime v = some (.elapsed x) → elapsedInstant? x = some t →
        Instant.firstSecond + (zone.offsetAt t).seconds ≤ t.seconds ∧
          t.seconds ≤ Instant.lastSecond + (zone.offsetAt t).seconds := by
  constructor
  · rintro ⟨text, htext⟩ x t hmoment hinstant
    rw [← inRange_shift_iff]
    by_contra hout
    have herror : shown zone v arg isTime default =
        .error ⟨t.seconds - (zone.offsetAt t).seconds⟩ :=
      shown_eq_error_iff.mpr ⟨x, t, hmoment, hinstant, Bool.eq_false_iff.mpr hout, rfl⟩
    rw [htext] at herror
    cases herror
  · intro h
    cases hshown : shown zone v arg isTime default with
    | ok text => exact ⟨text, rfl⟩
    | error e =>
      obtain ⟨x, t, hmoment, hinstant, hout, -⟩ := shown_eq_error_iff.mp hshown
      exact absurd (inRange_shift_iff.mpr (h x t hmoment hinstant)) (Bool.eq_false_iff.mp hout)

/-- Every second of the calendar is the instant of a duration, if one is asked for. -/
theorem exists_elapsed {n : Int} (hrange : Instant.inRange n = true) (hne : n ≠ 0) (zone : Zone)
    (isTime : Bool) : ∃ v x, elapsedInstant? x = some ⟨n, 0⟩ ∧
      ofValue? zone (readArgument durationWord).1 isTime v = some (.elapsed x) := by
  have hbounds := Instant.inRange_iff.mp hrange
  rw [Instant.firstSecond, Instant.lastSecond] at hbounds
  have hwhole : Double.IsWhole n := Double.isWhole_iff.mpr (by omega)
  have hms : Double.IsWhole (n * 1000) := Double.isWhole_iff.mpr (by omega)
  refine ⟨.number (Double.ofInt n), Double.ofInt n, ?_, ?_⟩
  · rw [elapsedInstant?_ofInt hwhole hms, if_pos hrange]
  · exact ofValue?_eq_elapsed_iff.mpr
      ⟨Value.truthy_ofInt hwhole hne, rfl, Double.isFinite_ofInt hwhole, .inl (by decide)⟩

/-- Showing a value breaks off exactly for the durations whose instant lies nearer to an end of the
calendar than the offset of the zone at that instant shifts it towards that end; in universal time
there are none, and with every other offset there are some. -/
theorem shown_completes_iff (zone : Zone) (o : Offset) :
    (∀ v arg isTime default, (∃ text, shown zone v arg isTime default = .ok text) ↔ ∀ x t,
      ofValue? zone (readArgument arg).1 isTime v = some (.elapsed x) → elapsedInstant? x = some t →
        Instant.firstSecond + (zone.offsetAt t).seconds ≤ t.seconds ∧
          t.seconds ≤ Instant.lastSecond + (zone.offsetAt t).seconds) ∧
    ((∀ v arg isTime default, ∃ text, shown (.fixed o) v arg isTime default = .ok text) ↔
      o.seconds = 0) := by
  refine ⟨fun _ _ _ _ => exists_shown_iff, ?_⟩
  constructor
  · intro h
    obtain ⟨v, x, hinstant, hmoment⟩ := exists_elapsed (n := Instant.firstSecond) (by decide)
      (by decide) (.fixed o) false
    obtain ⟨w, y, hinstant', hmoment'⟩ := exists_elapsed (n := Instant.lastSecond) (by decide)
      (by decide) (.fixed o) false
    have hfirst := (exists_shown_iff.mp (h v durationWord false [])) x _ hmoment hinstant
    have hlast := (exists_shown_iff.mp (h w durationWord false [])) y _ hmoment' hinstant'
    dsimp only [Zone.offsetAt] at hfirst hlast
    omega
  · intro hzero v arg isTime default
    rw [exists_shown_iff]
    rintro x t - hinstant
    have hrange := Instant.inRange_iff.mp (Instant.of_ofMillisNumber? hinstant).1
    rw [Zone.offsetAt, hzero]
    omega

/-- The first second of the calendar as a duration breaks off an hour to the east, its last second
an hour to the west, and a template with such a date is not filled in. -/
theorem shown_breaks_off :
    Zone.ofMinutes? 60 = some (.fixed ⟨3600, by decide⟩) ∧
    shown (.fixed ⟨3600, by decide⟩) (.number (Double.ofInt (-8334601228800))) "hh:mm".toList false
      [] = .error ⟨-8334601232400⟩ ∧
    shown (.fixed ⟨-3600, by decide⟩) (.number (Double.ofInt 8210266876799))
      "duration,hh:mm".toList false [] = .error ⟨8210266880399⟩ ∧
    (Session.format { Engine.plain 50 with zone := .fixed ⟨3600, by decide⟩ } "{x;date(hh:mm)}" {}
      { states := [("x", .number (Double.ofInt (-8334601228800)))] }).2.1 =
        [.brokenOff ⟨-8334601232400⟩] := by
  refine ⟨rfl, by decide +kernel, by decide +kernel, by decide +kernel⟩

end DatePattern

end LiveText
