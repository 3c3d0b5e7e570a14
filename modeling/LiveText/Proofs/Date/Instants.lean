import Mathlib
import LiveText.Date.Display
import LiveText.Proofs.Number.Whole

/-!
# Instants and what is seen of them

Instants reach from the first second of the first date to the last second of the last one
(`inRange_iff`), and shifting an instant by seconds is refused exactly where the shift leaves this
range (`earlier_eq_error_iff`). What a pattern shows of a time depends on the seconds that its clock
has counted and on the fraction of its second alone (`render_congr`). A zero stands for the start of
1970, as a duration or as an instant (`ofNumber?_zero`).
-/

namespace LiveText

namespace Instant

/-- The first second of the first date. -/
def firstSecond : Int := -8334601228800

/-- The last second of the last date. -/
def lastSecond : Int := 8210266876799

theorem inRange_iff {seconds : Int} :
    inRange seconds = true ↔ firstSecond ≤ seconds ∧ seconds ≤ lastSecond := by
  have hfirst : firstDate.dayNumber = -96465292 := by decide
  have hlast : lastDate.dayNumber = 95026236 := by decide
  rw [inRange, hfirst, hlast, secondsPerDay, firstSecond, lastSecond, Bool.and_eq_true,
    decide_eq_true_eq, decide_eq_true_eq]
  omega

/-- The milliseconds of whole seconds. -/
theorem ofMillis?_seconds (seconds : Int) :
    ofMillis? (seconds * 1000) = if inRange seconds then some ⟨seconds, 0⟩ else none := by
  rw [ofMillis?, Int.mul_ediv_cancel _ (by decide), Int.mul_emod_left]
  rfl

theorem ofMillis?_eq_some_iff {ms : Int} {t : Instant} :
    ofMillis? ms = some t ↔
      inRange (ms / 1000) = true ∧ t = ⟨ms / 1000, (ms % 1000).toNat * 1000000⟩ := by
  rw [ofMillis?, Option.ite_none_right_eq_some, Option.some.injEq]
  exact and_congr_right fun _ => eq_comm

/-- The instant of milliseconds is in range and lies so many after the start of 1970. -/
private theorem of_ofMillis? {ms : Int} {t : Instant} (h : ofMillis? ms = some t) :
    inRange t.seconds = true ∧ t.millis = ms := by
  obtain ⟨hrange, rfl⟩ := ofMillis?_eq_some_iff.mp h
  refine ⟨hrange, ?_⟩
  rw [millis, subsecMillis, Nat.mul_div_cancel _ (by decide)]
  dsimp only
  omega

/-- The instant of a number of milliseconds is in range and lies the whole ones after the start of
1970. -/
theorem of_ofMillisNumber? {ms : Double} {t : Instant} (h : ofMillisNumber? ms = some t) :
    inRange t.seconds = true ∧ t.millis = floorOf ms := by
  rw [ofMillisNumber?] at h
  split at h
  case isTrue => exact of_ofMillis? h
  case isFalse => cases h

/-- The instant of a whole number of milliseconds. -/
theorem ofMillisNumber?_ofInt {ms : Int} (h : Double.IsWhole ms) :
    ofMillisNumber? (Double.ofInt ms) = ofMillis? ms := by
  rw [ofMillisNumber?, if_pos (Double.isFinite_ofInt h), floorOf, Double.floor_ofInt h,
    Double.toInt_ofInt h]

/-- An instant a day or more within the range of instants stays there, whichever offset it is
shifted by. -/
theorem inRange_sub_offset {seconds : Int} (hlow : firstSecond + 86400 ≤ seconds)
    (hhigh : seconds + 86400 ≤ lastSecond) (o : Offset) : inRange (seconds - o.seconds) = true := by
  have hsmall := o.small
  rw [inRange_iff]
  omega

theorem earlier_of_inRange {t : Instant} {seconds : Int}
    (h : inRange (t.seconds - seconds) = true) :
    t.earlier seconds = .ok { t with seconds := t.seconds - seconds } := if_pos h

/-- A shift is refused exactly where it leaves the range of instants. -/
theorem earlier_eq_error_iff {t : Instant} {seconds : Int} {e : OutOfRange} :
    t.earlier seconds = .error e ↔
      inRange (t.seconds - seconds) = false ∧ e = ⟨t.seconds - seconds⟩ := by
  rw [earlier]
  cases inRange (t.seconds - seconds) with
  | true => simp
  | false => simp [eq_comm]

end Instant

namespace LocalTime

/-- A time seen earlier by the offset that it is seen with counts the seconds of universal time. -/
theorem seconds_earlier (t : Instant) (o : Offset) :
    (LocalTime.mk { t with seconds := t.seconds - o.seconds } o).seconds =
      ((Zone.fixed .zero).localize t).seconds := by
  change t.seconds - o.seconds + o.seconds = t.seconds + 0
  omega

variable {a b : LocalTime}

/-- Fields depend on the seconds counted and on the fraction of the second alone. -/
private theorem renderField_congr (hseconds : a.seconds = b.seconds)
    (hnanos : a.instant.nanos = b.instant.nanos) (places : Nat) (field : DateField) :
    field.render a places = field.render b places := by
  have hday : a.dayNumber = b.dayNumber := by rw [dayNumber, dayNumber, hseconds]
  have hdate : a.date = b.date := by rw [date, date, hday]
  have hclock : a.secondOfDay = b.secondOfDay := by rw [secondOfDay, secondOfDay, hseconds]
  cases field with
  | year => rw [DateField.render, DateField.render, hdate]
  | month => rw [DateField.render, DateField.render, hdate]
  | day => rw [DateField.render, DateField.render, hdate]
  | hour => rw [DateField.render, DateField.render, hour, hour, hclock]
  | minute => rw [DateField.render, DateField.render, minute, minute, hclock]
  | second =>
    rw [DateField.render, DateField.render, second, second, hclock, milli, milli,
      Instant.subsecMillis, Instant.subsecMillis, hnanos]

/-- What a pattern shows depends on the seconds counted and on the fraction of the second alone. -/
theorem render_congr (hseconds : a.seconds = b.seconds)
    (hnanos : a.instant.nanos = b.instant.nanos) (pattern : List Char) :
    DatePattern.render a pattern = DatePattern.render b pattern := by
  have hrun (run : List Char) : DatePattern.renderRun a run = DatePattern.renderRun b run := by
    rw [DatePattern.renderRun, DatePattern.renderRun]
    split
    · exact renderField_congr hseconds hnanos _ _
    · rfl
  rw [DatePattern.render, DatePattern.render, funext hrun]

end LocalTime

namespace Moment

/-- A zero is a duration or an instant at the start of 1970. -/
theorem ofNumber?_zero {x : Double} (h : x.isZero = true) (asked isTime : Bool) :
    elapsedInstant? x = some ⟨0, 0⟩ ∧ ofNumber? asked isTime x =
      some (if asked || !isTime then .elapsed x else .instant ⟨0, 0⟩) := by
  have hzero : x = Double.zero false ∨ x = Double.zero true := by
    cases x with
    | nan => cases h
    | infinity negative => cases h
    | finite negative units hrepr =>
      obtain rfl : units = 0 := beq_iff_eq.mp h
      cases negative with
      | false => exact .inl rfl
      | true => exact .inr rfl
  rcases hzero with rfl | rfl <;> cases asked <;> cases isTime <;> decide +kernel

end Moment

end LiveText
