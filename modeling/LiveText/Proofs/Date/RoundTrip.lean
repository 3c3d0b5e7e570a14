import Mathlib
import LiveText.Date.Display
import LiveText.Proofs.Date.Instants
import LiveText.Proofs.Date.Texts
import LiveText.Proofs.Number.Reading

/-!
# Shown times are read back

The pattern `YYYY-MM-DD hh:mm:ss` shows a time as the text of its date and its clock
(`render_seconds`), and this text is read as a date, never as a number (`number?_stamp`). So in
every zone of a fixed offset showing and reading dates are inverse: `shown_dates_read_back`.
-/

namespace LiveText

open Text

namespace Numeral

/-- Digits in front of a dash are scanned as a whole number. -/
theorem scan_dash {c : Char} {cs : List Char} (h : ∀ d ∈ c :: cs, d.isDigit = true)
    (rest : List Char) :
    scan (c :: cs ++ '-' :: rest) = some (⟨false, c :: cs, [], 0⟩, '-' :: rest) :=
  scan_append .absent (.whole (List.cons_ne_nil _ _) h) (notBegins_cons.mpr (by decide))

/-- Digits in front of a dash are not the whole of a number. -/
private theorem readTrimmed_dash {a b : Char} {cs : List Char}
    (h : ∀ c ∈ a :: b :: cs, c.isDigit = true)
    (rest : List Char) : readTrimmed (a :: b :: cs ++ '-' :: rest) = .nan := by
  have ha := h a (by simp)
  have hb := h b (by simp)
  have hsign : scanSign (a :: b :: cs ++ '-' :: rest) = (false, a :: b :: cs ++ '-' :: rest) :=
    scanSign_append .absent (notBegins_cons.mpr (isSignChar_of_isDigit ha))
  have hhex (mark : Char) (behind : List Char) (hmark : mark = 'x' ∨ mark = 'X') :
      a :: b :: cs ++ '-' :: rest ≠ '0' :: mark :: behind := by
    intro heq
    refine Digits.ne_of_isDigit hb ?_ (List.cons.inj (List.cons.inj heq).2).1
    rcases hmark with rfl | rfl <;> decide
  have hword : a :: b :: cs ++ '-' :: rest ≠ infinityWord :=
    fun heq => Digits.ne_of_isDigit ha (by decide) (List.cons.inj heq).1
  have hne : a :: b :: cs ++ '-' :: rest ≠ [] := List.cons_ne_nil _ _
  rw [readTrimmed_other hne hhex, hsign, if_neg hword, scan_dash h]

end Numeral

namespace DateText

/-! ## Texts of times are dates -/

/-- Nothing is trimmed off the text of a time that ends in a digit. -/
theorem trim_stamp (d : CivilDate) (c : Clock) {ending init : List Char} {last : Char}
    (hend : Digits.padded 2 c.second ++ ending = init ++ [last]) (hlast : last.isDigit = true) :
    trim (stamp d c ending) = stamp d c ending := by
  obtain ⟨first, digits, hfirst, hdigit⟩ := Digits.exists_padded_eq_cons 4 d.year.toNat
  have hstamp : stamp d c ending = first :: (digits ++ '-' :: (Digits.padded 2 d.month ++ '-' ::
      (Digits.padded 2 d.day ++ ' ' :: (Digits.padded 2 c.hour ++ ':' ::
        (Digits.padded 2 c.minute ++ ':' :: init)))) ++ [last]) := by
    rw [stamp, Clock.chars, hend, hfirst]
    simp
  rw [hstamp]
  exact trim_of_ends (isBlank_of_isDigit hdigit) (isBlank_of_isDigit hlast)

private theorem inRange_day {d : CivilDate} (h : IsStamped d) {seconds : Int}
    (hlow : -86400 < seconds) (hhigh : seconds < 2 * 86400) :
    Instant.inRange (d.dayNumber * Instant.secondsPerDay + seconds) = true := by
  obtain ⟨hday, hdayEnd⟩ := CivilDate.dayNumber_bounds h.isValid h.year_nonneg h.year_le
  rw [Instant.inRange_iff, Instant.firstSecond, Instant.lastSecond, Instant.secondsPerDay]
  omega

theorem Clock.seconds_lt (c : Clock) : c.seconds < 86400 := by
  have hhour := c.hour_lt
  have hminute := c.minute_lt
  have hsecond := c.second_lt
  rw [seconds]
  omega

/-- The text of a time is read as that time in the zone. -/
theorem read_stamp (o : Offset) {d : CivilDate} (h : IsStamped d) (c : Clock) {ending : List Char}
    {nanos : Nat} (htrim : trim (stamp d c ending) = stamp d c ending)
    (hending : optionalFraction ending = some (nanos, [])) :
    read (.fixed o) (stamp d c ending) =
      some ⟨d.dayNumber * Instant.secondsPerDay + c.seconds - o.seconds, nanos⟩ := by
  have hoffset := o.small
  have hseconds := c.seconds_lt
  have hhere : Instant.inRange (d.dayNumber * Instant.secondsPerDay + c.seconds) = true :=
    inRange_day h (by omega) (by omega)
  have hthere : Instant.inRange (d.dayNumber * Instant.secondsPerDay + c.seconds - o.seconds) =
      true := by
    rw [Int.add_sub_assoc]
    exact inRange_day h (by omega) (by omega)
  have hboth := Bool.and_eq_true_iff.mpr ⟨hhere, hthere⟩
  rw [read, htrim, readInterchange_stamp h c hending, readWall_stamp h c hending]
  exact if_pos hboth

/-- The text of a time is no number. -/
theorem number?_stamp {d : CivilDate} (h : IsStamped d) (c : Clock) {ending : List Char}
    (htrim : trim (stamp d c ending) = stamp d c ending) :
    Moment.number? (.string (String.ofList (stamp d c ending))) = none := by
  have hyear : (Digits.padded 4 d.year.toNat).length = 4 := by
    have hle := h.year_le
    exact Digits.length_padded (by decide) (by omega)
  obtain ⟨a, cs, hfirst⟩ := List.exists_cons_of_length_pos (hyear ▸ (by decide : 0 < 4))
  obtain ⟨b, cs, rfl⟩ := List.exists_cons_of_length_pos (l := cs) (by
    rw [hfirst, List.length_cons] at hyear
    omega)
  have hread : Numeral.readWhole (stamp d c ending) = .nan := by
    rw [Numeral.readWhole, htrim, stamp, hfirst]
    exact Numeral.readTrimmed_dash (fun c hc => Digits.isDigit_of_mem_padded (hfirst ▸ hc)) _
  simp [Moment.number?, hread, Double.isNaN]

/-! ## Shown times -/

private theorem hour_lt_24 (t : LocalTime) : t.hour < 24 := by
  rw [LocalTime.hour, LocalTime.secondOfDay, Instant.secondsPerDay]
  omega

namespace Clock

/-- The clock of a time seen in a zone. -/
def ofTime (t : LocalTime) : Clock where
  hour := t.hour
  minute := t.minute
  second := t.second
  hour_lt := hour_lt_24 t
  minute_lt := Nat.mod_lt _ (by decide)
  second_lt := Nat.mod_lt _ (by decide)

private theorem seconds_ofTime (t : LocalTime) : (ofTime t).seconds = t.secondOfDay := by
  change t.secondOfDay / 3600 * 3600 + t.secondOfDay / 60 % 60 * 60 + t.secondOfDay % 60 = _
  omega

/-- A clock is told by its seconds. -/
private theorem eq_of_seconds {c e : Clock} (h : c.seconds = e.seconds) : c = e := by
  obtain ⟨hour, minute, second, hhour, hminute, hsecond⟩ := c
  obtain ⟨hour', minute', second', hhour', hminute', hsecond'⟩ := e
  rw [seconds, seconds] at h
  rw [mk.injEq]
  dsimp only at h
  omega

end Clock

/-- The seconds of a time seen in a zone are those of its date and its clock. -/
private theorem seconds_eq (t : LocalTime) :
    t.date.dayNumber * Instant.secondsPerDay + (Clock.ofTime t).seconds = t.seconds := by
  rw [LocalTime.date, CivilDate.dayNumber_ofDayNumber, Clock.seconds_ofTime, LocalTime.dayNumber,
    LocalTime.secondOfDay, Instant.secondsPerDay]
  omega

/-- A date and a clock are seen at their seconds. -/
private theorem seen_of_seconds {d : CivilDate} (h : d.isValid = true) (c : Clock) {t : LocalTime}
    (ht : t.seconds = d.dayNumber * Instant.secondsPerDay + c.seconds) :
    t.date = d ∧ Clock.ofTime t = c := by
  have hlt := c.seconds_lt
  have hday : t.dayNumber = d.dayNumber := by
    rw [LocalTime.dayNumber, ht, Instant.secondsPerDay]
    omega
  constructor
  · rw [LocalTime.date, hday, CivilDate.ofDayNumber_dayNumber h]
  · apply Clock.eq_of_seconds
    rw [Clock.seconds_ofTime, LocalTime.secondOfDay, ht, Instant.secondsPerDay]
    omega

private theorem long_year {year : Int} (h : 0 ≤ year) :
    Year.long year = Digits.padded 4 year.toNat := by
  have hsize : year.natAbs = year.toNat := by omega
  rw [Year.long, if_neg (Int.not_lt.mpr h), hsize]

/-- The runs of a pattern down to the second. -/
def secondsRuns : List (List Char) :=
  ["YYYY".toList, ['-'], ['M', 'M'], ['-'], ['D', 'D'], [' '], ['h', 'h'], [':'], ['m', 'm'], [':'],
    ['s', 's']]

/-- The text of a date and its clock is shown in front of what further runs show. -/
theorem flatMap_renderRun {t : LocalTime} (h : 0 ≤ t.date.year) (runs : List (List Char)) :
    (secondsRuns ++ runs).flatMap (DatePattern.renderRun t) =
      stamp t.date (Clock.ofTime t) (runs.flatMap (DatePattern.renderRun t)) := by
  change Year.long t.date.year ++ '-' :: (Digits.padded 2 t.date.month ++ '-' ::
    (Digits.padded 2 t.date.day ++ ' ' :: (Digits.padded 2 t.hour ++ ':' ::
      (Digits.padded 2 t.minute ++ ':' :: (Digits.padded 2 t.second ++ _))))) = _
  rw [long_year h]
  rfl

/-- A time is shown to the second as the text of its date and its clock. -/
theorem render_seconds {t : LocalTime} (h : 0 ≤ t.date.year) :
    DatePattern.render t "YYYY-MM-DD hh:mm:ss".toList = stamp t.date (Clock.ofTime t) [] := by
  have hruns : "YYYY-MM-DD hh:mm:ss".toList.splitBy (· == ·) = secondsRuns ++ [] := by decide
  rw [DatePattern.render, hruns, flatMap_renderRun h, List.flatMap_nil]

/-- A time is shown to the millisecond with a point and the milliseconds behind the seconds. -/
theorem render_millis {t : LocalTime} (h : 0 ≤ t.date.year) :
    DatePattern.render t "YYYY-MM-DD hh:mm:ss.sss".toList =
      stamp t.date (Clock.ofTime t) ('.' :: Digits.padded 3 t.milli) := by
  have hruns : "YYYY-MM-DD hh:mm:ss.sss".toList.splitBy (· == ·) =
      secondsRuns ++ [['.'], ['s', 's', 's']] := by decide
  have hending : [['.'], ['s', 's', 's']].flatMap (DatePattern.renderRun t) =
      '.' :: Digits.padded 3 t.milli := by
    rw [List.flatMap_cons, List.flatMap_singleton]
    rfl
  rw [DatePattern.render, hruns, flatMap_renderRun h, hending]

/-! ## The round trips -/

/-- The date of a time seen in a zone has a text if its year has four places. -/
private theorem isStamped_date {t : LocalTime} (h : 0 ≤ t.date.year) (hend : t.date.year ≤ 9999) :
    IsStamped t.date :=
  ⟨CivilDate.isValid_ofDayNumber _, h, hend⟩

/-- The text of a time is the instant at which a clock in the zone shows that time. -/
theorem ofValue?_stamp (o : Offset) {d : CivilDate} (h : IsStamped d) (c : Clock) (isTime : Bool) :
    Moment.ofValue? (.fixed o) false isTime (.string (String.ofList (stamp d c []))) =
      some (.instant ⟨d.dayNumber * Instant.secondsPerDay + c.seconds - o.seconds, 0⟩) := by
  have htrim : trim (stamp d c []) = stamp d c [] := by
    obtain ⟨init, last, hlast, hdigit⟩ := Digits.exists_padded_eq_append_singleton 2 c.second
    exact trim_stamp d c ((List.append_nil _).trans hlast) hdigit
  have hnumber := number?_stamp h c htrim
  have htruthy : (Value.string (String.ofList (stamp d c []))).truthy = true := by
    obtain ⟨first, digits, hfirst, -⟩ := Digits.exists_padded_eq_cons 4 d.year.toNat
    simp [Value.truthy, stamp, hfirst]
  simp only [Moment.ofValue?, htruthy, hnumber, Bool.not_true, Bool.false_eq_true, if_false,
    String.toList_ofList, read_stamp o h c htrim rfl, Option.map_some]

/-- The text of a time to the second is shown as it stands. -/
theorem display_stamp (o : Offset) {d : CivilDate} (h : IsStamped d) (c : Clock) (isTime : Bool)
    (default : String) :
    DatePattern.display (.fixed o) (.string (String.ofList (stamp d c []))) "YYYY-MM-DD hh:mm:ss"
      isTime default = String.ofList (stamp d c []) := by
  have hargument : DatePattern.readArgument "YYYY-MM-DD hh:mm:ss".toList =
      (false, "YYYY-MM-DD hh:mm:ss".toList) := by decide
  have hpattern : DatePattern.patternOf "YYYY-MM-DD hh:mm:ss".toList default.toList =
      "YYYY-MM-DD hh:mm:ss".toList := by
    rw [DatePattern.patternOf, hargument]
    rfl
  generalize ht : (Zone.fixed o).localize
    ⟨d.dayNumber * Instant.secondsPerDay + c.seconds - o.seconds, 0⟩ = t
  have hseconds : t.seconds = d.dayNumber * Instant.secondsPerDay + c.seconds := by
    rw [← ht]
    exact Int.sub_add_cancel ..
  obtain ⟨hdate, hclock⟩ := seen_of_seconds h.isValid c hseconds
  have hshown : DatePattern.render t "YYYY-MM-DD hh:mm:ss".toList = stamp d c [] := by
    rw [render_seconds (hdate ▸ h.year_nonneg), hdate, hclock]
  have hvalue : Moment.ofValue? (.fixed o)
      (DatePattern.readArgument "YYYY-MM-DD hh:mm:ss".toList).1 isTime
      (.string (String.ofList (stamp d c []))) =
        some (.instant ⟨d.dayNumber * Instant.secondsPerDay + c.seconds - o.seconds, 0⟩) := by
    rw [hargument, ofValue?_stamp o h c isTime]
  rw [DatePattern.display, DatePattern.shown_of_instant hvalue, hpattern, ht, hshown]
  rfl

/-- An instant shown to the millisecond is read back to the millisecond, a leap second as the second
before it. -/
theorem read_render (o : Offset) (i : Instant) (h : 0 ≤ ((Zone.fixed o).localize i).date.year)
    (hend : ((Zone.fixed o).localize i).date.year ≤ 9999) :
    read (.fixed o)
        (DatePattern.render ((Zone.fixed o).localize i) "YYYY-MM-DD hh:mm:ss.sss".toList) =
      some ⟨i.seconds, ((Zone.fixed o).localize i).milli * 1000000⟩ := by
  generalize ht : (Zone.fixed o).localize i = t at h hend ⊢
  have hseconds : t.seconds = i.seconds + o.seconds := by
    rw [← ht]
    rfl
  have hmilli : t.milli < 1000 := Nat.mod_lt _ (by decide)
  have htrim : trim (stamp t.date (Clock.ofTime t) ('.' :: Digits.padded 3 t.milli)) =
      stamp t.date (Clock.ofTime t) ('.' :: Digits.padded 3 t.milli) := by
    obtain ⟨init, last, hlast, hdigit⟩ := Digits.exists_padded_eq_append_singleton 3 t.milli
    apply trim_stamp _ _ _ hdigit
    · exact Digits.padded 2 (Clock.ofTime t).second ++ '.' :: init
    · rw [hlast, List.append_assoc, List.cons_append]
  rw [render_millis h,
    read_stamp o (isStamped_date h hend) _ htrim (optionalFraction_millis hmilli), seconds_eq,
    hseconds, Int.add_sub_cancel]

/-- In every zone of a fixed offset a date text is shown as it stands, and an instant of whole
milliseconds that is shown to the millisecond is read back, as long as years have four places. -/
theorem shown_dates_read_back (o : Offset) :
    (∀ (d : CivilDate) (c : Clock) (isTime : Bool) (default : String), IsStamped d →
      DatePattern.display (.fixed o) (.string (String.ofList (stamp d c []))) "YYYY-MM-DD hh:mm:ss"
        isTime default = String.ofList (stamp d c [])) ∧
    (∀ (ms : Int) (i : Instant), Instant.ofMillis? ms = some i →
      0 ≤ ((Zone.fixed o).localize i).date.year → ((Zone.fixed o).localize i).date.year ≤ 9999 →
      read (.fixed o)
        (DatePattern.render ((Zone.fixed o).localize i) "YYYY-MM-DD hh:mm:ss.sss".toList) =
          some i) := by
  constructor
  · exact fun d c isTime default h => display_stamp o h c isTime default
  · intro ms i hi h hend
    have hnanos : i.nanos = (ms % 1000).toNat * 1000000 := by
      rw [(Instant.ofMillis?_eq_some_iff.mp hi).2]
    have hmilli : ((Zone.fixed o).localize i).milli * 1000000 = i.nanos := by
      change i.nanos / 1000000 % 1000 * 1000000 = i.nanos
      rw [hnanos]
      omega
    rw [read_render o i h hend, hmilli]

/-- A leap day, and the last millisecond of 1969 in universal time, in a zone half past five hours
to the east. -/
theorem shown_dates_read_back_east :
    DatePattern.display (.fixed ⟨19800, by decide⟩) (.string "2024-02-29 23:59:58")
      "YYYY-MM-DD hh:mm:ss" false "DD.MM.YYYY" = "2024-02-29 23:59:58" ∧
    read (.fixed ⟨19800, by decide⟩)
      (DatePattern.render ((Zone.fixed ⟨19800, by decide⟩).localize ⟨-1, 999000000⟩)
        "YYYY-MM-DD hh:mm:ss.sss".toList) = some ⟨-1, 999000000⟩ := by
  have hboth := shown_dates_read_back ⟨19800, by decide⟩
  have htext : String.ofList (stamp ⟨2024, 2, 29⟩
      ⟨23, 59, 58, by decide, by decide, by decide⟩ []) = "2024-02-29 23:59:58" := by
    cbv
  constructor
  · rw [← htext]
    exact hboth.1 _ _ _ _ ⟨by decide, by decide, by decide⟩
  · exact hboth.2 (-1) _ (by decide) (by decide) (by decide)

end DateText

end LiveText
