import LiveText.Engine.Session
import LiveText.Proofs.Date.Labels
import LiveText.Proofs.Engine.Filling
import LiveText.Proofs.Text.Trim

/-!
# Words for recent dates

The word for a recent date takes the place of the first run of two or more `d` in a pattern,
wherever it stands. Where that run stands outside brackets, it is the first weekday of the pattern
(`cutWeekday?_of_cutRun?`); where it stands in a literal, the literal is broken up. So the word
takes the place of the weekday, and of nothing else, exactly if the first run is no part of a
literal and the closing brackets of the word stand at its end: `momentDate_dayWord_iff`.
-/

namespace LiveText

open Text PatternPiece

namespace Calendar

variable {p q front back : List Char}

/-! ## Runs and weekdays -/

/-- A text cut at its first run of two or more `d`: what stands in front of the run, and behind it.
-/
def cutRun? : List Char → Option (List Char × List Char)
  | [] => none
  | d :: rest =>
    if d = 'd' ∧ rest.head? = some 'd' then some ([], rest.dropWhile (· = 'd'))
    else (cutRun? rest).map fun (front, back) => (d :: front, back)

/-- A closed pattern cut at its first run of two or more `d` outside brackets. A literal may begin
in front of the pattern. -/
def cutWeekday? : Bool → List Char → Option (List Char × List Char)
  | _, [] => none
  | inside, d :: rest =>
    if inside then (cutWeekday? (d ≠ ']') rest).map fun (front, back) => (d :: front, back)
    else if d = 'd' ∧ rest.head? = some 'd' then some ([], rest.dropWhile (· = 'd'))
    else (cutWeekday? (d = '[') rest).map fun (front, back) => (d :: front, back)

/-- What a calendar shows of a pattern with a word in place of the first weekday, and nothing else
changed. -/
def charsWithWord (c : Calendar) (t : Instant) (word pattern : List Char) : List Char :=
  match cutWeekday? false pattern with
  | some (front, back) => c.chars t front ++ word ++ c.chars t back
  | none => c.chars t pattern

theorem cutRun?_cons_eq_some_iff {d : Char} :
    cutRun? (d :: p) = some (front, back) ↔
      (d = 'd' ∧ p.head? = some 'd') ∧ front = [] ∧ back = p.dropWhile (· = 'd') ∨
      ¬ (d = 'd' ∧ p.head? = some 'd') ∧ ∃ front', cutRun? p = some (front', back) ∧
        front = d :: front' := by
  rw [cutRun?]
  split
  case isTrue hrun => simp [hrun, eq_comm]
  case isFalse hrun => simp [hrun, eq_comm, and_comm]

theorem cutRun?_cons_eq_none_iff {d : Char} :
    cutRun? (d :: p) = none ↔ ¬ (d = 'd' ∧ p.head? = some 'd') ∧ cutRun? p = none := by
  rw [cutRun?]
  split
  case isTrue hrun => simp [hrun]
  case isFalse hrun => simp [hrun]

/-- The first run is what a literal text takes the place of. -/
theorem replaceWeekday_eq (literal p : List Char) : Pipeline.replaceWeekday literal p =
    match cutRun? p with
    | some (front, back) => front ++ literal ++ back
    | none => p := by
  fun_induction Pipeline.replaceWeekday literal p with
  | case1 rest => simp [cutRun?]
  | case2 d rest hrun ih =>
    have hnot : ¬ (d = 'd' ∧ rest.head? = some 'd') := by
      rintro ⟨hd, hhead⟩
      obtain ⟨rest', hrest⟩ := List.head?_eq_some_iff.mp hhead
      exact hrun rest' hd hrest
    rw [cutRun?, if_neg hnot, ih]
    cases cutRun? rest <;> rfl
  | case3 => rfl

/-- A text is what stands in front of its first run, the run, and what stands behind it. -/
private theorem eq_of_cutRun? (h : cutRun? p = some (front, back)) :
    ∃ run, p = front ++ 'd' :: (run ++ back) ∧ ∀ d ∈ run, d = 'd' := by
  induction p generalizing front with
  | nil => cases h
  | cons d p ih =>
    rcases cutRun?_cons_eq_some_iff.mp h with ⟨⟨rfl, -⟩, rfl, rfl⟩ | ⟨-, front', hp, rfl⟩
    · refine ⟨p.takeWhile (· = 'd'), by simp, fun d hd => ?_⟩
      have hall := List.all_eq_true.mp List.all_takeWhile d hd
      exact of_decide_eq_true hall
    · obtain ⟨run, rfl, hrun⟩ := ih hp
      exact ⟨run, rfl, hrun⟩

/-- In front of the first run there is none. -/
private theorem cutRun?_front (h : cutRun? (p ++ q) = some (p ++ front, back)) :
    cutRun? p = none := by
  induction p with
  | nil => rfl
  | cons d p ih =>
    rw [List.cons_append, List.cons_append] at h
    rcases cutRun?_cons_eq_some_iff.mp h with ⟨-, hnil, -⟩ | ⟨hrun, front', hp, hfront⟩
    · cases hnil
    · obtain rfl : p ++ front = front' := (List.cons.inj hfront).2
      refine cutRun?_cons_eq_none_iff.mpr ⟨fun ⟨hd, hhead⟩ => hrun ⟨hd, ?_⟩, ih hp⟩
      rw [List.head?_append, hhead]
      rfl

/-- Without a run there is no weekday. -/
private theorem cutWeekday?_of_none (inside : Bool) (h : cutRun? p = none) :
    cutWeekday? inside p = none := by
  induction p generalizing inside with
  | nil => rfl
  | cons d p ih =>
    obtain ⟨hrun, hp⟩ := cutRun?_cons_eq_none_iff.mp h
    rw [cutWeekday?, if_neg hrun, ih _ hp, ih _ hp]
    simp

/-- A first run that stands outside brackets is the first weekday. -/
theorem cutWeekday?_of_cutRun? {inside : Bool} (h : cutRun? p = some (front, back))
    (hfront : ClosesAll front) (hinside : inside = true → ']' ∈ front) :
    cutWeekday? inside p = some (front, back) := by
  induction p generalizing front inside with
  | nil => cases h
  | cons d p ih =>
    rcases cutRun?_cons_eq_some_iff.mp h with ⟨hrun, rfl, rfl⟩ | ⟨hrun, front', hp, rfl⟩
    · cases inside with
      | false => rw [cutWeekday?, if_neg Bool.false_ne_true, if_pos hrun]
      | true => exact absurd (hinside rfl) (by simp)
    · cases inside with
      | false =>
        have hrest := ih hp hfront.2 fun hopen => hfront.1 (of_decide_eq_true hopen)
        rw [cutWeekday?, if_neg Bool.false_ne_true, if_neg hrun, hrest]
        rfl
      | true =>
        have hclose : decide (d ≠ ']') = true → ']' ∈ front' := fun hne =>
          (List.mem_cons.mp (hinside rfl)).resolve_left fun h => of_decide_eq_true hne h.symm
        rw [cutWeekday?, if_pos rfl, ih hp hfront.2 hclose]
        rfl

/-- What stands in a literal is no weekday. -/
private theorem cutWeekday?_inside {inner : List Char} (h : ']' ∉ inner) (q : List Char) :
    cutWeekday? true (inner ++ ']' :: q) =
      (cutWeekday? false q).map fun (front, back) => (inner ++ ']' :: front, back) := by
  induction inner with
  | nil => rfl
  | cons d inner ih =>
    obtain ⟨hd, hinner⟩ := not_or.mp (List.mem_cons.not.mp h)
    have hne : decide (d ≠ ']') = true := decide_eq_true fun h => hd h.symm
    rw [List.cons_append, cutWeekday?, if_pos rfl, hne, ih hinner, Option.map_map]
    rfl

/-- In front of a literal, a closed pattern without a run has no weekday. -/
private theorem cutWeekday?_append_open {inside : Bool} (hp : ClosesAll p)
    (hinside : inside = true → ']' ∈ p) (hrun : cutRun? p = none) (q : List Char) :
    cutWeekday? inside (p ++ '[' :: q) =
      (cutWeekday? true q).map fun (front, back) => (p ++ '[' :: front, back) := by
  induction p generalizing inside with
  | nil =>
    cases inside with
    | false => rfl
    | true => exact absurd (hinside rfl) (by simp)
  | cons d p ih =>
    obtain ⟨hnot, hnone⟩ := cutRun?_cons_eq_none_iff.mp hrun
    have hhead : ¬ (d = 'd' ∧ (p ++ '[' :: q).head? = some 'd') := by
      rintro ⟨hd, hhead⟩
      cases p with
      | nil => simp at hhead
      | cons e p => exact hnot ⟨hd, hhead⟩
    cases inside with
    | false =>
      have hrest := ih hp.2 (fun hopen => hp.1 (of_decide_eq_true hopen)) hnone
      rw [List.cons_append, cutWeekday?, if_neg Bool.false_ne_true, if_neg hhead, hrest,
        Option.map_map]
      rfl
    | true =>
      have hclose : decide (d ≠ ']') = true → ']' ∈ p := fun hne =>
        (List.mem_cons.mp (hinside rfl)).resolve_left fun h => of_decide_eq_true hne h.symm
      rw [List.cons_append, cutWeekday?, if_pos rfl, ih hp.2 hclose hnone, Option.map_map]
      rfl

/-- A first run that stands in a literal: no run stands in front of the literal, and what is in
front of the run and behind it belongs to the literal in part. -/
private theorem exists_literal_of_cutRun? (hp : ClosesAll p) (hrun : cutRun? p = some (front, back))
    (hfront : ¬ ClosesAll front) :
    ∃ before inner letters ending rest, front = before ++ '[' :: inner ∧
      back = ending ++ ']' :: rest ∧
      p = before ++ '[' :: (inner ++ 'd' :: (letters ++ ending) ++ ']' :: rest) ∧
      ClosesAll before ∧ cutRun? before = none ∧ ']' ∉ inner ++ 'd' :: (letters ++ ending) := by
  obtain ⟨before, inner, rfl, hbefore, hinner⟩ := exists_open hfront
  obtain ⟨letters, rfl, hletters⟩ := eq_of_cutRun? hrun
  have hnone : cutRun? before = none := by
    rw [List.append_assoc] at hrun
    exact cutRun?_front hrun
  have hlettersClose : ']' ∉ letters := fun h => absurd (hletters _ h) (by decide)
  have hclosed : ClosesAll ('[' :: (inner ++ 'd' :: (letters ++ back))) :=
    hp.suffix ⟨before, by simp⟩
  have hback : ']' ∈ back := by
    have hmem := hclosed.1 rfl
    simpa [hinner, hlettersClose] using hmem
  obtain ⟨ending, rest, rfl, hending⟩ := List.eq_append_cons_of_mem hback
  exact ⟨before, inner, letters, ending, rest, rfl, rfl, by simp, hbefore, hnone,
    by simp [hinner, hlettersClose, hending]⟩

/-! ## What is shown -/

variable (c : Calendar) (t : Instant)

/-- A pattern that goes on with a literal is shown apart from it. -/
private theorem chars_append_open (hp : ClosesAll p) (hq : ']' ∈ q) :
    c.chars t (p ++ '[' :: q) = c.chars t p ++ c.chars t ('[' :: q) := by
  obtain ⟨inner, rest, rfl, hinner⟩ := List.eq_append_cons_of_mem hq
  rw [chars_append_literal c t hp hinner, chars_literal c t hinner]

/-- A literal is shown as it is in front of the first weekday. -/
private theorem charsWithWord_literal {inner : List Char} (hp : ClosesAll p)
    (hrun : cutRun? p = none) (hinner : ']' ∉ inner) (word q : List Char) :
    c.charsWithWord t word (p ++ '[' :: (inner ++ ']' :: q)) =
      c.chars t p ++ (inner ++ c.charsWithWord t word q) := by
  have hcut : cutWeekday? false (p ++ '[' :: (inner ++ ']' :: q)) =
      (cutWeekday? false q).map fun (front, back) =>
        (p ++ '[' :: (inner ++ ']' :: front), back) := by
    rw [cutWeekday?_append_open hp (fun h => absurd h Bool.false_ne_true) hrun,
      cutWeekday?_inside hinner, Option.map_map]
    rfl
  rw [charsWithWord, charsWithWord, hcut]
  cases cutWeekday? false q with
  | none => exact chars_append_literal c t hp hinner q
  | some cut => simp [chars_append_literal c t hp hinner]

/-- Where the first run stands in a literal, what is shown goes on with the bracket that the word
brings, and should go on with the run. -/
private theorem chars_replaced_ne {word : List Char} (hp : ClosesAll p)
    (hrun : cutRun? p = some (front, back)) (hfront : ¬ ClosesAll front) :
    c.chars t (front ++ '[' :: (word ++ ']' :: back)) ≠ c.charsWithWord t word p := by
  obtain ⟨before, inner, letters, ending, rest, rfl, rfl, rfl, hbefore, hnone, hliteral⟩ :=
    exists_literal_of_cutRun? hp hrun hfront
  have hinner : ']' ∉ inner := fun h => hliteral (List.mem_append_left _ h)
  -- the literal that is shown ends at the first closing bracket behind the word
  have hclose : ']' ∈ word ++ ']' :: (ending ++ ']' :: rest) := by simp
  obtain ⟨shown, behind, hword, hshown⟩ := List.eq_append_cons_of_mem hclose
  have hbroken : ']' ∉ inner ++ '[' :: shown := by simp [hinner, hshown]
  have hreplaced : before ++ '[' :: inner ++ '[' :: (word ++ ']' :: (ending ++ ']' :: rest)) =
      before ++ '[' :: (inner ++ '[' :: shown ++ ']' :: behind) := by
    rw [hword]
    simp
  intro h
  rw [hreplaced, chars_append_literal c t hbefore hbroken,
    charsWithWord_literal c t hbefore hnone hliteral] at h
  simp at h

/-- With a word in brackets in place of its first run, a pattern is shown with the word in place of
its first weekday exactly if the run stands in no literal and the closing brackets of the word stand
at its end. -/
theorem chars_replaceWeekday_iff (hp : ClosesAll p) (word : List Char) :
    c.chars t (Pipeline.replaceWeekday ('[' :: (word ++ [']'])) p) = c.charsWithWord t word p ↔
      ∀ front back, cutRun? p = some (front, back) → ClosesAll front ∧ ClosesAtEnd word := by
  rw [replaceWeekday_eq]
  cases hrun : cutRun? p with
  | none =>
    rw [charsWithWord, cutWeekday?_of_none false hrun]
    simp
  | some cut =>
    obtain ⟨front, back⟩ := cut
    have hliteral : front ++ '[' :: (word ++ [']']) ++ back =
        front ++ '[' :: (word ++ ']' :: back) := by
      simp
    dsimp only
    rw [hliteral]
    by_cases hfront : ClosesAll front
    · have hweekday : cutWeekday? false p = some (front, back) :=
        cutWeekday?_of_cutRun? hrun hfront fun h => absurd h Bool.false_ne_true
      rw [charsWithWord, hweekday, chars_append_open c t hfront (by simp)]
      dsimp only
      rw [List.append_assoc, List.append_cancel_left_eq, chars_label_iff]
      simp [hfront]
    · simp [chars_replaced_ne c t hp hrun hfront, hfront]

/-! ## Counting days -/

/-- The days from the date of an instant to the present date, in range or not. -/
def daysBack : Int := (c.zone.localize c.now).dayNumber - (c.zone.localize t).dayNumber

/-- Whether both the present date and that of an instant lie in the range of instants. -/
def CountsDays : Prop :=
  Instant.inRange (c.zone.localize c.now).seconds = true ∧
    Instant.inRange (c.zone.localize t).seconds = true

private theorem daysBeforeToday_of_countsDays {c : Calendar} {t : Instant} (h : c.CountsDays t) :
    c.daysBeforeToday t = .ok (c.daysBack t) := by
  rw [daysBeforeToday, LocalTime.dayInRange, LocalTime.dayInRange, if_pos h.1, if_pos h.2]
  rfl

/-- Counting days breaks off where a date is out of range. -/
theorem exists_error_of_not_countsDays {c : Calendar} {t : Instant} (h : ¬ c.CountsDays t) :
    ∃ e, c.daysBeforeToday t = .error e := by
  rw [daysBeforeToday, LocalTime.dayInRange, LocalTime.dayInRange]
  by_cases hnow : Instant.inRange (c.zone.localize c.now).seconds = true
  · have ht : ¬ Instant.inRange (c.zone.localize t).seconds = true := fun ht => h ⟨hnow, ht⟩
    rw [if_pos hnow, if_neg ht]
    exact ⟨_, rfl⟩
  · rw [if_neg hnow]
    exact ⟨_, rfl⟩

end Calendar

namespace Pipeline

open Calendar

variable {e : Engine} {c : Calendar} {t : Instant} {word : String}

/-! ## The operation -/

/-- The pattern of an argument, or else that of the settings. -/
def patternOf (e : Engine) (pattern : List Char) : List Char :=
  if (trim pattern).isEmpty then e.settings.dateFormat.toList else trim pattern

private theorem calendarText_plain (e : Engine) (c : Calendar) (t : Instant) (pattern : List Char) :
    calendarText e c t pattern false = .ok (c.chars t (patternOf e pattern)) := rfl

/-- With a word for a recent date, the text of an instant is that of the pattern with the word in
place of its first run, where days can be counted. -/
theorem calendarText_relative_iff (hword : dayWord? (c.daysBack t) = some word)
    {pattern text : List Char} : calendarText e c t pattern true = .ok text ↔
      c.CountsDays t ∧ c.chars t (replaceWeekday ('[' :: ((e.translate word).toList ++ [']']))
        (patternOf e pattern)) = text := by
  have htext : calendarText e c t pattern true =
      (withDayWord e c t (patternOf e pattern)).map (c.chars t) := rfl
  rw [htext, withDayWord]
  by_cases hdays : c.CountsDays t
  · rw [daysBeforeToday_of_countsDays hdays]
    simp [bind, Except.bind, pure, Except.pure, Except.map, hword, hdays]
  · obtain ⟨cause, hcause⟩ := exists_error_of_not_countsDays hdays
    rw [hcause]
    simp [bind, Except.bind, Except.map, hdays]

/-- A date has a text as its value exactly where showing it does not break off. -/
theorem dateText_eq_pure_iff {shown : Except OutOfRange (List Char)} {text : List Char} :
    dateText shown = pure (.string (String.ofList text)) ↔ shown = .ok text := by
  constructor
  · intro h
    have hvalue := congrArg (fun step : Traced Value => (step.run {}).1) h
    cases shown with
    | ok shown =>
      have hstring : Value.string (String.ofList shown) = .string (String.ofList text) := hvalue
      rw [String.ofList_inj.mp (Value.string.inj hstring)]
    | error cause =>
      have hundefined : Value.undefined = .string (String.ofList text) := hvalue
      cases hundefined
  · rintro rfl
    rfl

private theorem readCalendarArgument_plain {pattern : List Char} (h : ',' ∉ pattern) :
    readCalendarArgument pattern = some (pattern, false) := by
  rw [readCalendarArgument, List.splitOn_eq_singleton h]

private theorem readCalendarArgument_relative {pattern : List Char} (h : ',' ∉ pattern) :
    readCalendarArgument (pattern ++ ',' :: "true".toList) = some (pattern, true) := by
  have hparts : (pattern ++ ',' :: "true".toList).splitOn ',' = [pattern, "true".toList] := by
    have happend : (pattern ++ ',' :: "true".toList).splitOn ',' =
        pattern.splitOn ',' ++ "true".toList.splitOn ',' :=
      List.splitOnP_append_cons pattern "true".toList (beq_self_eq_true ',')
    rw [happend, List.splitOn_eq_singleton h]
    rfl
  have htrim : trim ['t', 'r', 'u', 'e'] = ['t', 'r', 'u', 'e'] := by decide
  rw [readCalendarArgument, hparts]
  simp [htrim]

variable {s : Setting} {v : Value} {pattern : String}

/-- A date of the calendar is shown in the pattern of its argument. -/
theorem momentDate_eq {arg : String} {relative : Bool} {chars : List Char}
    (hcalendar : (s.request.calendar <|> s.engine.calendar) = some c)
    (hinstant : instantOf? s.engine.zone v = some t)
    (harg : readCalendarArgument arg.toList = some (chars, relative)) :
    momentDate s arg v = dateText (calendarText s.engine c t chars relative) := by
  rw [momentDate, harg]
  simp only [hcalendar, hinstant]

/-- Without the flag, an instant is shown in the pattern as it is. With the flag, on the present day
or the day before, the word for that day takes the place of the first weekday, and nothing else is
changed, exactly if days can be counted, and the first run of two or more `d`, if there is one,
stands outside brackets and the closing brackets of the word stand at its end. -/
theorem momentDate_dayWord_iff
    (hcalendar : (s.request.calendar <|> s.engine.calendar) = some c)
    (hinstant : instantOf? s.engine.zone v = some t)
    (hword : dayWord? (c.daysBack t) = some word) (hcomma : ',' ∉ pattern.toList)
    (hclosed : ClosesAll (patternOf s.engine pattern.toList)) :
    momentDate s pattern v =
      pure (.string (String.ofList (c.chars t (patternOf s.engine pattern.toList)))) ∧
    (momentDate s (pattern ++ ",true") v =
        pure (.string (String.ofList (c.charsWithWord t (s.engine.translate word).toList
          (patternOf s.engine pattern.toList)))) ↔
      c.CountsDays t ∧ ∀ front back,
        cutRun? (patternOf s.engine pattern.toList) = some (front, back) →
          ClosesAll front ∧ ClosesAtEnd (s.engine.translate word).toList) := by
  have hrelative : readCalendarArgument (pattern ++ ",true").toList =
      some (pattern.toList, true) := by
    rw [String.toList_append]
    exact readCalendarArgument_relative hcomma
  constructor
  · rw [momentDate_eq hcalendar hinstant (readCalendarArgument_plain hcomma), calendarText_plain]
    rfl
  · rw [momentDate_eq hcalendar hinstant hrelative, dateText_eq_pure_iff,
      calendarText_relative_iff hword, chars_replaceWeekday_iff c t hclosed]

/-- A calendar at one o'clock on a Tuesday, an hour to the east. -/
def tuesday : Calendar := ⟨.english, .fixed ⟨3600, by decide⟩, ⟨1709640000, 0⟩⟩

/-- An engine with this calendar and a translation of its own. -/
def onTuesday (translate : String → String) : Engine :=
  { Engine.plain 50 with zone := tuesday.zone, calendar := some tuesday, translate }

/-- An instant of that morning, shown with a German word in place of the weekday, between two
literals and a composed form. -/
theorem momentDate_dayWord_german :
    let translate : String → String := fun word => if word = "Today" then "Heute" else word
    let s : Setting := ⟨onTuesday translate, {}, {}, false⟩
    let v : Value := .number (Double.ofInt 1709632800000)
    (s.request.calendar <|> s.engine.calendar) = some tuesday ∧
    instantOf? s.engine.zone v = some ⟨1709632800, 0⟩ ∧
    dayWord? (tuesday.daysBack ⟨1709632800, 0⟩) = some "Today" ∧
    ',' ∉ "[at] dddd LT [d]".toList ∧
    ClosesAll (patternOf s.engine "[at] dddd LT [d]".toList) ∧
    momentDate s "[at] dddd LT [d]" v = pure (.string "at Tuesday 11:00 AM d") ∧
    momentDate s ("[at] dddd LT [d]" ++ ",true") v = pure (.string "at Heute 11:00 AM d") := by
  intro translate s v
  have hinstant : instantOf? s.engine.zone v = some ⟨1709632800, 0⟩ := by decide +kernel
  have hword : dayWord? (tuesday.daysBack ⟨1709632800, 0⟩) = some "Today" := by decide
  have hclosed : ClosesAll (patternOf s.engine "[at] dddd LT [d]".toList) := by decide
  obtain ⟨hplain, hrelative⟩ := @momentDate_dayWord_iff tuesday ⟨1709632800, 0⟩ "Today" s v
    "[at] dddd LT [d]" rfl hinstant hword (by decide) hclosed
  have hcut : cutRun? (patternOf s.engine "[at] dddd LT [d]".toList) =
      some ("[at] ".toList, " LT [d]".toList) := by decide
  refine ⟨rfl, hinstant, hword, by decide, hclosed, ?_, ?_⟩
  · rw [hplain]
    have htext : tuesday.chars ⟨1709632800, 0⟩ (patternOf s.engine "[at] dddd LT [d]".toList) =
        "at Tuesday 11:00 AM d".toList := by decide +kernel
    rw [htext]
    rfl
  · have hdays : tuesday.CountsDays ⟨1709632800, 0⟩ := ⟨by decide, by decide⟩
    rw [hrelative.mpr ⟨hdays, fun front back h => ?_⟩]
    · have htext : tuesday.charsWithWord ⟨1709632800, 0⟩ (s.engine.translate "Today").toList
          (patternOf s.engine "[at] dddd LT [d]".toList) = "at Heute 11:00 AM d".toList := by
        decide +kernel
      rw [htext]
      rfl
    · have hclose : ']' ∉ (s.engine.translate "Today").toList := by decide
      rw [hcut] at h
      obtain ⟨rfl, rfl⟩ := Prod.mk.inj (Option.some.inj h)
      exact ⟨by decide, closesAtEnd_of_not_mem hclose⟩

/-- A literal with a run is broken up and loses its own text to the word, with the weekday left as
it is; and a word with a closing bracket is shown in part, with the rest of it read as a pattern. -/
theorem dayWord_misplaced :
    let states : Session := { states := [("x", .number (Double.ofInt 1709632800000))] }
    (Session.format (onTuesday id) "{x;momentDate([add] dddd,true)}" {} states).1 =
      "a[Today] Tuesday" ∧
    tuesday.charsWithWord ⟨1709632800, 0⟩ "Today".toList "[add] dddd".toList = "add Today".toList ∧
    (Session.format (onTuesday fun _ => "T]d") "{x;momentDate(dd,true)}" {} states).1 = "T2]" ∧
    tuesday.charsWithWord ⟨1709632800, 0⟩ "T]d".toList "dd".toList = "T]d".toList := by
  decide +kernel

end Pipeline

end LiveText
