import Mathlib
import LiveText.Date.Reading
import LiveText.Proofs.Date.Civil
import LiveText.Proofs.Number.Digits
import LiveText.Proofs.Text.Trim

/-!
# Texts of times

A date and a clock have a text in which every number stands in places of fixed length. It is read as
a wall-clock time (`readWall_stamp`), and, having no offset, it is not in the interchange form
(`readInterchange_stamp`). Milliseconds behind a point are read as a fraction of a second.
-/

namespace LiveText

open Text

/-! ## Digits in places -/

/-- Digits in so many places are read, whatever follows them. -/
theorem Text.Reader.digits_padded {least width n : Nat} (hleast : least ≤ width)
    (hwidth : 0 < width) (hn : n < 10 ^ width) (rest : List Char) :
    Reader.digits least width (Digits.padded width n ++ rest) = some (n, rest) := by
  have hlength := Digits.length_padded hwidth hn
  have htake : ((Digits.padded width n ++ rest).take width).takeWhile Char.isDigit =
      Digits.padded width n := by
    rw [List.take_append_of_le_length (Nat.le_of_eq hlength.symm),
      List.take_of_length_le (Nat.le_of_eq hlength)]
    exact List.takeWhile_eq_self_iff.mpr fun c => Digits.isDigit_of_mem_padded
  rw [Reader.digits, htake, hlength, if_neg (Nat.not_lt.mpr hleast), Digits.value_padded,
    List.drop_append_of_le_length (Nat.le_of_eq hlength.symm), List.drop_eq_nil_of_le
      (Nat.le_of_eq hlength), List.nil_append]

private theorem Text.trimStart_padded (width n : Nat) (rest : List Char) :
    trimStart (Digits.padded width n ++ rest) = Digits.padded width n ++ rest := by
  obtain ⟨c, cs, hcons, hc⟩ := Digits.exists_padded_eq_cons width n
  rw [hcons]
  exact List.dropWhile_cons_of_neg (Bool.eq_false_iff.mp (isBlank_of_isDigit hc))

namespace DateText

/-! ## The text of a time -/

/-- A time of day to the second. -/
structure Clock where
  hour : Nat
  minute : Nat
  second : Nat
  hour_lt : hour < 24
  minute_lt : minute < 60
  second_lt : second < 60

namespace Clock

/-- The seconds since midnight. -/
def seconds (c : Clock) : Nat := c.hour * 3600 + c.minute * 60 + c.second

/-- The hours, minutes and seconds of a clock, in two places each, in front of a text. -/
def chars (c : Clock) (ending : List Char) : List Char :=
  Digits.padded 2 c.hour ++ ':' :: (Digits.padded 2 c.minute ++ ':' ::
    (Digits.padded 2 c.second ++ ending))

end Clock

/-- A date and a time of day, in front of a text. -/
def stamp (d : CivilDate) (c : Clock) (ending : List Char) : List Char :=
  Digits.padded 4 d.year.toNat ++ '-' :: (Digits.padded 2 d.month ++ '-' ::
    (Digits.padded 2 d.day ++ ' ' :: c.chars ending))

/-- A date of a year of four places. -/
structure IsStamped (d : CivilDate) : Prop where
  isValid : d.isValid = true
  year_nonneg : 0 ≤ d.year
  year_le : d.year ≤ 9999

/-! ## Reading -/

theorem field_padded {n : Nat} (h : n < 100) (rest : List Char) :
    field (Digits.padded 2 n ++ rest) = some (n, rest) := by
  rw [field, trimStart_padded]
  exact Reader.digits_padded (by decide) (by decide) h rest

private theorem year_padded {n : Nat} (h : n < 10000) (rest : List Char) :
    year (Digits.padded 4 n ++ rest) = some ((n : Int), rest) := by
  have hdigits : Reader.digits 1 4 (Digits.padded 4 n ++ rest) = some (n, rest) :=
    Reader.digits_padded (by decide) (by decide) h rest
  obtain ⟨c, cs, hcons, hc⟩ := Digits.exists_padded_eq_cons 4 n
  rw [year, trimStart_padded]
  rw [hcons, List.cons_append] at hdigits ⊢
  split
  case h_1 heq => exact absurd (List.cons.inj heq).1 (Digits.ne_of_isDigit hc (by decide))
  case h_2 heq => exact absurd (List.cons.inj heq).1 (Digits.ne_of_isDigit hc (by decide))
  case h_3 => rw [hdigits, Option.map_some]

private theorem char_cons (c : Char) (rest : List Char) :
    Reader.char c (c :: rest) = some ((), rest) :=
  if_pos rfl

private theorem month_lt {d : CivilDate} (h : d.isValid = true) : d.month < 100 := by
  obtain ⟨-, hmonth, -, -⟩ := (CivilDate.isValid_iff d).mp h
  omega

private theorem day_lt {d : CivilDate} (h : d.isValid = true) : d.day < 100 := by
  obtain ⟨-, -, -, hday⟩ := (CivilDate.isValid_iff d).mp h
  have hlength := CivilDate.daysInMonth_le d.year d.month
  omega

private theorem date_stamp {d : CivilDate} (h : IsStamped d) (c : Clock) (ending : List Char) :
    date (stamp d c ending) = some (d, ' ' :: c.chars ending) := by
  have hnonneg := h.year_nonneg
  have hle := h.year_le
  have hyear : (d.year.toNat : Int) = d.year := by omega
  rw [date, stamp]
  simp only [Option.bind_eq_bind, year_padded (show d.year.toNat < 10000 by omega),
    Option.bind_some, char_cons, field_padded (month_lt h.isValid), field_padded (day_lt h.isValid),
    hyear]

/-- A clock's fields make a wall-clock time. -/
private theorem ofFields?_clock {d : CivilDate} (h : d.isValid = true) (c : Clock) (nanos : Nat) :
    WallTime.ofFields? d c.hour c.minute c.second nanos = some ⟨d, c.seconds, nanos⟩ := by
  have hsecond := c.second_lt
  have hfits : (d.isValid && c.hour < 24 && c.minute < 60 && c.second ≤ 60) = true := by
    simp [h, c.hour_lt, c.minute_lt, Nat.le_of_lt hsecond]
  rw [WallTime.ofFields?, if_pos hfits, if_neg (Nat.ne_of_lt hsecond),
    Nat.min_eq_left (Nat.le_of_lt_succ hsecond)]
  rfl

/-- A wall-clock time is read from its text and a fraction of a second. -/
theorem readWall_stamp {d : CivilDate} (h : IsStamped d) (c : Clock) {ending : List Char}
    {nanos : Nat} (hending : optionalFraction ending = some (nanos, [])) :
    readWall (stamp d c ending) = some ⟨d, c.seconds, nanos⟩ := by
  have hhour := c.hour_lt
  have hminute := c.minute_lt
  have hsecond := c.second_lt
  have hhourBlank : ∀ rest, field (' ' :: (Digits.padded 2 c.hour ++ rest)) = some (c.hour, rest) :=
    field_padded (by omega)
  have hminuteField : ∀ rest, field (Digits.padded 2 c.minute ++ rest) = some (c.minute, rest) :=
    field_padded (by omega)
  have hsecondField : ∀ rest, field (Digits.padded 2 c.second ++ rest) = some (c.second, rest) :=
    field_padded (by omega)
  have hfields := ofFields?_clock h.isValid c nanos
  rw [readWall, date_stamp h]
  -- each `change` takes the marks in front of the next number
  change (field (' ' :: c.chars ending)).bind _ = _
  rw [Clock.chars, hhourBlank]
  change (field _).bind _ = _
  rw [hminuteField]
  change (field _).bind _ = _
  rw [hsecondField]
  change (optionalFraction ending).bind _ = _
  rw [hending]
  exact hfields

/-- A text without an offset is not in the interchange form. -/
theorem readInterchange_stamp {d : CivilDate} (h : IsStamped d) (c : Clock) {ending : List Char}
    {nanos : Nat} (hending : optionalFraction ending = some (nanos, [])) :
    readInterchange (stamp d c ending) = none := by
  have hyear : d.year.toNat < 10 ^ 4 := by
    have hle := h.year_le
    omega
  have hhour := c.hour_lt
  have hminute := c.minute_lt
  have hsecond := c.second_lt
  have htwo : ∀ {n : Nat}, n < 100 → ∀ rest, Reader.digits 2 2 (Digits.padded 2 n ++ rest) =
      some (n, rest) := fun hn rest => Reader.digits_padded (by decide) (by decide) hn rest
  rw [readInterchange, stamp, Reader.digits_padded (Nat.le_refl 4) (by decide) hyear]
  -- all is read as in a wall-clock time until the offset is missing
  change (Reader.digits 2 2 _).bind _ = _
  rw [htwo (month_lt h.isValid)]
  change (Reader.digits 2 2 _).bind _ = _
  rw [htwo (day_lt h.isValid)]
  change (Reader.digits 2 2 (c.chars ending)).bind _ = _
  rw [Clock.chars, htwo (by omega)]
  change (Reader.digits 2 2 _).bind _ = _
  rw [htwo (by omega)]
  change (Reader.digits 2 2 _).bind _ = _
  rw [htwo (by omega)]
  change (optionalFraction ending).bind _ = _
  rw [hending]
  rfl

/-! ## Fractions -/

/-- Milliseconds in three places are read as a fraction of a second. -/
theorem optionalFraction_millis {milli : Nat} (h : milli < 1000) :
    optionalFraction ('.' :: Digits.padded 3 milli) = some (milli * 1000000, []) := by
  have hlength : (Digits.padded 3 milli).length = 3 := Digits.length_padded (by decide) h
  have htake : (Digits.padded 3 milli).takeWhile Char.isDigit = Digits.padded 3 milli :=
    List.takeWhile_eq_self_iff.mpr fun c => Digits.isDigit_of_mem_padded
  have hkept : (Digits.padded 3 milli).take 9 = Digits.padded 3 milli :=
    List.take_of_length_le (by omega)
  have hsome : (Digits.padded 3 milli).isEmpty = false :=
    List.isEmpty_eq_false_iff.mpr (List.ne_nil_of_length_pos (by omega))
  have hafter : (Digits.padded 3 milli).drop 3 = [] := List.drop_eq_nil_of_le (Nat.le_of_eq hlength)
  rw [optionalFraction, fraction, htake, hsome, hkept, hlength, hafter, Digits.value_padded]
  rfl

end DateText

end LiveText
