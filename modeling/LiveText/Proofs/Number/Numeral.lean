import Mathlib
import LiveText.Number.Numeral
import LiveText.Proofs.Number.Digits
import LiveText.Proofs.Number.Rounding

/-!
# The grammar of numerals

`Spells` is the grammar: an optional sign, digits with an optional point, and an optional power of
ten. Scanning reads a spelled numeral as a whole (`scan_of_spells`), takes one that the text begins
with (`exists_of_scan`), and never less than there is (`exists_scan_append`). A numeral's value is
what it denotes, correctly rounded (`rounds_value`).
-/

namespace LiveText.Numeral

/-! ### The grammar -/

/-- A sign, which may be left out. -/
inductive IsSign : List Char → Bool → Prop where
  | absent : IsSign [] false
  | plus : IsSign ['+'] false
  | minus : IsSign ['-'] true

/-- Digits with a point, which may be left out; there is a digit on one side of it at least. -/
inductive IsMantissa : List Char → List Char → List Char → Prop where
  | whole {whole : List Char} (hne : whole ≠ []) (hwhole : ∀ c ∈ whole, c.isDigit = true) :
      IsMantissa whole whole []
  | pointed {whole fraction : List Char} (hne : whole ++ fraction ≠ [])
      (hwhole : ∀ c ∈ whole, c.isDigit = true) (hfraction : ∀ c ∈ fraction, c.isDigit = true) :
      IsMantissa (whole ++ '.' :: fraction) whole fraction

/-- The number of digits with a sign. -/
def signedSize (negative : Bool) (digits : List Char) : Int :=
  if negative then -(Digits.value 10 digits : Int) else Digits.value 10 digits

/-- A power of ten, which may be left out. -/
inductive IsPower : List Char → Int → Prop where
  | absent : IsPower [] 0
  | marked {mark : Char} {sign digits : List Char} {negative : Bool}
      (hmark : mark = 'e' ∨ mark = 'E') (hsign : IsSign sign negative) (hne : digits ≠ [])
      (hdigits : ∀ c ∈ digits, c.isDigit = true) :
      IsPower (mark :: (sign ++ digits)) (signedSize negative digits)

/-- A text spells a numeral: a sign, a mantissa and a power of ten. -/
inductive Spells : List Char → Numeral → Prop where
  | parts {sign mantissa power whole fraction : List Char} {negative : Bool} {exponent : Int}
      (hsign : IsSign sign negative) (hmantissa : IsMantissa mantissa whole fraction)
      (hpower : IsPower power exponent) :
      Spells (sign ++ (mantissa ++ power)) ⟨negative, whole, fraction, exponent⟩

/-- The exact number that a numeral denotes, without its sign. -/
def magnitude (n : Numeral) : ℚ :=
  Digits.value 10 (n.whole ++ n.fraction) / 10 ^ n.fraction.length * 10 ^ n.exponent

/-- The value of a numeral is what it denotes, correctly rounded. -/
theorem rounds_value (n : Numeral) : Double.Rounds n.negative n.magnitude n.value := by
  have hmagnitude : n.magnitude = Digits.value 10 (n.whole ++ n.fraction) *
      10 ^ (n.exponent - n.fraction.length) := by
    rw [magnitude, zpow_sub₀ (by norm_num), zpow_natCast]
    ring
  rw [hmagnitude]
  exact Double.rounds_ofDecimal ..

/-! ### The characters of numerals -/

/-- The characters besides digits that stand in numerals. -/
def marks : List Char := ['+', '-', '.', 'e', 'E']

private theorem IsSign.mem_marks {sign : List Char} {negative : Bool} (h : IsSign sign negative)
    {c : Char} (hc : c ∈ sign) : c ∈ marks := by
  cases h with
  | absent => cases hc
  | plus =>
    rw [List.mem_singleton.mp hc]
    decide
  | minus =>
    rw [List.mem_singleton.mp hc]
    decide

theorem IsMantissa.mem {mantissa whole fraction : List Char}
    (h : IsMantissa mantissa whole fraction)
    {c : Char} (hc : c ∈ mantissa) : c.isDigit = true ∨ c = '.' := by
  cases h with
  | whole hne hwhole => exact .inl (hwhole c hc)
  | pointed hne hwhole hfraction =>
    rcases List.mem_append.mp hc with hc | hc
    · exact .inl (hwhole c hc)
    · rcases List.mem_cons.mp hc with rfl | hc
      · exact .inr rfl
      · exact .inl (hfraction c hc)

theorem IsMantissa.ne_nil {mantissa whole fraction : List Char}
    (h : IsMantissa mantissa whole fraction) : mantissa ≠ [] := by
  cases h with
  | whole hne _ => exact hne
  | pointed => exact List.append_ne_nil_of_right_ne_nil _ (List.cons_ne_nil _ _)

private theorem IsPower.mem {power : List Char} {exponent : Int} (h : IsPower power exponent)
    {c : Char} (hc : c ∈ power) : c.isDigit = true ∨ c ∈ marks := by
  cases h with
  | absent => cases hc
  | marked hmark hsign hne hdigits =>
    rcases List.mem_cons.mp hc with rfl | hc
    · right
      rcases hmark with rfl | rfl <;> decide
    · rcases List.mem_append.mp hc with hc | hc
      · exact .inr (hsign.mem_marks hc)
      · exact .inl (hdigits c hc)

theorem Spells.mem {cs : List Char} {n : Numeral} (h : Spells cs n) {c : Char} (hc : c ∈ cs) :
    c.isDigit = true ∨ c ∈ marks := by
  cases h with
  | parts hsign hmantissa hpower =>
    rcases List.mem_append.mp hc with hc | hc
    · exact .inr (hsign.mem_marks hc)
    · rcases List.mem_append.mp hc with hc | hc
      · rcases hmantissa.mem hc with hc | rfl
        · exact .inl hc
        · exact .inr (by decide)
      · exact hpower.mem hc

theorem Spells.ne_nil {cs : List Char} {n : Numeral} (h : Spells cs n) : cs ≠ [] := by
  cases h with
  | parts hsign hmantissa hpower =>
    exact List.append_ne_nil_of_right_ne_nil _
      (List.append_ne_nil_of_left_ne_nil hmantissa.ne_nil _)

/-- Other characters do not stand in numerals. -/
theorem Spells.not_mem {cs : List Char} {n : Numeral} (h : Spells cs n) {c : Char}
    (hdigit : c.isDigit = false) (hmark : c ∉ marks) : c ∉ cs := by
  intro hc
  rcases h.mem hc with hc | hc
  · rw [hdigit] at hc
    cases hc
  · exact hmark hc

/-! ### The scanner of each part -/

/-- The text does not begin with one of certain characters. -/
def NotBegins (p : Char → Bool) (cs : List Char) : Prop := ∀ c ∈ cs.head?, p c = false

private theorem notBegins_nil (p : Char → Bool) : NotBegins p [] := fun _ h => nomatch h

theorem notBegins_cons {p : Char → Bool} {c : Char} {cs : List Char} :
    NotBegins p (c :: cs) ↔ p c = false := by
  simp [NotBegins]

/-- Characters of a class in front of a text that does not begin with one. -/
theorem takeWhile_append {p : Char → Bool} {front rest : List Char} (h : ∀ c ∈ front, p c = true)
    (hrest : NotBegins p rest) : (front ++ rest).takeWhile p = front := by
  rw [List.takeWhile_append_of_pos h]
  cases rest with
  | nil => rw [List.takeWhile_nil, List.append_nil]
  | cons c rest =>
    rw [List.takeWhile_cons_of_neg (by rw [notBegins_cons.mp hrest]; decide), List.append_nil]

theorem dropWhile_append {p : Char → Bool} {front rest : List Char} (h : ∀ c ∈ front, p c = true)
    (hrest : NotBegins p rest) : (front ++ rest).dropWhile p = rest := by
  rw [List.dropWhile_append_of_pos h]
  cases rest with
  | nil => rfl
  | cons c rest => rw [List.dropWhile_cons_of_neg (by rw [notBegins_cons.mp hrest]; decide)]

/-- Whether a character is a sign. -/
def isSignChar (c : Char) : Bool := c == '+' || c == '-'

theorem isSignChar_of_isDigit {c : Char} (h : c.isDigit = true) : isSignChar c = false := by
  refine Bool.or_eq_false_iff.mpr ⟨?_, ?_⟩
  · exact beq_eq_false_iff_ne.mpr (Digits.ne_of_isDigit h (by decide))
  · exact beq_eq_false_iff_ne.mpr (Digits.ne_of_isDigit h (by decide))

/-- A sign is scanned in front of a text that does not begin with one. -/
theorem scanSign_append {sign rest : List Char} {negative : Bool} (h : IsSign sign negative)
    (hrest : NotBegins isSignChar rest) : scanSign (sign ++ rest) = (negative, rest) := by
  cases h with
  | absent =>
    rw [List.nil_append, scanSign]
    · rintro tail rfl
      exact absurd (notBegins_cons.mp hrest) (by decide)
    · rintro tail rfl
      exact absurd (notBegins_cons.mp hrest) (by decide)
  | plus => rfl
  | minus => rfl

/-- What is scanned as a sign is one. -/
theorem exists_sign (cs : List Char) :
    ∃ sign, IsSign sign (scanSign cs).1 ∧ cs = sign ++ (scanSign cs).2 := by
  rw [scanSign.eq_def]
  split
  · exact ⟨['+'], .plus, rfl⟩
  · exact ⟨['-'], .minus, rfl⟩
  · exact ⟨[], .absent, rfl⟩

/-- A point behind digits, and the digits behind the point. -/
theorem scanDigits_point {cs rest : List Char} (hpoint : cs.dropWhile Char.isDigit = '.' :: rest)
    (hne : cs.takeWhile Char.isDigit ++ rest.takeWhile Char.isDigit ≠ []) :
    scanDigits cs = some (cs.takeWhile Char.isDigit, rest.takeWhile Char.isDigit,
      rest.dropWhile Char.isDigit) := by
  rw [scanDigits, hpoint]
  refine if_neg fun hempty => hne ?_
  simpa using hempty

/-- Digits without a point behind them. -/
theorem scanDigits_whole {cs : List Char}
    (hpoint : NotBegins (· == '.') (cs.dropWhile Char.isDigit))
    (hne : cs.takeWhile Char.isDigit ≠ []) :
    scanDigits cs = some (cs.takeWhile Char.isDigit, [], cs.dropWhile Char.isDigit) := by
  rw [scanDigits]
  split
  · rename_i rest heq
    rw [heq] at hpoint
    exact absurd (notBegins_cons.mp hpoint) (by decide)
  · exact if_neg (by simpa using hne)

/-- What is scanned as a mantissa is one. -/
theorem exists_mantissa {cs whole fraction rest : List Char}
    (h : scanDigits cs = some (whole, fraction, rest)) :
    ∃ mantissa, IsMantissa mantissa whole fraction ∧ cs = mantissa ++ rest := by
  have hsplit : cs.takeWhile Char.isDigit ++ cs.dropWhile Char.isDigit = cs :=
    List.takeWhile_append_dropWhile
  rw [scanDigits] at h
  split at h
  · rename_i behind hbehind
    rw [hbehind] at hsplit
    simp only at h
    split_ifs at h with hempty
    cases h
    refine ⟨_, .pointed (by simpa using hempty) (fun _ => List.mem_takeWhile_imp)
      (fun _ => List.mem_takeWhile_imp), ?_⟩
    rw [List.append_assoc, List.cons_append, List.takeWhile_append_dropWhile, hsplit]
  · split_ifs at h with hempty
    cases h
    exact ⟨_, .whole (by simpa using hempty) (fun _ => List.mem_takeWhile_imp), hsplit.symm⟩

/-- Whether a character may continue a mantissa. -/
def continuesMantissa (c : Char) : Bool := c.isDigit || c == '.'

/-- A mantissa is scanned in front of a text that does not continue it. -/
private theorem scanDigits_append {mantissa whole fraction rest : List Char}
    (h : IsMantissa mantissa whole fraction) (hrest : NotBegins continuesMantissa rest) :
    scanDigits (mantissa ++ rest) = some (whole, fraction, rest) := by
  have hdigit : NotBegins Char.isDigit rest := fun c hc => (Bool.or_eq_false_iff.mp (hrest c hc)).1
  have hpoint : NotBegins (· == '.') rest := fun c hc => (Bool.or_eq_false_iff.mp (hrest c hc)).2
  cases h with
  | whole hne hwhole =>
    have htake := takeWhile_append hwhole hdigit
    have hdrop := dropWhile_append hwhole hdigit
    rw [scanDigits_whole (by rwa [hdrop]) (by rwa [htake]), htake, hdrop]
  | pointed hne hwhole hfraction =>
    have hstop : NotBegins Char.isDigit ('.' :: (fraction ++ rest)) :=
      notBegins_cons.mpr (by decide)
    have htake := takeWhile_append hwhole hstop
    have hdrop := dropWhile_append hwhole hstop
    have htake' := takeWhile_append hfraction hdigit
    rw [List.append_assoc, List.cons_append, scanDigits_point hdrop (by rwa [htake, htake']), htake,
      htake', dropWhile_append hfraction hdigit]

/-- Behind a mantissa at least as much is scanned. -/
private theorem exists_scanDigits_append {mantissa whole fraction : List Char}
    (h : IsMantissa mantissa whole fraction) (rest : List Char) :
    ∃ whole fraction after, scanDigits (mantissa ++ rest) = some (whole, fraction, after) ∧
      after <:+ rest := by
  cases h with
  | whole hne hwhole =>
    have htake : (mantissa ++ rest).takeWhile Char.isDigit ≠ [] := by
      rw [List.takeWhile_append_of_pos hwhole]
      exact List.append_ne_nil_of_left_ne_nil hne _
    have hdrop : (mantissa ++ rest).dropWhile Char.isDigit = rest.dropWhile Char.isDigit :=
      List.dropWhile_append_of_pos hwhole
    by_cases hpoint : ∃ behind, rest.dropWhile Char.isDigit = '.' :: behind
    · obtain ⟨behind, hbehind⟩ := hpoint
      refine ⟨_, _, _, scanDigits_point (hdrop.trans hbehind)
        (List.append_ne_nil_of_left_ne_nil htake _), ?_⟩
      have hsuffix : '.' :: behind <:+ rest := hbehind ▸ List.dropWhile_suffix _
      exact (List.dropWhile_suffix _).trans ((List.suffix_cons ..).trans hsuffix)
    · have hnot : NotBegins (· == '.') (rest.dropWhile Char.isDigit) := by
        intro c hc
        obtain ⟨behind, hbehind⟩ := List.head?_eq_some_iff.mp hc
        exact beq_eq_false_iff_ne.mpr fun heq => hpoint ⟨behind, heq ▸ hbehind⟩
      exact ⟨_, _, _, scanDigits_whole (by rwa [hdrop]) htake, hdrop ▸ List.dropWhile_suffix _⟩
  | pointed hne hwhole hfraction =>
    have hstop : NotBegins Char.isDigit ('.' :: (fraction ++ rest)) :=
      notBegins_cons.mpr (by decide)
    have htake := takeWhile_append hwhole hstop
    have hdrop := dropWhile_append hwhole hstop
    have hne' : whole ++ (fraction ++ rest).takeWhile Char.isDigit ≠ [] := by
      rw [List.takeWhile_append_of_pos hfraction, ← List.append_assoc]
      exact List.append_ne_nil_of_left_ne_nil hne _
    have hread := scanDigits_point hdrop (by rwa [htake])
    rw [List.append_assoc, List.cons_append]
    refine ⟨_, _, _, hread, ?_⟩
    rw [List.dropWhile_append_of_pos hfraction]
    exact List.dropWhile_suffix _

/-- Behind the mark of a power a sign and digits are read; without digits the mark does not count.
-/
theorem scanExponent_mark {mark : Char} (hmark : mark = 'e' ∨ mark = 'E') (rest : List Char) :
    scanExponent (mark :: rest) =
      if ((scanSign rest).2.takeWhile Char.isDigit).isEmpty then (0, mark :: rest)
      else (signedSize (scanSign rest).1 ((scanSign rest).2.takeWhile Char.isDigit),
        (scanSign rest).2.dropWhile Char.isDigit) := by
  rw [scanExponent, if_pos hmark]
  rfl

/-- The power behind its mark takes all digits that follow. -/
theorem scanExponent_marked {mark : Char} {sign digits : List Char} {negative : Bool}
    (hmark : mark = 'e' ∨ mark = 'E') (hsign : IsSign sign negative) (hne : digits ≠ [])
    (hdigits : ∀ c ∈ digits, c.isDigit = true) (rest : List Char) :
    scanExponent (mark :: (sign ++ (digits ++ rest))) =
      (signedSize negative (digits ++ rest.takeWhile Char.isDigit),
        rest.dropWhile Char.isDigit) := by
  have hstop : NotBegins isSignChar (digits ++ rest) := by
    obtain ⟨d, ds, rfl⟩ := List.exists_cons_of_ne_nil hne
    exact notBegins_cons.mpr (isSignChar_of_isDigit (hdigits d (List.mem_cons_self ..)))
  have htake : (digits ++ rest).takeWhile Char.isDigit = digits ++ rest.takeWhile Char.isDigit :=
    List.takeWhile_append_of_pos hdigits
  have hempty : (digits ++ rest.takeWhile Char.isDigit).isEmpty = false := by
    rw [List.isEmpty_eq_false_iff]
    exact List.append_ne_nil_of_left_ne_nil hne _
  rw [scanExponent_mark hmark, scanSign_append hsign hstop, htake, hempty,
    List.dropWhile_append_of_pos hdigits]
  rfl

/-- What is scanned as a power is one. -/
theorem exists_power (cs : List Char) :
    ∃ power, IsPower power (scanExponent cs).1 ∧ cs = power ++ (scanExponent cs).2 := by
  cases cs with
  | nil => exact ⟨[], .absent, rfl⟩
  | cons c rest =>
    by_cases hmark : c = 'e' ∨ c = 'E'
    · obtain ⟨sign, hsign, hrest⟩ := exists_sign rest
      rw [scanExponent_mark hmark]
      split_ifs with hempty
      · exact ⟨[], .absent, rfl⟩
      · refine ⟨_, .marked hmark hsign (by simpa using hempty)
          (fun _ => List.mem_takeWhile_imp), ?_⟩
        rw [List.cons_append, List.append_assoc, List.takeWhile_append_dropWhile, ← hrest]
    · rw [scanExponent, if_neg hmark]
      exact ⟨[], .absent, rfl⟩

/-- A power is scanned as a whole. -/
private theorem scanExponent_of_isPower {power : List Char} {exponent : Int}
    (h : IsPower power exponent) :
    scanExponent power = (exponent, []) := by
  cases h with
  | absent => rfl
  | marked hmark hsign hne hdigits =>
    have hread := scanExponent_marked hmark hsign hne hdigits []
    simpa using hread

/-- Behind a power at least as much is scanned. -/
theorem scanExponent_suffix {power : List Char} {exponent : Int} (h : IsPower power exponent)
    (rest : List Char) : (scanExponent (power ++ rest)).2 <:+ rest := by
  cases h with
  | absent =>
    obtain ⟨power, -, heq⟩ := exists_power rest
    exact ⟨power, heq.symm⟩
  | marked hmark hsign hne hdigits =>
    rw [List.cons_append, List.append_assoc, scanExponent_marked hmark hsign hne hdigits]
    exact List.dropWhile_suffix _

/-! ### The scanner of numerals -/

theorem scan_eq (cs : List Char) : scan cs = (scanDigits (scanSign cs).2).map
    fun (whole, fraction, rest) =>
      (⟨(scanSign cs).1, whole, fraction, (scanExponent rest).1⟩, (scanExponent rest).2) := by
  rcases hsign : scanSign cs with ⟨negative, unsigned⟩
  simp only [scan, hsign]
  cases scanDigits unsigned <;> rfl

/-- No sign stands at the beginning of a mantissa. -/
theorem IsMantissa.notBegins_sign {mantissa whole fraction : List Char}
    (h : IsMantissa mantissa whole fraction) (rest : List Char) :
    NotBegins isSignChar (mantissa ++ rest) := by
  obtain ⟨c, cs, rfl⟩ := List.exists_cons_of_ne_nil h.ne_nil
  refine notBegins_cons.mpr ?_
  rcases h.mem (List.mem_cons_self ..) with hc | rfl
  · exact isSignChar_of_isDigit hc
  · decide

/-- A power does not continue a mantissa. -/
theorem IsPower.notBegins {power : List Char} {exponent : Int} (h : IsPower power exponent) :
    NotBegins continuesMantissa power := by
  cases h with
  | absent => exact notBegins_nil _
  | marked hmark =>
    rw [notBegins_cons]
    rcases hmark with rfl | rfl <;> decide

/-- In front of a text that does not continue the mantissa, sign and mantissa are scanned, and then
the power. -/
theorem scan_append {sign mantissa whole fraction rest : List Char} {negative : Bool}
    (hsign : IsSign sign negative) (hmantissa : IsMantissa mantissa whole fraction)
    (hrest : NotBegins continuesMantissa rest) : scan (sign ++ (mantissa ++ rest)) =
      some (⟨negative, whole, fraction, (scanExponent rest).1⟩, (scanExponent rest).2) := by
  rw [scan_eq, scanSign_append hsign (hmantissa.notBegins_sign _)]
  simp only
  rw [scanDigits_append hmantissa hrest, Option.map_some]

/-- A spelled numeral is scanned as a whole. -/
theorem scan_of_spells {cs : List Char} {n : Numeral} (h : Spells cs n) :
    scan cs = some (n, []) := by
  cases h with
  | parts hsign hmantissa hpower =>
    rw [scan_append hsign hmantissa hpower.notBegins, scanExponent_of_isPower hpower]

/-- A text spells one numeral only. -/
theorem Spells.unique {cs : List Char} {m n : Numeral} (hm : Spells cs m) (hn : Spells cs n) :
    m = n := by
  have heq := (scan_of_spells hm).symm.trans (scan_of_spells hn)
  exact (Prod.mk.inj (Option.some.inj heq)).1

/-- What is scanned is spelled in front of the text. -/
theorem exists_of_scan {cs rest : List Char} {n : Numeral} (h : scan cs = some (n, rest)) :
    ∃ taken, Spells taken n ∧ cs = taken ++ rest := by
  rw [scan_eq] at h
  obtain ⟨⟨whole, fraction, behind⟩, hdigits, heq⟩ := Option.map_eq_some_iff.mp h
  obtain ⟨rfl, rfl⟩ := Prod.mk.inj heq
  obtain ⟨sign, hsign, hcs⟩ := exists_sign cs
  obtain ⟨mantissa, hmantissa, hunsigned⟩ := exists_mantissa hdigits
  obtain ⟨power, hpower, hbehind⟩ := exists_power behind
  refine ⟨_, .parts hsign hmantissa hpower, ?_⟩
  rw [List.append_assoc, List.append_assoc, ← hbehind, ← hunsigned, ← hcs]

/-- In front of a text that begins with a numeral, at least that much is scanned. -/
theorem exists_scan_append {taken : List Char} {n : Numeral} (h : Spells taken n)
    (rest : List Char) : ∃ m after, scan (taken ++ rest) = some (m, after) ∧ after <:+ rest := by
  cases h with
  | @parts sign mantissa power whole fraction negative exponent hsign hmantissa hpower =>
    rw [List.append_assoc, List.append_assoc]
    by_cases hrest : NotBegins continuesMantissa (power ++ rest)
    · -- the same mantissa is scanned, and then at least the same power
      exact ⟨_, _, scan_append hsign hmantissa hrest, scanExponent_suffix hpower rest⟩
    · -- the mantissa goes on, so there is no power
      have hnone : power = [] := by
        cases power with
        | nil => rfl
        | cons c power =>
          exact absurd (notBegins_cons.mpr (notBegins_cons.mp hpower.notBegins)) hrest
      obtain ⟨whole', fraction', after, hread, hafter⟩ :=
        exists_scanDigits_append hmantissa (power ++ rest)
      rw [hnone, List.nil_append] at hafter
      obtain ⟨power', -, heq⟩ := exists_power after
      have hsuffix : (scanExponent after).2 <:+ after := ⟨power', heq.symm⟩
      refine ⟨⟨negative, whole', fraction', (scanExponent after).1⟩, _, ?_, hsuffix.trans hafter⟩
      rw [scan_eq, scanSign_append hsign (hmantissa.notBegins_sign _), hread, Option.map_some]

end LiveText.Numeral
