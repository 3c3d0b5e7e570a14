import LiveText.Proofs.Binding.Tokens
import LiveText.Proofs.Formula.Spans

/-!
# Tokens as a layout

A token that is spelled in front of a text is the one that is read (`read_eq_ok_iff`), and a text
that is laid out as tokens has just these (`tokens_eq_ok_iff`): no text is laid out in two ways.
-/

namespace LiveText.Lexeme

open Text
open Numeral (NotBegins takeWhile_append dropWhile_append)

variable {position : Nat} {c : Char} {rest after text : List Char} {token : Token}

/-! ### The first characters of tokens -/

/-- What is neither blank nor a semicolon may stand in front of a token. -/
def MayBegin (c : Char) : Prop := isBlank c = false ∧ c ≠ ';'

instance (c : Char) : Decidable (MayBegin c) := inferInstanceAs (Decidable (_ ∧ _))

private theorem isNameStart_of_isDigit (h : c.isDigit = true) : isNameStart c = false := by
  have hdigits : ∀ d : Fin 10, isNameStart (Digits.char d) = false := by decide
  rw [← Digits.char_digit? h]
  exact hdigits ⟨_, Digits.digit?_of_isDigit h⟩

/-- No blank stands in front of a name. -/
theorem isBlank_of_isNameStart (h : isNameStart c = true) : isBlank c = false := by
  have hblanks : ∀ range ∈ whiteSpace, ∀ n ∈ List.range' range.1 (range.2 + 1 - range.1),
      alphabetic.contains n = false ∧ n ≠ '_'.toNat ∧ n ≠ '$'.toNat := by
    decide +kernel
  refine Bool.eq_false_iff.mpr fun hblank => ?_
  obtain ⟨range, hmem, hlow, hhigh⟩ := Ranges.exists_of_contains hblank
  obtain ⟨hletter, hunderscore, hdollar⟩ :=
    hblanks range hmem c.toNat (List.mem_range'_1.mpr ⟨hlow, by omega⟩)
  rw [isNameStart, isAlphabetic, hletter, Bool.false_or, Bool.or_eq_true, decide_eq_true_eq,
    decide_eq_true_eq] at h
  rcases h with rfl | rfl
  · exact hunderscore rfl
  · exact hdollar rfl

private theorem not_isNumberStart (hdigit : c.isDigit = false) (hpoint : c ≠ '.') :
    ¬ isNumberStart c rest = true := by
  rw [isNumberStart_iff, hdigit]
  rintro (h | ⟨h, -⟩)
  · cases h
  · exact hpoint h

/-- No number begins like a name. -/
private theorem not_isNumberStart_of_isNameStart (h : isNameStart c = true) :
    ¬ isNumberStart c rest = true := by
  refine not_isNumberStart (Bool.eq_false_iff.mpr fun hdigit => ?_) ?_
  · rw [isNameStart_of_isDigit hdigit] at h
    cases h
  · rintro rfl
    exact absurd h (by decide)

private theorem IsQuote.not_isNumberStart (h : IsQuote c) : ¬ isNumberStart c rest = true := by
  rcases h with rfl | rfl <;> exact Lexeme.not_isNumberStart (by decide) (by decide)

private theorem IsQuote.isNameStart_eq_false (h : IsQuote c) : isNameStart c = false := by
  rcases h with rfl | rfl <;> decide

private theorem mayBegin_of_isNumberStart (h : isNumberStart c rest = true) : MayBegin c := by
  rcases isNumberStart_iff.mp h with hdigit | ⟨rfl, -⟩
  · exact ⟨isBlank_of_isDigit hdigit, Digits.ne_of_isDigit hdigit (by decide)⟩
  · decide

private theorem mayBegin_of_isNameStart (h : isNameStart c = true) : MayBegin c := by
  refine ⟨isBlank_of_isNameStart h, ?_⟩
  rintro rfl
  exact absurd h (by decide)

private theorem HasHexMark.head {digits : List Char} (h : HasHexMark text digits) :
    ∃ more, text = '0' :: more := by
  cases h
  exact ⟨_, rfl⟩

/-- A punctuation begins with a character that no other token begins with. -/
theorem spelling_head (p : Punct) : ∃ c more, p.spelling = c :: more ∧ MayBegin c ∧ ¬ IsQuote c ∧
    isNameStart c = false := by
  cases p
  all_goals
    refine ⟨_, _, rfl, ?_⟩
    decide

/-! ### Spelled tokens are read -/

/-- The longest number in decimal in front is read. -/
theorem readDecimal_eq {n : Numeral} {x : Double} (hcs : c :: rest = text ++ after)
    (hlongest : Numeral.IsLongest IsDecimalText (c :: rest) text) (hdecimal : IsDecimal text n)
    (hrounds : Double.Rounds false n.magnitude x) : readDecimal c rest = (x, after) := by
  have hstart := isNumberStart_of_isDecimalText hlongest.front ⟨n, hdecimal⟩
  obtain ⟨text', n', hcs', hdecimal', hvalue, hlongest'⟩ := exists_of_readDecimal hstart
  obtain rfl := hlongest.unique hlongest'
  obtain rfl := hdecimal.spells.unique hdecimal'.spells
  have hx : n.value = x := hdecimal.rounds_value.unique hrounds
  have hafter : after = (readDecimal c rest).2 := List.append_cancel_left (hcs.symm.trans hcs')
  rw [hafter, ← hx, ← hvalue]

private theorem unclosed_of_escaped {quote : Char} {cs : List Char}
    (h : Unclosed quote ('\\' :: c :: cs)) :
    Unclosed quote cs := by
  rintro before behind rfl
  exact (escapes_escaped c before).mp (h ('\\' :: c :: before) behind rfl)

private theorem unclosed_of_cons {quote : Char} {cs : List Char} (hc : c ≠ '\\')
    (h : Unclosed quote (c :: cs)) : Unclosed quote cs := by
  rintro before behind rfl
  exact (escapes_cons hc before).mp (h (c :: before) behind rfl)

/-- Up to the first quote that is not escaped a text is read as quoted. -/
theorem readQuoted_eq {quote : Char} {inside : List Char} (hquote : IsQuote quote)
    (hinside : Unclosed quote inside) (hclose : ¬ Escapes inside) (after : List Char) :
    readQuoted quote (inside ++ quote :: after) = some (unescaped inside, after) := by
  fun_induction unescaped inside with
  | case1 c rest ih =>
    have hread := ih (unclosed_of_escaped hinside) (mt (escapes_escaped c rest).mpr hclose)
    rw [List.cons_append, List.cons_append, readQuoted, hread]
    rfl
  | case2 c rest hne ih =>
    have hc : c ≠ '\\' := by
      rintro rfl
      cases rest with
      | nil => exact hclose escapes_backslash
      | cons d rest => exact hne d rest rfl rfl
    have hplain : c ≠ quote := by
      rintro rfl
      exact not_escapes_nil (hinside [] rest rfl)
    have hread := ih (unclosed_of_cons hc hinside) (mt (escapes_cons hc rest).mpr hclose)
    rw [List.cons_append, readQuoted, if_neg hplain, hread]
    · rfl
    · exact hc
  | case3 =>
    rw [List.nil_append, readQuoted, if_pos rfl]
    rintro rfl
    exact absurd hquote (by decide)

/-- A punctuation is read where it is the longest one. -/
private theorem inFront?_eq {p : Punct}
    (h : Numeral.IsLongest IsPunctuation (p.spelling ++ rest) p.spelling) :
    Punct.inFront? (p.spelling ++ rest) = some p := by
  cases hread : Punct.inFront? (p.spelling ++ rest) with
  | none => exact absurd ⟨p, rfl⟩ (not_isPunctuation_of_inFront? hread _ h.front)
  | some q =>
    have hinjective : ∀ p ∈ Punct.all, ∀ q ∈ Punct.all, p.spelling = q.spelling → p = q := by
      decide
    have hspelling := h.unique (isLongest_of_inFront? hread)
    rw [hinjective p p.mem_all q q.mem_all hspelling]

/-- Reading in front of a text that is cut into its first character and the rest. -/
theorem read_of_spelled (h : Spelled token text after) (hcs : c :: rest = text ++ after) :
    read position c rest = .ok (token, after) := by
  cases h with
  | decimal hmark hlongest hdecimal hrounds =>
    rw [← hcs] at hmark hlongest
    have hstart := isNumberStart_of_isDecimalText hlongest.front ⟨_, hdecimal⟩
    rw [read, if_pos hstart, readNumber_other hmark, readDecimal_eq hcs hlongest hdecimal hrounds]
  | @hexadecimal _ digits _ x hmark hdigits hstop hfits hrounds =>
    have hmark' : HasHexMark (c :: rest) (digits ++ after) := by
      rw [hcs]
      exact hmark.append after
    have htake : (digits ++ after).takeWhile isHexDigit = digits :=
      takeWhile_append hdigits.2 hstop
    have hread : Numeral.readHex ((digits ++ after).takeWhile isHexDigit) =
        some (Digits.value 16 digits) := by
      rw [readHex_takeWhile_eq_some_iff, htake]
      exact ⟨hdigits, hfits, rfl⟩
    have hstart : isNumberStart c rest = true := by
      obtain ⟨hletter⟩ := hmark
      rw [(List.cons.inj hcs).1]
      exact isNumberStart_iff.mpr (.inl (by decide))
    have hx : Double.ofNat (Digits.value 16 digits) = x := (Numeral.rounds_ofNat _).unique hrounds
    have hdrop : (digits ++ after).dropWhile isHexDigit = after := dropWhile_append hdigits.2 hstop
    rw [read, if_pos hstart, readNumber_hex hmark', hread, hdrop, Option.map_some, hx]
  | @string quote inside _ hquote hinside hclose =>
    simp only [List.cons_append, List.append_assoc, List.nil_append, List.cons.injEq] at hcs
    obtain ⟨rfl, rfl⟩ := hcs
    have hmark : c = '\'' ∨ c = '"' := hquote
    rw [read, if_neg hquote.not_isNumberStart, if_pos hmark, readQuoted_eq hquote hinside hclose]
  | @name d more _ hstart hmore hstop =>
    rw [List.cons_append, List.cons.injEq] at hcs
    obtain ⟨rfl, rfl⟩ := hcs
    have hquote : ¬ (c = '\'' ∨ c = '"') := fun hquote => by
      rw [IsQuote.isNameStart_eq_false hquote] at hstart
      cases hstart
    rw [read, if_neg (not_isNumberStart_of_isNameStart hstart), if_neg hquote, if_pos hstart,
      takeWhile_append hmore hstop, dropWhile_append hmore hstop]
  | @punct p _ hdecimal hlongest =>
    obtain ⟨d, more, hspelling, -, hnotQuote, hname⟩ := spelling_head p
    obtain rfl : c = d := by
      rw [hspelling] at hcs
      exact (List.cons.inj hcs).1
    have hquote : ¬ (c = '\'' ∨ c = '"') := hnotQuote
    have hnumber : ¬ isNumberStart c rest = true := by
      intro hstart
      obtain ⟨text, n, -, hn, -, hfirst⟩ := exists_of_readDecimal hstart
      exact hdecimal text (hcs ▸ hfirst.front) ⟨n, hn⟩
    rw [read, if_neg hnumber, if_neg hquote, if_neg (Bool.eq_false_iff.mp hname), hcs,
      inFront?_eq hlongest]
    dsimp only
    rw [List.drop_left]

/-- A token is read just where it is spelled. -/
theorem read_eq_ok_iff : read position c rest = .ok (token, after) ↔
    ∃ text, c :: rest = text ++ after ∧ Spelled token text after :=
  ⟨spelled_of_read, fun ⟨_, hcs, h⟩ => read_of_spelled h hcs⟩

private theorem Spelled.exists_head (h : Spelled token text after) :
    ∃ c more, text = c :: more ∧ MayBegin c := by
  cases h with
  | decimal _ hlongest hdecimal _ =>
    obtain ⟨c, more, rfl⟩ := List.exists_cons_of_ne_nil hdecimal.spells.ne_nil
    exact ⟨c, more, rfl, mayBegin_of_isNumberStart
      (isNumberStart_of_isDecimalText hlongest.front ⟨_, hdecimal⟩)⟩
  | hexadecimal hmark =>
    obtain ⟨more, rfl⟩ := hmark.head
    exact ⟨'0', more, rfl, by decide⟩
  | string hquote => exact ⟨_, _, rfl, by rcases hquote with rfl | rfl <;> decide⟩
  | name hstart => exact ⟨_, _, rfl, mayBegin_of_isNameStart hstart⟩
  | punct =>
    obtain ⟨c, more, hspelling, hbegin, -⟩ := spelling_head _
    exact ⟨c, more, hspelling, hbegin⟩

/-! ### Layouts are read -/

private theorem tokens_ending {cs : List Char} (h : IsEnding cs) : tokens position cs = .ok [] := by
  obtain rfl | ⟨blanks, rfl, hblanks⟩ := h
  · rw [tokens]
  · rw [tokens, if_neg (by decide), if_pos ⟨rfl, List.all_eq_true.mpr hblanks⟩]

private theorem tokens_spelled {more : List PlacedToken} (h : Spelled token text after)
    (hmore : tokens (position + text.length) after = .ok more) :
    tokens position (text ++ after) = .ok (⟨token, position⟩ :: more) := by
  obtain ⟨c, inside, rfl, hblank, hsemicolon⟩ := h.exists_head
  have hread : read position c (inside ++ after) = .ok (token, after) :=
    read_of_spelled h (List.cons_append ..).symm
  rw [← position_behind (List.cons_append ..).symm (length_of_read hread)] at hmore
  rw [List.cons_append, tokens, if_neg (by simp [hblank]), if_neg (fun h => hsemicolon h.1)]
  split
  next e herror =>
    rw [hread] at herror
    cases herror
  next token' after' hread' =>
    rw [hread] at hread'
    cases hread'
    rw [hmore]

/-- A text that is laid out as tokens has these. -/
private theorem Layout.tokens_eq {cs : List Char} {spans : List Span}
    (h : Layout position cs spans) :
    tokens position cs = .ok (spans.map Span.placed) := by
  induction h with
  | ending h => exact tokens_ending h
  | blank hblank _ ih => rw [tokens, if_pos hblank, ih]
  | token hspelled _ ih => exact tokens_spelled hspelled ih

/-- A text has tokens just where it is laid out as them. -/
theorem tokens_eq_ok_iff {cs : List Char} {ts : List PlacedToken} :
    tokens position cs = .ok ts ↔
      ∃ spans, spans.map Span.placed = ts ∧ Layout position cs spans := by
  constructor
  · exact exists_layout
  · rintro ⟨spans, rfl, hlayout⟩
    exact hlayout.tokens_eq

end LiveText.Lexeme
