import LiveText.Formula.Lexeme
import LiveText.Proofs.Number.Reading

/-!
# How tokens are spelled

`Spelled` says which characters make up a token in front of a text, `Fault` why none stands there.
Reading takes just the characters of its token (`spelled_of_read`) and fails only for a fault
(`fault_of_read`). A number in decimal is never a fault.
-/

namespace LiveText.Lexeme

open Numeral (IsMantissa IsPower IsHex IsLongest NotBegins notBegins_cons)

/-! ### The grammar of tokens -/

/-- A number in decimal: a point stands in front of a digit. -/
inductive IsDecimal : List Char → Numeral → Prop where
  | parts {mantissa power whole fraction : List Char} {exponent : Int}
      (hmantissa : IsMantissa mantissa whole fraction) (hpoint : fraction ≠ [] ∨ mantissa = whole)
      (hpower : IsPower power exponent) :
      IsDecimal (mantissa ++ power) ⟨false, whole, fraction, exponent⟩

/-- A text that is a number in decimal. -/
def IsDecimalText (text : List Char) : Prop := ∃ n, IsDecimal text n

/-- A text that begins like a number in hexadecimal, with the text behind the mark. -/
inductive HasHexMark : List Char → List Char → Prop where
  | marked {mark : Char} {rest : List Char} (hmark : mark = 'x' ∨ mark = 'X') :
      HasHexMark ('0' :: mark :: rest) rest

/-- The marks around a quoted text. -/
def IsQuote (c : Char) : Prop := c = '\'' ∨ c = '"'

instance (c : Char) : Decidable (IsQuote c) := inferInstanceAs (Decidable (_ ∨ _))

/-- Whether a character behind a quoted text would be escaped: an odd number of backslashes stands
right before it. -/
def Escapes (inside : List Char) : Prop :=
  (inside.reverse.takeWhile (· == '\\')).length % 2 = 1

instance (inside : List Char) : Decidable (Escapes inside) := inferInstanceAs (Decidable (_ = 1))

/-- Whether every quote in a text is escaped. -/
def Unclosed (quote : Char) (inside : List Char) : Prop :=
  ∀ before after, inside = before ++ quote :: after → Escapes before

/-- A text with its escapes resolved. -/
def unescaped : List Char → List Char
  | '\\' :: c :: rest => unescapeChar c :: unescaped rest
  | c :: rest => c :: unescaped rest
  | [] => []

/-- A text that is the spelling of a punctuation. -/
def IsPunctuation (text : List Char) : Prop := ∃ p : Punct, p.spelling = text

/-- A token is spelled by a text in front of a rest. No more than that could be taken. -/
inductive Spelled : Token → List Char → List Char → Prop where
  | decimal {text rest : List Char} {n : Numeral} {x : Double}
      (hmark : ∀ behind, ¬ HasHexMark (text ++ rest) behind)
      (hlongest : IsLongest IsDecimalText (text ++ rest) text) (hdecimal : IsDecimal text n)
      (hrounds : Double.Rounds false n.magnitude x) : Spelled (.number x) text rest
  | hexadecimal {text digits rest : List Char} {x : Double} (hmark : HasHexMark text digits)
      (hdigits : IsHex digits) (hstop : NotBegins isHexDigit rest)
      (hfits : Digits.value 16 digits < 2 ^ 64)
      (hrounds : Double.Rounds false (Digits.value 16 digits) x) : Spelled (.number x) text rest
  | string {quote : Char} {inside rest : List Char} (hquote : IsQuote quote)
      (hinside : Unclosed quote inside) (hclose : ¬ Escapes inside) :
      Spelled (.string (String.ofList (unescaped inside))) (quote :: (inside ++ [quote])) rest
  | name {c : Char} {more rest : List Char} (hstart : isNameStart c = true)
      (hmore : ∀ c ∈ more, isNameChar c = true) (hstop : NotBegins isNameChar rest) :
      Spelled (.name (String.ofList (c :: more))) (c :: more) rest
  | punct {p : Punct} {rest : List Char}
      (hdecimal : ∀ text, text <+: p.spelling ++ rest → ¬ IsDecimalText text)
      (hlongest : IsLongest IsPunctuation (p.spelling ++ rest) p.spelling) :
      Spelled (.punct p) p.spelling rest

/-- A text that begins like a number in hexadecimal, but has no digits or more than fit. -/
def BadHex (cs : List Char) : Prop :=
  ∃ digits rest, HasHexMark cs (digits ++ rest) ∧ (∀ c ∈ digits, isHexDigit c = true) ∧
    NotBegins isHexDigit rest ∧ (digits = [] ∨ 2 ^ 64 ≤ Digits.value 16 digits)

/-- A character that no token begins with, in front of a rest. -/
structure Stray (c : Char) (rest : List Char) : Prop where
  decimal : ∀ text, text <+: c :: rest → ¬ IsDecimalText text
  quote : ¬ IsQuote c
  name : isNameStart c = false
  punct : ∀ text, text <+: c :: rest → ¬ IsPunctuation text

/-- Why no token is read from a text that stands after `position` characters. -/
inductive Fault (position : Nat) : FormulaError → List Char → Prop where
  | hexadecimal {c : Char} {rest : List Char} (h : BadHex (c :: rest)) :
      Fault position (.unexpectedChar c position) (c :: rest)
  | stray {c : Char} {rest : List Char} (h : Stray c rest) :
      Fault position (.unexpectedChar c position) (c :: rest)
  | unterminated {quote : Char} {rest : List Char} (hquote : IsQuote quote)
      (h : Unclosed quote rest) : Fault position (.unterminatedString position) (quote :: rest)

/-! ### Numbers -/

theorem IsDecimal.spells {text : List Char} {n : Numeral} (h : IsDecimal text n) :
    Numeral.Spells text n := by
  cases h with
  | parts hmantissa _ hpower => exact .parts .absent hmantissa hpower

/-- The value of a number in decimal is what it denotes, correctly rounded. -/
theorem IsDecimal.rounds_value {text : List Char} {n : Numeral} (h : IsDecimal text n) :
    Double.Rounds false n.magnitude n.value := by
  cases h with
  | parts => exact Numeral.rounds_value ⟨false, _, _, _⟩

/-- A number begins with a digit, or with a point and digits behind it. -/
theorem isNumberStart_iff {c : Char} {rest : List Char} : isNumberStart c rest = true ↔
    c.isDigit = true ∨ c = '.' ∧ rest.takeWhile Char.isDigit ≠ [] := by
  rw [isNumberStart, Bool.or_eq_true, Bool.and_eq_true, decide_eq_true_eq]
  cases rest with
  | nil => simp
  | cons d ds => simp [List.takeWhile_cons]

/-- A number in decimal is recognised by its first character and the one behind it. -/
theorem isNumberStart_of_isDecimalText {c : Char} {text rest : List Char}
    (hfront : text <+: c :: rest) (h : IsDecimalText text) : isNumberStart c rest = true := by
  obtain ⟨_, @⟨mantissa, power, whole, fraction, _, hmantissa, hpoint, -⟩⟩ := h
  obtain ⟨behind, hbehind⟩ := hfront
  rw [isNumberStart_iff]
  cases hmantissa with
  | whole hne hwhole =>
    obtain ⟨d, ds, rfl⟩ := List.exists_cons_of_ne_nil hne
    obtain ⟨rfl, -⟩ := List.cons.inj hbehind
    exact .inl (hwhole d (List.mem_cons_self ..))
  | pointed hne hwhole hfraction =>
    cases whole with
    | cons d ds =>
      obtain ⟨rfl, -⟩ := List.cons.inj hbehind
      exact .inl (hwhole d (List.mem_cons_self ..))
    | nil =>
      obtain ⟨d, ds, rfl⟩ := List.exists_cons_of_ne_nil hne
      simp only [List.nil_append, List.cons_append, List.cons.injEq] at hbehind
      obtain ⟨rfl, rfl⟩ := hbehind
      refine .inr ⟨rfl, ?_⟩
      rw [List.takeWhile_cons_of_pos (hfraction d (List.mem_cons_self ..))]
      exact List.cons_ne_nil _ _

private theorem readFraction_point {rest : List Char} (h : rest.takeWhile Char.isDigit ≠ []) :
    readFraction ('.' :: rest) = (rest.takeWhile Char.isDigit, rest.dropWhile Char.isDigit) := by
  rw [readFraction, if_neg (by simpa using h)]

/-- A point without digits behind it is left. -/
theorem readFraction_other {cs : List Char}
    (h : ∀ rest, cs = '.' :: rest → rest.takeWhile Char.isDigit = []) :
    readFraction cs = ([], cs) := by
  unfold readFraction
  split
  · rw [if_pos (by simpa using h _ rfl)]
  · rfl

private theorem readFraction_suffix (cs : List Char) : (readFraction cs).2 <:+ cs := by
  by_cases h : ∃ rest, cs = '.' :: rest ∧ rest.takeWhile Char.isDigit ≠ []
  · obtain ⟨rest, rfl, hne⟩ := h
    rw [readFraction_point hne]
    exact (List.dropWhile_suffix _).trans (List.suffix_cons ..)
  · rw [readFraction_other fun rest hcs => by_contra fun hne => h ⟨rest, hcs, hne⟩]

private theorem scanExponent_rest_suffix (cs : List Char) : (Numeral.scanExponent cs).2 <:+ cs := by
  obtain ⟨power, -, hcs⟩ := Numeral.exists_power cs
  exact ⟨power, hcs.symm⟩

/-- What is read as whole digits and a fraction is a mantissa. -/
theorem exists_mantissa {c : Char} {rest : List Char} (h : isNumberStart c rest = true) :
    ∃ mantissa, IsMantissa mantissa ((c :: rest).takeWhile Char.isDigit)
        (readFraction ((c :: rest).dropWhile Char.isDigit)).1 ∧
      ((readFraction ((c :: rest).dropWhile Char.isDigit)).1 ≠ [] ∨
        mantissa = (c :: rest).takeWhile Char.isDigit) ∧
      c :: rest = mantissa ++ (readFraction ((c :: rest).dropWhile Char.isDigit)).2 := by
  have hsplit : (c :: rest).takeWhile Char.isDigit ++ (c :: rest).dropWhile Char.isDigit =
      c :: rest := List.takeWhile_append_dropWhile
  by_cases hpoint : ∃ more, (c :: rest).dropWhile Char.isDigit = '.' :: more ∧
      more.takeWhile Char.isDigit ≠ []
  · obtain ⟨more, hdrop, hne⟩ := hpoint
    rw [hdrop] at hsplit
    rw [hdrop, readFraction_point hne]
    refine ⟨_, .pointed (List.append_ne_nil_of_right_ne_nil _ hne)
      (fun _ => List.mem_takeWhile_imp) (fun _ => List.mem_takeWhile_imp), .inl hne, ?_⟩
    rw [List.append_assoc, List.cons_append, List.takeWhile_append_dropWhile, hsplit]
  · rw [readFraction_other fun more hdrop => by_contra fun hne => hpoint ⟨more, hdrop, hne⟩]
    -- a number that begins with a point has digits behind it
    have hdigit : c.isDigit = true := by
      refine (isNumberStart_iff.mp h).resolve_right ?_
      rintro ⟨rfl, hrest⟩
      exact hpoint ⟨rest, List.dropWhile_cons_of_neg (by decide), hrest⟩
    refine ⟨_, .whole ?_ (fun _ => List.mem_takeWhile_imp), .inr rfl, hsplit.symm⟩
    rw [List.takeWhile_cons_of_pos hdigit]
    exact List.cons_ne_nil _ _

/-- Behind a power no more is left of a text than behind its digits. -/
private theorem scanExponent_dropWhile_suffix {power : List Char} {exponent : Int}
    (h : IsPower power exponent) (behind : List Char) :
    (Numeral.scanExponent ((power ++ behind).dropWhile Char.isDigit)).2 <:+ behind := by
  cases h with
  | absent => exact (scanExponent_rest_suffix _).trans (List.dropWhile_suffix _)
  | @marked mark sign digits negative hmark hsign hne hdigits =>
    have hletter : mark.isDigit = false := by rcases hmark with rfl | rfl <;> decide
    rw [List.cons_append, List.dropWhile_cons_of_neg (by simp [hletter]), ← List.cons_append]
    exact Numeral.scanExponent_suffix (.marked hmark hsign hne hdigits) behind

/-- Behind a number in decimal at least as much is read. -/
theorem readDecimal_suffix {c : Char} {text rest behind : List Char} (h : IsDecimalText text)
    (hcs : c :: rest = text ++ behind) : (readDecimal c rest).2 <:+ behind := by
  have hread : (readDecimal c rest).2 =
    (Numeral.scanExponent (readFraction ((c :: rest).dropWhile Char.isDigit)).2).2 := rfl
  obtain ⟨_, @⟨mantissa, power, whole, fraction, _, hmantissa, hpoint, hpower⟩⟩ := h
  rw [hread, hcs, List.append_assoc]
  cases hmantissa with
  | whole hne hwhole =>
    rw [List.dropWhile_append_of_pos hwhole]
    cases hpower with
    | absent =>
      exact (scanExponent_rest_suffix _).trans
        ((readFraction_suffix _).trans (List.dropWhile_suffix _))
    | @marked mark sign digits negative hmark hsign hne hdigits =>
      -- the mark is neither a digit nor a point
      have hletter : mark.isDigit = false := by rcases hmark with rfl | rfl <;> decide
      rw [List.cons_append, List.dropWhile_cons_of_neg (by simp [hletter]),
        readFraction_other, ← List.cons_append]
      · exact Numeral.scanExponent_suffix (.marked hmark hsign hne hdigits) behind
      · rintro more heq
        obtain ⟨rfl, -⟩ := List.cons.inj heq
        exact absurd hmark (by decide)
  | pointed hne hwhole hfraction =>
    have hfractional : fraction ≠ [] := hpoint.resolve_right (by simp)
    have hstop : NotBegins Char.isDigit ('.' :: (fraction ++ (power ++ behind))) :=
      notBegins_cons.mpr (by decide)
    rw [List.append_assoc, List.cons_append, Numeral.dropWhile_append hwhole hstop,
      readFraction_point, List.dropWhile_append_of_pos hfraction]
    · exact scanExponent_dropWhile_suffix hpower behind
    · rw [List.takeWhile_append_of_pos hfraction]
      exact List.append_ne_nil_of_left_ne_nil hfractional _

/-- What is read as a decimal number is the longest one in front. -/
theorem exists_of_readDecimal {c : Char} {rest : List Char} (h : isNumberStart c rest = true) :
    ∃ text n, c :: rest = text ++ (readDecimal c rest).2 ∧ IsDecimal text n ∧
      (readDecimal c rest).1 = n.value ∧ IsLongest IsDecimalText (c :: rest) text := by
  obtain ⟨mantissa, hmantissa, hpoint, hcs⟩ := exists_mantissa h
  obtain ⟨power, hpower, hrest⟩ :=
    Numeral.exists_power (readFraction ((c :: rest).dropWhile Char.isDigit)).2
  have htext : c :: rest = mantissa ++ power ++ (readDecimal c rest).2 := by
    rw [List.append_assoc, hcs]
    exact congrArg _ hrest
  have hdecimal := IsDecimal.parts hmantissa hpoint hpower
  refine ⟨_, _, htext, hdecimal, rfl, ⟨_, hdecimal⟩, ⟨_, htext.symm⟩, ?_⟩
  rintro other hother ⟨behind, hbehind⟩
  have hle := (readDecimal_suffix hother hbehind.symm).length_le
  have hlength := congrArg List.length (htext.symm.trans hbehind.symm)
  simp only [List.length_append] at hlength ⊢
  omega

private theorem notBegins_dropWhile (p : Char → Bool) (cs : List Char) :
    NotBegins p (cs.dropWhile p) := by
  intro c hc
  have hstop := List.head?_dropWhile_not p cs
  rw [Option.mem_def.mp hc] at hstop
  exact hstop

theorem readNumber_hex {c : Char} {rest digits : List Char} (h : HasHexMark (c :: rest) digits) :
    readNumber c rest = ((Numeral.readHex (digits.takeWhile isHexDigit)).map Double.ofNat,
      digits.dropWhile isHexDigit) := by
  obtain ⟨rfl | rfl⟩ := h <;> rfl

theorem readNumber_other {c : Char} {rest : List Char}
    (h : ∀ behind, ¬ HasHexMark (c :: rest) behind) :
    readNumber c rest = (some (readDecimal c rest).1, (readDecimal c rest).2) := by
  unfold readNumber
  split
  · exact absurd (.marked (.inl rfl)) (h _)
  · exact absurd (.marked (.inr rfl)) (h _)
  · rfl

/-- What is read as a number in hexadecimal are all the digits behind the mark, if they fit. -/
theorem readHex_takeWhile_eq_some_iff {cs : List Char} {n : Nat} :
    Numeral.readHex (cs.takeWhile isHexDigit) = some n ↔ IsHex (cs.takeWhile isHexDigit) ∧
      Digits.value 16 (cs.takeWhile isHexDigit) < 2 ^ 64 ∧
      Digits.value 16 (cs.takeWhile isHexDigit) = n := by
  rw [Numeral.readHex_of_ne, Numeral.hexValue?_eq_some_iff]
  intro rest hplus
  have hmem : '+' ∈ cs.takeWhile isHexDigit := hplus ▸ List.mem_cons_self ..
  exact absurd (List.mem_takeWhile_imp hmem) (by decide)

theorem HasHexMark.append {text digits : List Char} (h : HasHexMark text digits)
    (rest : List Char) : HasHexMark (text ++ rest) (digits ++ rest) := by
  obtain ⟨hmark⟩ := h
  exact .marked hmark

/-- What is read as a number is spelled so. -/
private theorem spelled_of_readNumber {c : Char} {rest after : List Char} {x : Double}
    (hstart : isNumberStart c rest = true) (h : readNumber c rest = (some x, after)) :
    ∃ text, c :: rest = text ++ after ∧ Spelled (.number x) text after := by
  by_cases hmark : ∃ behind, HasHexMark (c :: rest) behind
  · obtain ⟨behind, hmark⟩ := hmark
    rw [readNumber_hex hmark] at h
    obtain ⟨hread, rfl⟩ := Prod.mk.inj h
    obtain ⟨n, hn, rfl⟩ := Option.map_eq_some_iff.mp hread
    obtain ⟨hdigits, hfits, rfl⟩ := readHex_takeWhile_eq_some_iff.mp hn
    obtain ⟨hletter⟩ := hmark
    refine ⟨_ :: _ :: _, ?_, .hexadecimal (.marked hletter) hdigits (notBegins_dropWhile _ _) hfits
      (Numeral.rounds_ofNat _)⟩
    rw [List.cons_append, List.cons_append, List.takeWhile_append_dropWhile]
  · have hnone : ∀ behind, ¬ HasHexMark (c :: rest) behind := fun behind h => hmark ⟨behind, h⟩
    rw [readNumber_other hnone] at h
    obtain ⟨hread, rfl⟩ := Prod.mk.inj h
    obtain ⟨text, n, hcs, hdecimal, hvalue, hlongest⟩ := exists_of_readDecimal hstart
    rw [← Option.some.inj hread, hvalue]
    rw [hcs] at hnone hlongest
    exact ⟨text, hcs, .decimal hnone hlongest hdecimal hdecimal.rounds_value⟩

/-- A number that cannot be read is one in hexadecimal. -/
private theorem badHex_of_readNumber {c : Char} {rest : List Char}
    (h : (readNumber c rest).1 = none) :
    BadHex (c :: rest) := by
  by_cases hmark : ∃ behind, HasHexMark (c :: rest) behind
  · obtain ⟨behind, hmark⟩ := hmark
    rw [readNumber_hex hmark] at h
    refine ⟨behind.takeWhile isHexDigit, behind.dropWhile isHexDigit, ?_,
      fun _ => List.mem_takeWhile_imp, notBegins_dropWhile _ _, ?_⟩
    · rwa [List.takeWhile_append_dropWhile]
    · by_contra hgood
      obtain ⟨hne, hfits⟩ := not_or.mp hgood
      have hread := readHex_takeWhile_eq_some_iff.mpr
        ⟨⟨hne, fun _ => List.mem_takeWhile_imp⟩, Nat.lt_of_not_le hfits, rfl⟩
      rw [hread] at h
      cases h
  · rw [readNumber_other fun behind h => hmark ⟨behind, h⟩] at h
    cases h

/-! ### Quoted texts -/

theorem not_escapes_nil : ¬ Escapes [] := by decide

theorem escapes_backslash : Escapes ['\\'] := by decide

/-- A character in front that is no backslash escapes nothing further behind. -/
theorem escapes_cons {c : Char} (hc : c ≠ '\\') (cs : List Char) :
    Escapes (c :: cs) ↔ Escapes cs := by
  have hnone : [c].takeWhile (· == '\\') = [] := List.takeWhile_cons_of_neg (by simpa using hc)
  rw [Escapes, Escapes, List.reverse_cons, List.takeWhile_append, hnone]
  split
  next hall => rw [List.append_nil, hall]
  next => rfl

/-- An escaped character and its backslash escape nothing behind them. -/
theorem escapes_escaped (c : Char) (cs : List Char) :
    Escapes ('\\' :: c :: cs) ↔ Escapes cs := by
  rw [Escapes, Escapes, List.reverse_cons, List.reverse_cons, List.append_assoc,
    List.takeWhile_append]
  split
  next hall =>
    rw [List.length_append, hall]
    by_cases hc : c = '\\'
    · subst hc
      exact iff_of_eq (congrArg (· = 1) (Nat.add_mod_right _ 2))
    · have hnone : ([c] ++ ['\\']).takeWhile (· == '\\') = [] :=
        List.takeWhile_cons_of_neg (by simpa using hc)
      rw [hnone, List.length_nil, Nat.add_zero]
  next => rfl

private theorem unescaped_cons {c : Char} (hc : c ≠ '\\') (cs : List Char) :
    unescaped (c :: cs) = c :: unescaped cs := by
  rw [unescaped]
  exact fun _ _ heq => absurd heq hc

theorem unclosed_nil (quote : Char) : Unclosed quote [] := by
  intro before after h
  cases before <;> cases h

theorem unclosed_cons {quote c : Char} {cs : List Char} (hquote : c ≠ quote) (hc : c ≠ '\\')
    (h : Unclosed quote cs) : Unclosed quote (c :: cs) := by
  rintro (_ | ⟨d, before⟩) after heq
  · exact absurd (List.cons.inj heq).1 hquote
  · obtain ⟨rfl, hcs⟩ := List.cons.inj heq
    exact (escapes_cons hc before).mpr (h before after hcs)

theorem unclosed_escaped {quote : Char} (hquote : IsQuote quote) (c : Char) {cs : List Char}
    (h : Unclosed quote cs) : Unclosed quote ('\\' :: c :: cs) := by
  rintro (_ | ⟨d, _ | ⟨e, before⟩⟩) after heq
  · exact absurd ((List.cons.inj heq).1 ▸ hquote) (by decide)
  · rw [← (List.cons.inj heq).1]
    exact escapes_backslash
  · obtain ⟨rfl, hrest⟩ := List.cons.inj heq
    obtain ⟨rfl, hcs⟩ := List.cons.inj hrest
    exact (escapes_escaped _ before).mpr (h before after hcs)

/-- What is read as quoted goes up to the first quote that is not escaped. -/
private theorem exists_of_readQuoted {quote : Char} {cs text after : List Char}
    (hquote : IsQuote quote) (h : readQuoted quote cs = some (text, after)) :
    ∃ inside, cs = inside ++ quote :: after ∧ text = unescaped inside ∧ Unclosed quote inside ∧
      ¬ Escapes inside := by
  fun_induction readQuoted quote cs generalizing text with
  | case1 => cases h
  | case2 => cases h
  | case3 c rest ih =>
    obtain ⟨⟨text, after⟩, hread, heq⟩ := Option.map_eq_some_iff.mp h
    obtain ⟨rfl, rfl⟩ := Prod.mk.inj heq
    obtain ⟨inside, rfl, rfl, hinside, hclose⟩ := ih hread
    exact ⟨'\\' :: c :: inside, rfl, rfl, unclosed_escaped hquote c hinside,
      mt (escapes_escaped c inside).mp hclose⟩
  | case4 rest =>
    obtain ⟨rfl, rfl⟩ := Prod.mk.inj (Option.some.inj h)
    exact ⟨[], rfl, rfl, unclosed_nil _, not_escapes_nil⟩
  | case5 c rest hc hne ih =>
    obtain ⟨⟨text, after⟩, hread, heq⟩ := Option.map_eq_some_iff.mp h
    obtain ⟨rfl, rfl⟩ := Prod.mk.inj heq
    obtain ⟨inside, rfl, rfl, hinside, hclose⟩ := ih hread
    exact ⟨c :: inside, rfl, (unescaped_cons hc inside).symm, unclosed_cons hne hc hinside,
      mt (escapes_cons hc inside).mp hclose⟩

/-- Without a closing quote all quotes are escaped. -/
theorem unclosed_of_readQuoted {quote : Char} {cs : List Char} (hquote : IsQuote quote)
    (h : readQuoted quote cs = none) : Unclosed quote cs := by
  fun_induction readQuoted quote cs with
  | case1 => exact unclosed_nil _
  | case2 =>
    -- a backslash at the end escapes nothing, and is no quote
    rintro (_ | ⟨d, before⟩) after heq
    · exact absurd ((List.cons.inj heq).1 ▸ hquote) (by decide)
    · exact absurd (List.cons.inj heq).2.symm (by simp)
  | case3 c rest ih => exact unclosed_escaped hquote c (ih (Option.map_eq_none_iff.mp h))
  | case4 rest => cases h
  | case5 c rest hc hne ih => exact unclosed_cons hne hc (ih (Option.map_eq_none_iff.mp h))

/-! ### Punctuation -/

/-- The punctuation in front is the longest one. -/
theorem isLongest_of_inFront? {cs : List Char} {p : Punct} (h : Punct.inFront? cs = some p) :
    IsLongest IsPunctuation cs p.spelling := by
  obtain ⟨hfront, before, after, hall, hnone⟩ := List.find?_eq_some_iff_append.mp h
  refine ⟨⟨p, rfl⟩, List.isPrefixOf_iff_prefix.mp hfront, ?_⟩
  rintro _ ⟨q, rfl⟩ hq
  have hsorted := Punct.all_sorted
  rw [hall, List.pairwise_append, List.pairwise_cons] at hsorted
  have hmem := Punct.mem_all q
  rw [hall, List.mem_append, List.mem_cons] at hmem
  rcases hmem with hmem | rfl | hmem
  · have hbefore := hnone q hmem
    rw [List.isPrefixOf_iff_prefix.mpr hq] at hbefore
    cases hbefore
  · exact Nat.le_refl _
  · exact hsorted.2.1.1 q hmem

theorem not_isPunctuation_of_inFront? {cs : List Char} (h : Punct.inFront? cs = none) :
    ∀ text, text <+: cs → ¬ IsPunctuation text := by
  rintro _ hfront ⟨p, rfl⟩
  exact List.find?_eq_none.mp h p (Punct.mem_all p) (List.isPrefixOf_iff_prefix.mpr hfront)

/-! ### The token in front of a text -/

variable {position : Nat} {c : Char} {rest after : List Char} {token : Token} {e : FormulaError}

/-- A token that is read is spelled by just the characters that are taken. -/
theorem spelled_of_read (h : read position c rest = .ok (token, after)) :
    ∃ text, c :: rest = text ++ after ∧ Spelled token text after := by
  unfold read at h
  split_ifs at h with hnumber hquote hname
  · split at h
    next x behind hread =>
      cases h
      exact spelled_of_readNumber hnumber hread
    next => cases h
  · split at h
    next text behind hread =>
      cases h
      obtain ⟨inside, rfl, rfl, hinside, hclose⟩ := exists_of_readQuoted hquote hread
      exact ⟨c :: (inside ++ [c]), by simp, .string hquote hinside hclose⟩
    next => cases h
  · cases h
    refine ⟨c :: rest.takeWhile isNameChar, ?_,
      .name hname (fun _ => List.mem_takeWhile_imp) (notBegins_dropWhile _ _)⟩
    rw [List.cons_append, List.takeWhile_append_dropWhile]
  · split at h
    next p hp =>
      cases h
      have hlongest := isLongest_of_inFront? hp
      have hcs : p.spelling ++ (c :: rest).drop p.spelling.length = c :: rest :=
        List.prefix_iff_eq_append.mp hlongest.front
      refine ⟨p.spelling, hcs.symm, .punct ?_ ?_⟩
      · rw [hcs]
        exact fun text hfront htext => hnumber (isNumberStart_of_isDecimalText hfront htext)
      · rwa [hcs]
    next => cases h

/-- Reading fails only for a fault. -/
theorem fault_of_read (h : read position c rest = .error e) : Fault position e (c :: rest) := by
  unfold read at h
  split_ifs at h with hnumber hquote hname
  · split at h
    next => cases h
    next behind hread =>
      cases h
      exact .hexadecimal (badHex_of_readNumber (congrArg Prod.fst hread))
  · split at h
    next => cases h
    next hread =>
      cases h
      exact .unterminated hquote (unclosed_of_readQuoted hquote hread)
  · split at h
    next => cases h
    next hnone =>
      cases h
      exact .stray ⟨fun text hfront htext => hnumber (isNumberStart_of_isDecimalText hfront htext),
        hquote, Bool.eq_false_iff.mpr hname, not_isPunctuation_of_inFront? hnone⟩

end LiveText.Lexeme
