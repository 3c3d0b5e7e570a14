import LiveText.Formula.Error
import LiveText.Number.Numeral
import LiveText.Text.Letters

/-!
# Tokens in a text

A formula is cut into tokens from left to right: numbers, quoted texts, names, and the longest
punctuation that fits. Blanks separate tokens, and one semicolon may end the formula.
`length_of_read` says that every token takes at least one character.
-/

namespace LiveText.Lexeme

open Text

/-- Whether a character may stand in front of a name. -/
def isNameStart (c : Char) : Bool := isAlphabetic c || c = '_' || c = '$'

/-- Whether a character may stand in a name. -/
def isNameChar (c : Char) : Bool := isAlphanumeric c || c = '_' || c = '$'

/-- Whether a number begins with `c`, followed by `rest`: a point needs a digit after it. -/
def isNumberStart (c : Char) (rest : List Char) : Bool :=
  c.isDigit || (c = '.' && rest.head?.any Char.isDigit)

/-- Whether a character is a hexadecimal digit. -/
def isHexDigit (c : Char) : Bool := (Digits.inBase? 16 c).isSome

/-- The digits after a point, if digits follow one, and the text after them. -/
def readFraction (cs : List Char) : List Char × List Char :=
  match cs with
  | '.' :: rest =>
    let fraction := rest.takeWhile Char.isDigit
    if fraction.isEmpty then ([], cs) else (fraction, rest.dropWhile Char.isDigit)
  | _ => ([], cs)

/-- The decimal number that begins with `c`, and the text after it. -/
def readDecimal (c : Char) (rest : List Char) : Double × List Char :=
  let whole := (c :: rest).takeWhile Char.isDigit
  let (fraction, after) := readFraction ((c :: rest).dropWhile Char.isDigit)
  let (exponent, after) := Numeral.scanExponent after
  (Numeral.value ⟨false, whole, fraction, exponent⟩, after)

/-- The number that begins with `c`, unless hexadecimal digits are missing or too many, and the text
after it. -/
def readNumber (c : Char) (rest : List Char) : Option Double × List Char :=
  match c, rest with
  | '0', 'x' :: digits | '0', 'X' :: digits =>
    ((Numeral.readHex (digits.takeWhile isHexDigit)).map Double.ofNat, digits.dropWhile isHexDigit)
  | _, _ =>
    let (x, after) := readDecimal c rest
    (some x, after)

/-- The character that an escaped one stands for. -/
def unescapeChar : Char → Char
  | 'n' => '\n'
  | 't' => '\t'
  | 'r' => '\r'
  | c => c

/-- The text up to the closing quote, with escapes resolved, and the text after the quote. -/
def readQuoted (quote : Char) : List Char → Option (List Char × List Char)
  | [] => none
  | '\\' :: rest =>
    match rest with
    | [] => none
    | c :: rest => (readQuoted quote rest).map fun (text, after) => (unescapeChar c :: text, after)
  | c :: rest =>
    if c = quote then some ([], rest)
    else (readQuoted quote rest).map fun (text, after) => (c :: text, after)

/-- The token that begins with `c`, which is not blank, and the text after it. -/
def read (position : Nat) (c : Char) (rest : List Char) : Except FormulaError (Token × List Char) :=
  if isNumberStart c rest then
    match readNumber c rest with
    | (some x, after) => .ok (.number x, after)
    | (none, _) => .error (.unexpectedChar c position)
  else if c = '\'' ∨ c = '"' then
    match readQuoted c rest with
    | some (text, after) => .ok (.string (String.ofList text), after)
    | none => .error (.unterminatedString position)
  else if isNameStart c then
    .ok (.name (String.ofList (c :: rest.takeWhile isNameChar)), rest.dropWhile isNameChar)
  else
    match Punct.inFront? (c :: rest) with
    | some p => .ok (.punct p, (c :: rest).drop p.spelling.length)
    | none => .error (.unexpectedChar c position)

theorem length_dropWhile_le (p : Char → Bool) (cs : List Char) :
    (cs.dropWhile p).length ≤ cs.length :=
  (List.dropWhile_suffix p).length_le

theorem length_of_scanExponent (cs : List Char) :
    (Numeral.scanExponent cs).2.length ≤ cs.length := by
  unfold Numeral.scanExponent
  split
  next c rest =>
    split
    · have hsign : (Numeral.scanSign rest).2.length ≤ rest.length := by
        unfold Numeral.scanSign
        split <;> simp
      dsimp only
      split
      · simp
      · have := length_dropWhile_le Char.isDigit (Numeral.scanSign rest).2
        simp only [List.length_cons]
        omega
    · simp
  next => simp

theorem length_of_readFraction (cs : List Char) : (readFraction cs).2.length ≤ cs.length := by
  unfold readFraction
  split
  next rest =>
    dsimp only
    split
    · simp
    · have := length_dropWhile_le Char.isDigit rest
      simp only [List.length_cons]
      omega
  next => simp

theorem length_of_readQuoted {quote : Char} {cs text after : List Char}
    (h : readQuoted quote cs = some (text, after)) : after.length < cs.length := by
  fun_induction readQuoted quote cs generalizing text with
  | case1 => simp at h
  | case2 => simp at h
  | case3 c rest ih =>
    obtain ⟨⟨t, a⟩, hread, heq⟩ := Option.map_eq_some_iff.1 h
    simp only [Prod.mk.injEq] at heq
    obtain ⟨_, rfl⟩ := heq
    have := ih hread
    simp only [List.length_cons]
    omega
  | case4 rest => simp_all
  | case5 c rest _ _ ih =>
    obtain ⟨⟨t, a⟩, hread, heq⟩ := Option.map_eq_some_iff.1 h
    simp only [Prod.mk.injEq] at heq
    obtain ⟨_, rfl⟩ := heq
    have := ih hread
    simp only [List.length_cons]
    omega

/-- A number takes at least its first character. -/
theorem length_of_readNumber {c : Char} {rest : List Char} (h : isNumberStart c rest) :
    (readNumber c rest).2.length ≤ rest.length := by
  have decimal : (readDecimal c rest).2.length ≤ rest.length := by
    have hexp := length_of_scanExponent (readFraction ((c :: rest).dropWhile Char.isDigit)).2
    have hfrac : (readFraction ((c :: rest).dropWhile Char.isDigit)).2.length ≤ rest.length := by
      by_cases hc : c.isDigit
      · have h1 := length_of_readFraction ((c :: rest).dropWhile Char.isDigit)
        have h2 := length_dropWhile_le Char.isDigit rest
        simp only [List.dropWhile_cons, hc, if_true] at h1 ⊢
        omega
      · simp only [isNumberStart, hc, Bool.false_or, Bool.and_eq_true, decide_eq_true_eq] at h
        obtain ⟨rfl, hdigit⟩ := h
        have hne : rest.takeWhile Char.isDigit ≠ [] := by
          cases rest with
          | nil => simp at hdigit
          | cons d ds =>
            have hd : d.isDigit = true := by simpa using hdigit
            simp [hd]
        have hdrop : ('.' :: rest).dropWhile Char.isDigit = '.' :: rest := by
          simp [hc]
        rw [hdrop]
        simp only [readFraction, List.isEmpty_iff, hne, if_false]
        exact length_dropWhile_le Char.isDigit rest
    simp only [readDecimal]
    omega
  unfold readNumber
  split
  next digits =>
    have := length_dropWhile_le isHexDigit digits
    simp only [List.length_cons]
    omega
  next digits =>
    have := length_dropWhile_le isHexDigit digits
    simp only [List.length_cons]
    omega
  next => exact decimal

/-- Every token takes at least one character. -/
theorem length_of_read {position : Nat} {c : Char} {rest after : List Char} {token : Token}
    (h : read position c rest = .ok (token, after)) : after.length ≤ rest.length := by
  unfold read at h
  split at h
  next hnum =>
    split at h
    next x a hread =>
      simp only [Except.ok.injEq, Prod.mk.injEq] at h
      have := length_of_readNumber hnum
      rw [hread] at this
      rw [← h.2]
      exact this
    next => simp at h
  next =>
    split at h
    next =>
      split at h
      next text a hread =>
        simp only [Except.ok.injEq, Prod.mk.injEq] at h
        have := length_of_readQuoted hread
        rw [← h.2]
        omega
      next => simp at h
    next =>
      split at h
      next =>
        simp only [Except.ok.injEq, Prod.mk.injEq] at h
        rw [← h.2]
        exact length_dropWhile_le isNameChar rest
      next =>
        split at h
        next p hp =>
          simp only [Except.ok.injEq, Prod.mk.injEq] at h
          have hpos := List.length_pos_iff.2 (Punct.spelling_ne_nil p)
          rw [← h.2]
          simp only [List.length_drop, List.length_cons]
          omega
        next => simp at h

/-- The tokens of a text that stands after `position` characters. -/
def tokens (position : Nat) : List Char → Except FormulaError (List PlacedToken)
  | [] => .ok []
  | c :: rest =>
    if isBlank c then tokens (position + 1) rest
    else if c = ';' ∧ rest.all isBlank then .ok []
    else
      match _h : read position c rest with
      | .error e => .error e
      | .ok (token, after) =>
        match tokens (position + 1 + (rest.length - after.length)) after with
        | .error e => .error e
        | .ok more => .ok (⟨token, position⟩ :: more)
termination_by cs => cs.length
decreasing_by
  · exact Nat.lt_succ_self _
  · exact Nat.lt_succ_of_le (length_of_read _h)

end LiveText.Lexeme
