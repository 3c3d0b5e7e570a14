import LiveText.Proofs.Formula.Spelling

/-!
# The places of tokens

The tokens of a text lie one behind the other, each where it says, and nothing is left between them
but blanks. Where a text has no tokens, the failure names a place and what stands there:
`tokens_account`.
-/

namespace LiveText.Lexeme

open Text

/-! ### Texts laid out as tokens -/

/-- A token and the places of a text that it takes, from its position up to `stop`. -/
structure Span where
  placed : PlacedToken
  stop : Nat
deriving DecidableEq

/-- Whether a span takes a place. -/
def Span.Covers (span : Span) (i : Nat) : Prop := span.placed.position ≤ i ∧ i < span.stop

/-- What may stand behind the last token: nothing, or a semicolon with blanks behind it. -/
def IsEnding (cs : List Char) : Prop :=
  cs = [] ∨ ∃ blanks, cs = ';' :: blanks ∧ ∀ c ∈ blanks, isBlank c = true

/-- A text that stands after `position` characters is laid out as spans of tokens, blanks and an
ending. -/
inductive Layout : Nat → List Char → List Span → Prop where
  | ending {position : Nat} {cs : List Char} (h : IsEnding cs) : Layout position cs []
  | blank {position : Nat} {c : Char} {rest : List Char} {spans : List Span}
      (hblank : isBlank c = true) (h : Layout (position + 1) rest spans) :
      Layout position (c :: rest) spans
  | token {position : Nat} {token : Token} {text rest : List Char} {spans : List Span}
      (hspelled : Spelled token text rest) (h : Layout (position + text.length) rest spans) :
      Layout position (text ++ rest) (⟨⟨token, position⟩, position + text.length⟩ :: spans)

/-- The place behind a token is as far on as the token is long. -/
theorem position_behind {position : Nat} {c : Char} {text rest after : List Char}
    (h : c :: rest = text ++ after) (hle : after.length ≤ rest.length) :
    position + 1 + (rest.length - after.length) = position + text.length := by
  have hlength := congrArg List.length h
  rw [List.length_append, List.length_cons] at hlength
  omega

/-- The tokens that are read lay the text out. -/
theorem exists_layout {position : Nat} {cs : List Char} {ts : List PlacedToken}
    (h : tokens position cs = .ok ts) :
    ∃ spans, spans.map Span.placed = ts ∧ Layout position cs spans := by
  fun_induction tokens position cs generalizing ts with
  | case1 =>
    cases h
    exact ⟨[], rfl, .ending (.inl rfl)⟩
  | case2 position c rest hblank ih =>
    obtain ⟨spans, hspans, hlayout⟩ := ih h
    exact ⟨spans, hspans, .blank hblank hlayout⟩
  | case3 position c rest hblank hend =>
    obtain ⟨rfl, hrest⟩ := hend
    cases h
    exact ⟨[], rfl, .ending (.inr ⟨rest, rfl, List.all_eq_true.mp hrest⟩)⟩
  | case4 => cases h
  | case5 => cases h
  | case6 position c rest hblank hend token after hread more hmore ih =>
    cases h
    obtain ⟨text, hcs, hspelled⟩ := spelled_of_read hread
    obtain ⟨spans, rfl, hlayout⟩ := ih hmore
    rw [position_behind hcs (length_of_read hread)] at hlayout
    rw [hcs]
    exact ⟨_, rfl, .token hspelled hlayout⟩

/-- A text without tokens has a fault at some place. -/
theorem exists_fault {position : Nat} {cs : List Char} {e : FormulaError}
    (h : tokens position cs = .error e) :
    ∃ before rest, cs = before ++ rest ∧ Fault (position + before.length) e rest := by
  fun_induction tokens position cs with
  | case1 => cases h
  | case2 position c rest hblank ih =>
    obtain ⟨before, behind, rfl, hfault⟩ := ih h
    refine ⟨c :: before, behind, rfl, ?_⟩
    rwa [List.length_cons, Nat.add_comm before.length, ← Nat.add_assoc]
  | case3 => cases h
  | case4 position c rest hblank hend e' hread =>
    cases h
    exact ⟨[], c :: rest, rfl, fault_of_read hread⟩
  | case5 position c rest hblank hend token after hread e' herror ih =>
    cases h
    obtain ⟨text, hcs, -⟩ := spelled_of_read hread
    obtain ⟨before, behind, rfl, hfault⟩ := ih herror
    refine ⟨text ++ before, behind, by rw [hcs, List.append_assoc], ?_⟩
    rwa [List.length_append, ← Nat.add_assoc, ← position_behind hcs (length_of_read hread)]
  | case6 => cases h

/-! ### What a layout says of the places of a text -/

/-- The spans account for a text: each is where its token is spelled, none begins before the last
one ends, and the other characters are blank up to the ending. -/
structure Accounts (cs : List Char) (spans : List Span) : Prop where
  spelled : ∀ span ∈ spans, ∃ text rest, cs.drop span.placed.position = text ++ rest ∧
    span.stop = span.placed.position + text.length ∧ Spelled span.placed.token text rest
  inOrder : spans.Pairwise fun a b => a.stop ≤ b.placed.position
  outside : ∃ front ending, cs = front ++ ending ∧ IsEnding ending ∧
    (∀ span ∈ spans, span.stop ≤ front.length) ∧
    ∀ i c, front[i]? = some c → (∀ span ∈ spans, ¬ span.Covers i) → isBlank c = true

namespace Layout

variable {position : Nat} {cs : List Char} {spans : List Span}

private theorem position_le (h : Layout position cs spans) :
    ∀ span ∈ spans, position ≤ span.placed.position := by
  induction h with
  | ending => exact fun _ h => nomatch h
  | blank _ _ ih => exact fun span hspan => Nat.le_of_succ_le (ih span hspan)
  | token _ _ ih =>
    rintro span (_ | ⟨_, hspan⟩)
    · exact Nat.le_refl _
    · exact Nat.le_trans (Nat.le_add_right ..) (ih span hspan)

private theorem spelled (h : Layout position cs spans) : ∀ span ∈ spans, ∃ i text rest,
    span.placed.position = position + i ∧ cs.drop i = text ++ rest ∧
      span.stop = span.placed.position + text.length ∧ Spelled span.placed.token text rest := by
  induction h with
  | ending => exact fun _ h => nomatch h
  | blank _ _ ih =>
    intro span hspan
    obtain ⟨i, text, rest, hposition, hdrop, h⟩ := ih span hspan
    exact ⟨i + 1, text, rest, by omega, hdrop, h⟩
  | @token _ _ first _ _ hspelled _ ih =>
    rintro span (_ | ⟨_, hspan⟩)
    · exact ⟨0, first, _, rfl, rfl, rfl, hspelled⟩
    · obtain ⟨i, text, rest, hposition, hdrop, h⟩ := ih span hspan
      refine ⟨first.length + i, text, rest, by omega, ?_, h⟩
      rw [← List.drop_drop, List.drop_left, hdrop]

private theorem inOrder (h : Layout position cs spans) :
    spans.Pairwise fun a b => a.stop ≤ b.placed.position := by
  induction h with
  | ending => exact .nil
  | blank _ _ ih => exact ih
  | token _ h ih => exact .cons h.position_le ih

private theorem outside (h : Layout position cs spans) : ∃ front ending, cs = front ++ ending ∧
    IsEnding ending ∧ (∀ span ∈ spans, span.stop ≤ position + front.length) ∧
    ∀ i c, front[i]? = some c → (∀ span ∈ spans, ¬ span.Covers (position + i)) →
      isBlank c = true := by
  induction h with
  | @ending _ cs h => exact ⟨[], cs, rfl, h, by simp, by simp⟩
  | @blank _ c _ spans hblank _ ih =>
    obtain ⟨front, ending, rfl, hending, hstop, hbetween⟩ := ih
    refine ⟨c :: front, ending, rfl, hending, fun span hspan => ?_, ?_⟩
    · have := hstop span hspan
      rw [List.length_cons]
      omega
    · rintro (_ | i) d hd huncovered
      · rwa [← Option.some.inj hd]
      · refine hbetween i d hd fun span hspan hcovers => huncovered span hspan ?_
        rwa [Nat.add_comm i, ← Nat.add_assoc]
  | @token position _ text _ spans _ _ ih =>
    obtain ⟨front, ending, rfl, hending, hstop, hbetween⟩ := ih
    refine ⟨text ++ front, ending, (List.append_assoc ..).symm, hending, ?_, ?_⟩
    · rintro span (_ | ⟨_, hspan⟩)
      · rw [List.length_append]
        dsimp only
        omega
      · have := hstop span hspan
        rw [List.length_append]
        omega
    · intro i c hc huncovered
      -- the places of the first token are covered, and those behind it are counted from its end
      have hi : text.length ≤ i := by
        by_contra hlt
        exact huncovered _ (List.mem_cons_self ..) ⟨Nat.le_add_right .., by dsimp only; omega⟩
      rw [List.getElem?_append_right hi] at hc
      refine hbetween _ c hc fun span hspan hcovers =>
        huncovered span (List.mem_cons_of_mem _ hspan) ?_
      rwa [Nat.add_assoc, Nat.add_sub_of_le hi] at hcovers

private theorem accounts (h : Layout 0 cs spans) : Accounts cs spans where
  spelled span hspan := by
    obtain ⟨i, text, rest, hposition, hdrop, hspelled⟩ := h.spelled span hspan
    rw [Nat.zero_add] at hposition
    exact ⟨text, rest, hposition ▸ hdrop, hspelled⟩
  inOrder := h.inOrder
  outside := by simpa only [Nat.zero_add] using h.outside

end Layout

/-- The tokens of a text take places in order that account for all of it. Where there are none, a
character that is complained about stands at the place that is named, and is the zero of a number in
hexadecimal without digits or with too many, or begins no token; an unterminated text is a quote
there, behind which every equal quote is escaped. -/
theorem tokens_account (source : String) :
    (∀ ts, tokens 0 source.toList = .ok ts →
      ∃ spans, spans.map Span.placed = ts ∧ Accounts source.toList spans) ∧
    (∀ c i, tokens 0 source.toList = .error (.unexpectedChar c i) →
      ∃ rest, source.toList.drop i = c :: rest ∧ (BadHex (c :: rest) ∨ Stray c rest)) ∧
    (∀ i, tokens 0 source.toList = .error (.unterminatedString i) →
      ∃ quote rest, source.toList.drop i = quote :: rest ∧ IsQuote quote ∧ Unclosed quote rest) ∧
    ∀ e, tokens 0 source.toList = .error e →
      (∃ c i, e = .unexpectedChar c i) ∨ ∃ i, e = .unterminatedString i := by
  have hdrop (before rest : List Char) : (before ++ rest).drop (0 + before.length) = rest := by
    rw [Nat.zero_add, List.drop_left]
  refine ⟨fun ts h => ?_, fun c i h => ?_, fun i h => ?_, fun e h => ?_⟩
  · obtain ⟨spans, hspans, hlayout⟩ := exists_layout h
    exact ⟨spans, hspans, hlayout.accounts⟩
  · obtain ⟨before, rest, hcs, hfault⟩ := exists_fault h
    rw [hcs]
    cases hfault with
    | hexadecimal hbad => exact ⟨_, hdrop _ _, .inl hbad⟩
    | stray hstray => exact ⟨_, hdrop _ _, .inr hstray⟩
  · obtain ⟨before, rest, hcs, hfault⟩ := exists_fault h
    rw [hcs]
    cases hfault with
    | unterminated hquote hunclosed => exact ⟨_, _, hdrop _ _, hquote, hunclosed⟩
  · obtain ⟨before, rest, -, hfault⟩ := exists_fault h
    cases hfault with
    | hexadecimal => exact .inl ⟨_, _, rfl⟩
    | stray => exact .inl ⟨_, _, rfl⟩
    | unterminated => exact .inr ⟨_, rfl⟩

/-- A text with a letter outside ASCII, tokens of each kind, and an ending. -/
def sampleSource : String := "é+'a\\'b' >= .5e1 ; "

theorem tokens_account_sample :
    (∃ spans, spans.map Span.placed = [⟨.name "é", 0⟩, ⟨.punct .plus, 1⟩, ⟨.string "a'b", 2⟩,
        ⟨.punct .atLeast, 9⟩, ⟨.number (Double.ofNat 5), 12⟩] ∧
      Accounts sampleSource.toList spans) ∧
    (∃ rest, "1 + 0xg".toList.drop 4 = '0' :: rest ∧
      (BadHex ('0' :: rest) ∨ Stray '0' rest)) ∧
    ∃ quote rest, "a + 'b\\'".toList.drop 4 = quote :: rest ∧ IsQuote quote ∧
      Unclosed quote rest :=
  ⟨(tokens_account sampleSource).1 _ (by decide +kernel),
    (tokens_account "1 + 0xg").2.1 '0' 4 (by decide +kernel),
    (tokens_account "a + 'b\\'").2.2.1 4 (by decide +kernel)⟩

end LiveText.Lexeme
