import Mathlib
import LiveText.Proofs.Number.Numeral
import LiveText.Proofs.Text.Trim

/-!
# Lenient and strict reading of numbers

Lenient reading takes the longest numeral that a text begins with, or the word for an infinity:
`readPrefix_longest`. Strict reading is that of the grammar `Strict` on all texts but those that
have a plus sign between `0x` and their digits: `readWhole_strict_iff`.
-/

namespace LiveText.Numeral

open Text

/-! ### Texts that spell a numeral -/

/-- No blank stands in a numeral. -/
theorem Spells.isBlank_eq_false {cs : List Char} {n : Numeral} (h : Spells cs n) :
    ∀ c ∈ cs, isBlank c = false := by
  intro c hc
  rcases h.mem hc with hdigit | hmark
  · exact isBlank_of_isDigit hdigit
  · have all : marks.all (fun c => !isBlank c) = true := by decide
    simpa using List.all_eq_true.mp all c hmark

/-- The word for an infinity is no part of a numeral. -/
theorem Spells.not_infix_infinityWord {cs : List Char} {n : Numeral} (h : Spells cs n)
    (sign rest : List Char) : cs ≠ sign ++ (infinityWord ++ rest) := by
  rintro rfl
  exact h.not_mem (c := 'I') (by decide) (by decide)
    (List.mem_append_right _ (List.mem_append_left _ (by decide)))

/-- The mark of hexadecimal digits is no part of a numeral. -/
theorem Spells.hexMark_not_mem {cs : List Char} {n : Numeral} (h : Spells cs n) {mark : Char}
    (hmark : mark = 'x' ∨ mark = 'X') : mark ∉ cs := by
  rcases hmark with rfl | rfl
  · exact h.not_mem (by decide) (by decide)
  · exact h.not_mem (by decide) (by decide)

/-! ### Lenient reading -/

/-- A text begins with the word for an infinity, with a sign or without. -/
def BeginsInfinite (cs : List Char) (negative : Bool) : Prop :=
  ∃ sign, IsSign sign negative ∧ sign ++ infinityWord <+: cs

/-- The longest text of a class that a text begins with. -/
structure IsLongest (p : List Char → Prop) (cs taken : List Char) : Prop where
  mem : p taken
  front : taken <+: cs
  longest : ∀ other, p other → other <+: cs → other.length ≤ taken.length

theorem IsLongest.unique {p : List Char → Prop} {cs taken other : List Char}
    (h : IsLongest p cs taken) (h' : IsLongest p cs other) : taken = other := by
  have hlength := Nat.le_antisymm (h'.longest taken h.mem h.front) (h.longest other h'.mem h'.front)
  exact (List.prefix_of_prefix_length_le h.front h'.front hlength.le).eq_of_length hlength

/-- A text that spells a numeral. -/
def IsNumeral (cs : List Char) : Prop := ∃ n, Spells cs n

/-- The number at the beginning of a text: an infinity by its word, or else what the longest numeral
in front denotes, correctly rounded; `nan` if there is none. -/
inductive Lenient (cs : List Char) : Double → Prop where
  | infinity {negative : Bool} (h : BeginsInfinite cs negative) : Lenient cs (.infinity negative)
  | numeral {taken : List Char} {n : Numeral} {x : Double}
      (hword : ∀ negative, ¬ BeginsInfinite cs negative) (hlongest : IsLongest IsNumeral cs taken)
      (hspells : Spells taken n) (hrounds : Double.Rounds n.negative n.magnitude x) : Lenient cs x
  | none (hword : ∀ negative, ¬ BeginsInfinite cs negative)
      (hnone : ∀ taken, taken <+: cs → ¬ IsNumeral taken) : Lenient cs .nan

private theorem infinityWord_eq : infinityWord = ['I', 'n', 'f', 'i', 'n', 'i', 't', 'y'] :=
  by decide

/-- The word for an infinity does not begin with a sign. -/
theorem notBegins_infinityWord (rest : List Char) :
    NotBegins isSignChar (infinityWord ++ rest) := by
  rw [infinityWord_eq, List.cons_append, notBegins_cons]
  decide

/-- The word for an infinity is looked for behind the sign. -/
theorem beginsInfinite_iff {cs : List Char} {negative : Bool} :
    BeginsInfinite cs negative ↔ (scanSign cs).1 = negative ∧ infinityWord <+: (scanSign cs).2 := by
  constructor
  · rintro ⟨sign, hsign, rest, rfl⟩
    rw [List.append_assoc, scanSign_append hsign (notBegins_infinityWord rest)]
    exact ⟨rfl, List.prefix_append ..⟩
  · rintro ⟨rfl, rest, hrest⟩
    obtain ⟨sign, hsign, hcs⟩ := exists_sign cs
    exact ⟨sign, hsign, rest, by rw [List.append_assoc, hrest, ← hcs]⟩

/-- What is scanned is the longest numeral in front of the text. -/
private theorem isLongest_of_scan {cs rest : List Char} {n : Numeral}
    (h : scan cs = some (n, rest)) :
    ∃ taken, Spells taken n ∧ IsLongest IsNumeral cs taken := by
  obtain ⟨taken, hspells, hcs⟩ := exists_of_scan h
  refine ⟨taken, hspells, ⟨n, hspells⟩, ⟨rest, hcs.symm⟩, ?_⟩
  rintro other ⟨m, hother⟩ ⟨behind, hbehind⟩
  obtain ⟨m', after, hscan, hafter⟩ := exists_scan_append hother behind
  rw [hbehind, h] at hscan
  cases hscan
  have hlength : taken.length + rest.length = other.length + behind.length := by
    rw [← List.length_append, ← List.length_append, ← hcs, hbehind]
  have hle := hafter.length_le
  omega

/-- If nothing is scanned, no numeral stands in front of the text. -/
private theorem not_isNumeral_of_scan {cs taken : List Char} (h : scan cs = none)
    (hfront : taken <+: cs) :
    ¬ IsNumeral taken := by
  rintro ⟨n, hspells⟩
  obtain ⟨rest, rfl⟩ := hfront
  obtain ⟨m, after, hscan, -⟩ := exists_scan_append hspells rest
  rw [h] at hscan
  cases hscan

theorem readPrefix_eq (cs : List Char) : readPrefix cs =
    if infinityWord.isPrefixOf (scanSign (trimStart cs)).2 then
      .infinity (scanSign (trimStart cs)).1
    else match scan (trimStart cs) with
      | some (n, _) => n.value
      | none => .nan := rfl

/-- A text that spells a numeral is read as what it denotes. -/
theorem readPrefix_of_spells {cs : List Char} {n : Numeral} (h : Spells cs n) :
    readPrefix cs = n.value := by
  have hword : ¬ infinityWord.isPrefixOf (scanSign cs).2 = true := by
    intro hinfinite
    obtain ⟨sign, -, rest, hcs⟩ :=
      beginsInfinite_iff.mpr ⟨rfl, List.isPrefixOf_iff_prefix.mp hinfinite⟩
    exact h.not_infix_infinityWord sign rest (hcs.symm.trans (List.append_assoc ..))
  rw [readPrefix_eq, trimStart_of_not_isBlank h.isBlank_eq_false, if_neg hword, scan_of_spells h]

/-- Lenient reading reads the number at the beginning. -/
theorem lenient_readPrefix (cs : List Char) : Lenient (trimStart cs) (readPrefix cs) := by
  rw [readPrefix_eq]
  split_ifs with hinfinite
  · exact .infinity (beginsInfinite_iff.mpr ⟨rfl, List.isPrefixOf_iff_prefix.mp hinfinite⟩)
  · have hword (negative : Bool) : ¬ BeginsInfinite (trimStart cs) negative :=
      fun h => hinfinite (List.isPrefixOf_iff_prefix.mpr (beginsInfinite_iff.mp h).2)
    cases hscan : scan (trimStart cs) with
    | none => exact .none hword fun taken hfront => not_isNumeral_of_scan hscan hfront
    | some result =>
      obtain ⟨taken, hspells, hlongest⟩ := isLongest_of_scan hscan
      exact .numeral hword hlongest hspells (rounds_value result.1)

/-- A text begins with one number only. -/
theorem Lenient.unique {cs : List Char} {x y : Double} (hx : Lenient cs x) (hy : Lenient cs y) :
    x = y := by
  cases hx with
  | infinity h =>
    cases hy with
    | infinity h' => rw [← (beginsInfinite_iff.mp h).1, (beginsInfinite_iff.mp h').1]
    | numeral hword => exact absurd h (hword _)
    | none hword => exact absurd h (hword _)
  | numeral hword hlongest hspells hrounds =>
    cases hy with
    | infinity h' => exact absurd h' (hword _)
    | numeral _ hlongest' hspells' hrounds' =>
      cases hlongest.unique hlongest'
      cases hspells.unique hspells'
      exact hrounds.unique hrounds'
    | none _ hnone => exact absurd hlongest.mem (hnone _ hlongest.front)
  | none hword hnone =>
    cases hy with
    | infinity h' => exact absurd h' (hword _)
    | numeral _ hlongest' => exact absurd hlongest'.mem (hnone _ hlongest'.front)
    | none => rfl

/-- Reading leniently gives, after blanks, the infinity whose word stands in front, and else what
the longest numeral in front denotes; it is `nan` exactly if there is neither. -/
theorem readPrefix_longest (cs : List Char) :
    (∀ x, readPrefix cs = x ↔ Lenient (trimStart cs) x) ∧
    (readPrefix cs = .nan ↔ (∀ negative, ¬ BeginsInfinite (trimStart cs) negative) ∧
      ∀ taken, taken <+: trimStart cs → ¬ IsNumeral taken) := by
  have hread := lenient_readPrefix cs
  refine ⟨fun x => ⟨fun h => h ▸ hread, fun h => hread.unique h⟩, fun hnan => ?_, fun h => ?_⟩
  · rw [hnan] at hread
    cases hread with
    | numeral hword hlongest hspells hrounds => exact absurd rfl hrounds.ne_nan
    | none hword hnone => exact ⟨hword, hnone⟩
  · exact hread.unique (.none h.1 h.2)

example : readPrefix " -1.5e+x".toList = Double.ofDecimal true 15 (-1) := by decide +kernel

/-! ### Strict reading -/

/-- Hexadecimal digits, at least one. -/
def IsHex (digits : List Char) : Prop :=
  digits ≠ [] ∧ ∀ c ∈ digits, (Digits.inBase? 16 c).isSome = true

/-- The numbers that whole texts are: none at all is zero, an infinity is a word, hexadecimal digits
of at most 64 bits stand behind `0x`, and a numeral is what it denotes, correctly rounded. -/
inductive Strict : List Char → Double → Prop where
  | empty : Strict [] 0
  | infinity {sign : List Char} {negative : Bool} (hsign : IsSign sign negative) :
      Strict (sign ++ infinityWord) (.infinity negative)
  | hexadecimal {mark : Char} {digits : List Char} {x : Double} (hmark : mark = 'x' ∨ mark = 'X')
      (hdigits : IsHex digits) (hfits : Digits.value 16 digits < 2 ^ 64)
      (hrounds : Double.Rounds false (Digits.value 16 digits) x) : Strict ('0' :: mark :: digits) x
  | decimal {cs : List Char} {n : Numeral} {x : Double} (hspells : Spells cs n)
      (hrounds : Double.Rounds n.negative n.magnitude x) : Strict cs x

/-- A text is read as the grammar has it: as its number, or as `nan` if it is not derived. -/
inductive Whole (cs : List Char) : Double → Prop where
  | derived {x : Double} (h : Strict cs x) : Whole cs x
  | other (h : ∀ x, ¬ Strict cs x) : Whole cs .nan

/-- Hexadecimal digits of at most 64 bits behind `0x` and a plus sign. -/
def PlusHex (cs digits : List Char) : Prop :=
  ∃ mark, (mark = 'x' ∨ mark = 'X') ∧ cs = '0' :: mark :: '+' :: digits ∧ IsHex digits ∧
    Digits.value 16 digits < 2 ^ 64

private theorem plus_not_isHex (digits : List Char) : ¬ IsHex ('+' :: digits) :=
  fun h => absurd (h.2 '+' (List.mem_cons_self ..)) (by decide)

/-- The grammar does not derive a plus sign behind `0x`. -/
theorem PlusHex.not_strict {cs digits : List Char} (h : PlusHex cs digits) (x : Double) :
    ¬ Strict cs x := by
  obtain ⟨mark, hmark, rfl, -⟩ := h
  intro hstrict
  generalize hcs : '0' :: mark :: '+' :: digits = cs at hstrict
  cases hstrict with
  | empty => cases hcs
  | infinity hsign => cases hsign <;> exact absurd (List.cons.inj hcs).1 (by decide)
  | hexadecimal _ hdigits =>
    obtain ⟨-, hrest⟩ := List.cons.inj hcs
    obtain ⟨-, rfl⟩ := List.cons.inj hrest
    exact plus_not_isHex _ hdigits
  | decimal hspells =>
    subst hcs
    exact hspells.hexMark_not_mem hmark (by simp)

/-- Hexadecimal digits of at most 64 bits, read without a plus in front. -/
def hexValue? (digits : List Char) : Option Nat :=
  if digits.isEmpty || !digits.all (fun c => (Digits.inBase? 16 c).isSome) then none
  else if Digits.value 16 digits < 2 ^ 64 then some (Digits.value 16 digits)
  else none

theorem hexValue?_eq_some_iff {digits : List Char} {n : Nat} : hexValue? digits = some n ↔
    IsHex digits ∧ Digits.value 16 digits < 2 ^ 64 ∧ Digits.value 16 digits = n := by
  have hhex : IsHex digits ↔
      ¬ (digits.isEmpty || !digits.all (fun c => (Digits.inBase? 16 c).isSome)) = true := by
    rw [IsHex, Bool.or_eq_true, not_or, List.isEmpty_iff, Bool.not_eq_true', Bool.not_eq_false,
      List.all_eq_true]
  rw [hexValue?]
  split_ifs with hnot hfits
  · exact ⟨nofun, fun h => absurd hnot (hhex.mp h.1)⟩
  · rw [Option.some.injEq]
    exact ⟨fun h => ⟨hhex.mpr hnot, hfits, h⟩, fun h => h.2.2⟩
  · exact ⟨nofun, fun h => absurd h.2.1 hfits⟩

private theorem readHex_plus (digits : List Char) : readHex ('+' :: digits) = hexValue? digits :=
  rfl

theorem readHex_of_ne {cs : List Char} (h : ∀ rest, cs ≠ '+' :: rest) :
    readHex cs = hexValue? cs := by
  rw [readHex.eq_def]
  split
  · exact absurd rfl (h _)
  · rfl

/-- Behind `0x` stand hexadecimal digits of at most 64 bits, with a plus in front or without. -/
theorem readHex_eq_some_iff {cs : List Char} {n : Nat} : readHex cs = some n ↔
    ∃ digits, (cs = digits ∨ cs = '+' :: digits) ∧ IsHex digits ∧ Digits.value 16 digits < 2 ^ 64 ∧
      Digits.value 16 digits = n := by
  by_cases hplus : ∃ rest, cs = '+' :: rest
  · obtain ⟨rest, rfl⟩ := hplus
    rw [readHex_plus, hexValue?_eq_some_iff]
    constructor
    · exact fun h => ⟨rest, .inr rfl, h⟩
    · rintro ⟨digits, heq | heq, h⟩
      · exact absurd (heq ▸ h.1) (plus_not_isHex rest)
      · rwa [(List.cons.inj heq).2]
  · rw [readHex_of_ne fun rest heq => hplus ⟨rest, heq⟩, hexValue?_eq_some_iff]
    constructor
    · exact fun h => ⟨cs, .inl rfl, h⟩
    · rintro ⟨digits, rfl | rfl, h⟩
      · exact h
      · exact absurd ⟨digits, rfl⟩ hplus

theorem rounds_ofNat (n : Nat) : Double.Rounds false n (Double.ofNat n) :=
  Double.rounds_ofUnits false Nat.one_pos (by rw [Nat.cast_one, div_one, Nat.cast_mul])

private theorem readTrimmed_hex {mark : Char} (hmark : mark = 'x' ∨ mark = 'X') (cs : List Char) :
    readTrimmed ('0' :: mark :: cs) = ((readHex cs).map Double.ofNat).getD .nan := by
  rcases hmark with rfl | rfl <;> rfl

theorem readTrimmed_other {cs : List Char} (hne : cs ≠ [])
    (hhex : ∀ mark rest, mark = 'x' ∨ mark = 'X' → cs ≠ '0' :: mark :: rest) :
    readTrimmed cs = if (scanSign cs).2 = infinityWord then .infinity (scanSign cs).1
      else match scan cs with
        | some (n, []) => n.value
        | _ => .nan := by
  rw [readTrimmed.eq_def]
  split
  · exact absurd rfl hne
  · exact absurd rfl (hhex 'x' _ (.inl rfl))
  · exact absurd rfl (hhex 'X' _ (.inr rfl))
  · rfl

/-- A text that spells a numeral is read as what it denotes. -/
theorem readTrimmed_of_spells {cs : List Char} {n : Numeral} (h : Spells cs n) :
    readTrimmed cs = n.value := by
  have hhex (mark : Char) (rest : List Char) (hmark : mark = 'x' ∨ mark = 'X') :
      cs ≠ '0' :: mark :: rest := by
    rintro rfl
    exact h.hexMark_not_mem hmark (by simp)
  have hword : (scanSign cs).2 ≠ infinityWord := by
    intro heq
    obtain ⟨sign, -, hcs⟩ := exists_sign cs
    refine h.not_infix_infinityWord sign [] ?_
    rw [List.append_nil, ← heq, ← hcs]
  rw [readTrimmed_other h.ne_nil hhex, if_neg hword, scan_of_spells h]

theorem readWhole_of_spells {cs : List Char} {n : Numeral} (h : Spells cs n) :
    readWhole cs = n.value := by
  rw [readWhole, trim_of_not_isBlank h.isBlank_eq_false, readTrimmed_of_spells h]

/-- The word for an infinity is read with its sign. -/
theorem readTrimmed_infinity {sign : List Char} {negative : Bool} (hsign : IsSign sign negative) :
    readTrimmed (sign ++ infinityWord) = .infinity negative := by
  have hscan := scanSign_append hsign (notBegins_infinityWord [])
  rw [List.append_nil] at hscan
  rw [readTrimmed_other (List.append_ne_nil_of_right_ne_nil _ (by decide)), hscan, if_pos rfl]
  rintro mark rest - heq
  rw [infinityWord_eq] at heq
  cases hsign <;> exact absurd (List.cons.inj heq).1 (by decide)

/-- Whatever the grammar derives is read. -/
theorem Strict.readTrimmed_eq {cs : List Char} {x : Double} (h : Strict cs x) :
    readTrimmed cs = x := by
  cases h with
  | empty => rw [readTrimmed]
  | infinity hsign => exact readTrimmed_infinity hsign
  | hexadecimal hmark hdigits hfits hrounds =>
    rw [readTrimmed_hex hmark, readHex_eq_some_iff.mpr ⟨_, .inl rfl, hdigits, hfits, rfl⟩,
      Option.map_some, Option.getD_some]
    exact (rounds_ofNat _).unique hrounds
  | decimal hspells hrounds =>
    rw [readTrimmed_of_spells hspells]
    exact (rounds_value _).unique hrounds

/-- A plus behind `0x` is passed over. -/
theorem PlusHex.readTrimmed_eq {cs digits : List Char} (h : PlusHex cs digits) :
    readTrimmed cs = Double.ofNat (Digits.value 16 digits) := by
  obtain ⟨mark, hmark, rfl, hdigits, hfits⟩ := h
  rw [readTrimmed_hex hmark, readHex_eq_some_iff.mpr ⟨digits, .inr rfl, hdigits, hfits, rfl⟩,
    Option.map_some, Option.getD_some]

/-- What is read is derived by the grammar, or has a plus behind `0x`, or is `nan`. -/
theorem readTrimmed_cases (cs : List Char) :
    Strict cs (readTrimmed cs) ∨ (∃ digits, PlusHex cs digits) ∨ readTrimmed cs = .nan := by
  by_cases hne : cs = []
  · exact .inl (hne ▸ .empty)
  by_cases hhex : ∃ mark rest, (mark = 'x' ∨ mark = 'X') ∧ cs = '0' :: mark :: rest
  · obtain ⟨mark, rest, hmark, rfl⟩ := hhex
    rw [readTrimmed_hex hmark]
    cases hread : readHex rest with
    | none => exact .inr (.inr rfl)
    | some n =>
      rw [Option.map_some, Option.getD_some]
      obtain ⟨digits, rfl | rfl, hdigits, hfits, rfl⟩ := readHex_eq_some_iff.mp hread
      · exact .inl (.hexadecimal hmark hdigits hfits (rounds_ofNat _))
      · exact .inr (.inl ⟨digits, mark, hmark, rfl, hdigits, hfits⟩)
  · rw [readTrimmed_other hne fun mark rest hmark heq => hhex ⟨mark, rest, hmark, heq⟩]
    split_ifs with hword
    · obtain ⟨sign, hsign, hcs⟩ := exists_sign cs
      rw [hword] at hcs
      left
      generalize (scanSign cs).1 = negative at hsign
      rw [hcs]
      exact .infinity hsign
    · split
      · rename_i n hscan
        obtain ⟨taken, hspells, hcs⟩ := exists_of_scan hscan
        rw [List.append_nil] at hcs
        exact .inl (.decimal (hcs ▸ hspells) (rounds_value n))
      · exact .inr (.inr rfl)

/-- Reading strictly is reading as the grammar has it exactly on the texts that have, blanks aside,
no plus sign between `0x` and hexadecimal digits that fit in 64 bits; there the plus is passed over.
-/
theorem readWhole_strict_iff (cs : List Char) :
    (Whole (trim cs) (readWhole cs) ↔ ∀ digits, ¬ PlusHex (trim cs) digits) ∧
    ∀ digits, PlusHex (trim cs) digits →
      Double.Rounds false (Digits.value 16 digits) (readWhole cs) := by
  rw [readWhole]
  refine ⟨⟨?_, fun hplus => ?_⟩, fun digits hplus => hplus.readTrimmed_eq ▸ rounds_ofNat _⟩
  · intro hwhole digits hplus
    have hread := hplus.readTrimmed_eq
    generalize readTrimmed (trim cs) = x at hwhole hread
    cases hwhole with
    | derived h => exact hplus.not_strict _ h
    | other h => exact (rounds_ofNat _).ne_nan hread.symm
  · rcases readTrimmed_cases (trim cs) with h | ⟨digits, h⟩ | h
    · exact .derived h
    · exact absurd h (hplus digits)
    · by_cases hderived : ∃ x, Strict (trim cs) x
      · obtain ⟨x, hx⟩ := hderived
        exact .derived (hx.readTrimmed_eq.symm ▸ hx)
      · rw [h]
        exact .other fun x hx => hderived ⟨x, hx⟩

/-- `0x+1` is not derived, and is read as one. -/
theorem not_whole_plus : readWhole "0x+1".toList = 1 ∧
    ¬ Whole (trim "0x+1".toList) (readWhole "0x+1".toList) := by
  have hread : readWhole "0x+1".toList = 1 := by decide +kernel
  have htrim : trim "0x+1".toList = ['0', 'x', '+', '1'] := by decide
  have hplus : PlusHex ['0', 'x', '+', '1'] ['1'] := by
    refine ⟨'x', .inl rfl, rfl, ⟨by decide, ?_⟩, by decide⟩
    intro c hc
    rw [List.mem_singleton.mp hc]
    decide
  refine ⟨hread, fun hwhole => ?_⟩
  have hnumber : readWhole "0x+1".toList ≠ .nan := hread ▸ (rounds_ofNat 1).ne_nan
  rw [htrim] at hwhole
  generalize readWhole "0x+1".toList = x at hwhole hnumber
  cases hwhole with
  | derived h => exact hplus.not_strict _ h
  | other h => exact hnumber rfl

end LiveText.Numeral
