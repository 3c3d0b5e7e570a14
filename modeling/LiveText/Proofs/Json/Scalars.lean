import Mathlib
import LiveText.Json.Reader
import LiveText.Proofs.Number.Digits

/-!
# Strings and numbers of JSON

What is quoted is read back, whatever the characters are (`readQuoted_quoted`). A number is read in
front of any text that cannot continue it (`readNumber_append`), and an integer that fits in 64 bits
is read back (`readNumber_integerChars`).
-/

namespace LiveText.Json

/-! ## Strings -/

/-- The units below the blank are written with four hexadecimal digits. -/
private theorem hex4?_unit {n : Nat} (h : n < 32) :
    hex4? '0' '0' (Digits.char (n / 16)) (Digits.char (n % 16)) = some n := by
  have all : ∀ n : Fin 32,
      hex4? '0' '0' (Digits.char (n.val / 16)) (Digits.char (n.val % 16)) = some n.val := by decide
  exact all ⟨n, h⟩

/-- A unit that is no half of a pair is read, whatever follows it. -/
private theorem readQuoted_unit {a b c d : Char} {n : Nat} (hunit : hex4? a b c d = some n)
    (hhigh : isHighUnit n = false) (hlow : isLowUnit n = false) (rest : List Char) :
    readQuoted ('\\' :: 'u' :: a :: b :: c :: d :: rest) =
      (readQuoted rest).map fun (cs, after) => (Char.ofNat n :: cs, after) := by
  rw [readQuoted.eq_def]
  split
  all_goals grind

/-- The character behind a short escape is read. -/
theorem readQuoted_short {c e : Char} (hshort : shortEscape? e = some c) (hu : e ≠ 'u')
    (rest : List Char) :
    readQuoted ('\\' :: e :: rest) = (readQuoted rest).map fun (cs, after) => (c :: cs, after) := by
  rw [readQuoted.eq_def]
  split
  all_goals grind

/-- A character that needs no escape is read. -/
private theorem readQuoted_plain {c : Char} (hquote : c ≠ '"') (hslash : c ≠ '\\')
    (hblank : ¬ c.toNat < 32) (rest : List Char) :
    readQuoted (c :: rest) = (readQuoted rest).map fun (cs, after) => (c :: cs, after) := by
  rw [readQuoted.eq_def]
  split
  all_goals grind

/-- An escaped character is read back. -/
private theorem readQuoted_escapeChar (c : Char) (rest : List Char) :
    readQuoted (escapeChar c ++ rest) =
      (readQuoted rest).map fun (cs, after) => (c :: cs, after) := by
  rw [escapeChar]
  split_ifs with hquote hslash hb hf hn hr ht hblank
  · rw [hquote]; exact readQuoted_short rfl (by decide) rest
  · rw [hslash]; exact readQuoted_short rfl (by decide) rest
  · rw [hb]; exact readQuoted_short rfl (by decide) rest
  · rw [hf]; exact readQuoted_short rfl (by decide) rest
  · rw [hn]; exact readQuoted_short rfl (by decide) rest
  · rw [hr]; exact readQuoted_short rfl (by decide) rest
  · rw [ht]; exact readQuoted_short rfl (by decide) rest
  · have hhigh : isHighUnit c.toNat = false := by grind [isHighUnit]
    have hlow : isLowUnit c.toNat = false := by grind [isLowUnit]
    have hread := readQuoted_unit (hex4?_unit hblank) hhigh hlow rest
    rwa [Char.ofNat_toNat] at hread
  · exact readQuoted_plain hquote hslash hblank rest

/-- What is quoted is read back, whatever follows the closing quote. -/
theorem readQuoted_quoted (cs rest : List Char) :
    readQuoted (cs.flatMap escapeChar ++ '"' :: rest) = some (cs, rest) := by
  induction cs with
  | nil => rw [List.flatMap_nil, List.nil_append, readQuoted]
  | cons c cs ih =>
    rw [List.flatMap_cons, List.append_assoc, readQuoted_escapeChar, ih, Option.map_some]

/-! ## Numbers -/

/-- Whether a character may stand in a number. -/
def isNumberChar (c : Char) : Bool := c.isDigit || "+-.eE".toList.contains c

/-- The text does not continue a number in front of it. -/
def Ends (rest : List Char) : Prop := ∀ c ∈ rest.head?, isNumberChar c = false

theorem ends_nil : Ends [] := fun _ h => nomatch h

theorem ends_cons {c : Char} {rest : List Char} : Ends (c :: rest) ↔ isNumberChar c = false := by
  simp [Ends]

/-- A reader takes from the front of a text, and what cannot continue a number stays untouched. -/
structure FrontReader {α : Type} (f : List Char → Option (α × List Char)) : Prop where
  suffix : ∀ {cs after : List Char} {a : α}, f cs = some (a, after) → after <:+ cs
  append : ∀ (cs : List Char) {rest : List Char}, Ends rest →
    f (cs ++ rest) = (f cs).map fun (a, after) => (a, after ++ rest)

namespace FrontReader

variable {α β : Type} {f g h : List Char → Option (α × List Char)}

/-- A reader that takes nothing. -/
theorem const (result : Option α) : FrontReader fun cs => result.bind fun a => some (a, cs) where
  suffix := by
    intro cs after a h
    obtain ⟨a, -, heq⟩ := Option.bind_eq_some_iff.mp h
    cases heq
    exact List.suffix_refl _
  append := by
    intro cs rest h
    rw [Option.map_bind]
    rfl

/-- What is read, under another name. -/
theorem map (φ : α → β) (hf : FrontReader f) :
    FrontReader fun cs => (f cs).map fun (a, cs) => (φ a, cs) where
  suffix := by
    intro cs after b h
    obtain ⟨⟨a, middle⟩, ha, heq⟩ := Option.map_eq_some_iff.mp h
    cases heq
    exact hf.suffix ha
  append := by
    intro cs rest h
    rw [hf.append cs h, Option.map_map, Option.map_map]
    rfl

/-- One reader after the other. -/
theorem bind {k : α → List Char → Option (β × List Char)} (hf : FrontReader f)
    (hk : ∀ a, FrontReader (k a)) : FrontReader fun cs => (f cs).bind fun (a, cs) => k a cs where
  suffix := by
    intro cs after b h
    obtain ⟨⟨a, middle⟩, ha, hb⟩ := Option.bind_eq_some_iff.mp h
    exact ((hk a).suffix hb).trans (hf.suffix ha)
  append := by
    intro cs rest h
    rw [hf.append cs h, Option.map_bind, Option.bind_map]
    congr 1
    funext ⟨a, middle⟩
    exact (hk a).append middle h

/-- The digits in front of a text. -/
theorem digits :
    FrontReader fun cs => some (cs.takeWhile Char.isDigit, cs.dropWhile Char.isDigit) where
  suffix := by
    intro cs after ds h
    cases h
    exact List.dropWhile_suffix _
  append := by
    intro cs rest h
    have htake : (cs ++ rest).takeWhile Char.isDigit = cs.takeWhile Char.isDigit := by
      induction cs with
      | nil =>
        cases rest with
        | nil => rfl
        | cons c rest =>
          have hc : c.isDigit = false := (Bool.or_eq_false_iff.mp (ends_cons.mp h)).1
          rw [List.nil_append, List.takeWhile_cons_of_neg (Bool.not_eq_true _ ▸ hc),
            List.takeWhile_nil]
      | cons c cs ih => rw [List.cons_append, List.takeWhile_cons, List.takeWhile_cons, ih]
    have hwhole : cs.takeWhile Char.isDigit ++ (cs ++ rest).dropWhile Char.isDigit =
        cs.takeWhile Char.isDigit ++ (cs.dropWhile Char.isDigit ++ rest) := by
      rw [← htake, List.takeWhile_append_dropWhile, htake, ← List.append_assoc,
        List.takeWhile_append_dropWhile]
    rw [htake, List.append_cancel_left hwhole]
    rfl

/-- A reader that goes by the first character: one way behind certain characters of numbers, and
another way in front of anything else. -/
theorem of_head {p : Char → Prop} (hp : ∀ c, p c → isNumberChar c = true) (hf : FrontReader f)
    (hg : FrontReader g) (hcons : ∀ c rest, p c → h (c :: rest) = f rest)
    (hother : ∀ c rest, ¬ p c → h (c :: rest) = g (c :: rest)) (hnil : h [] = g []) :
    FrontReader h where
  suffix := by
    intro cs after a hread
    cases cs with
    | nil => exact hg.suffix (hnil ▸ hread)
    | cons c cs =>
      by_cases hc : p c
      · rw [hcons c cs hc] at hread
        exact (hf.suffix hread).trans (List.suffix_cons ..)
      · exact hg.suffix (hother c cs hc ▸ hread)
  append := by
    intro cs rest hends
    cases cs with
    | nil =>
      have hrest : h rest = g rest := by
        cases rest with
        | nil => exact hnil
        | cons c rest =>
          refine hother c rest fun hc => ?_
          exact Bool.false_ne_true ((ends_cons.mp hends).symm.trans (hp c hc))
      rw [List.nil_append, hrest, hnil]
      exact hg.append [] hends
    | cons c cs =>
      by_cases hc : p c
      · rw [List.cons_append, hcons c _ hc, hcons c cs hc, hf.append cs hends]
      · rw [List.cons_append, hother c _ hc, hother c cs hc]
        exact hg.append (c :: cs) hends

end FrontReader

/-- The number of an exponent's digits with its sign. -/
def exponentOf (negative : Bool) (digits : List Char) : Option Int :=
  if digits.isEmpty then none
  else some (if negative then -(Digits.value 10 digits : Int) else Digits.value 10 digits)

/-- An exponent behind its sign. -/
def readSize (negative : Bool) (cs : List Char) : Option (Int × List Char) :=
  (some (cs.takeWhile Char.isDigit, cs.dropWhile Char.isDigit)).bind fun (digits, cs) =>
    (exponentOf negative digits).bind fun n => some (n, cs)

private theorem frontReader_readSize (negative : Bool) : FrontReader (readSize negative) :=
  FrontReader.digits.bind fun digits => .const (exponentOf negative digits)

/-- A reader behind an optional minus sign; it is told whether there is one. -/
def signed {α : Type} (f : Bool → List Char → Option (α × List Char)) (cs : List Char) :
    Option (α × List Char) :=
  match cs with
  | '-' :: rest => f true rest
  | rest => f false rest

private theorem signed_minus {α : Type} (f : Bool → List Char → Option (α × List Char))
    (rest : List Char) :
    signed f ('-' :: rest) = f true rest := rfl

private theorem signed_of_ne {α : Type} (f : Bool → List Char → Option (α × List Char)) {c : Char}
    (hc : c ≠ '-') (rest : List Char) : signed f (c :: rest) = f false (c :: rest) := by
  rw [signed]
  rintro tail heq
  exact hc (List.cons.inj heq).1

private theorem frontReader_signed {α : Type} {f : Bool → List Char → Option (α × List Char)}
    (hf : ∀ negative, FrontReader (f negative)) : FrontReader (signed f) := by
  refine .of_head (p := (· = '-')) (by rintro _ rfl; rfl) (hf true) (hf false) ?_ ?_ rfl
  · rintro _ rest rfl
    exact signed_minus f rest
  · intro c rest hc
    exact signed_of_ne f hc rest

private theorem frontReader_readExponent : FrontReader readExponent := by
  refine .of_head (p := (· = '+')) (by rintro _ rfl; rfl) (frontReader_readSize false)
    (frontReader_signed frontReader_readSize) ?_ ?_ rfl
  · rintro _ rest rfl
    grind [readExponent, readSize, exponentOf]
  · intro c rest hc
    by_cases hminus : c = '-'
    · rw [hminus, signed_minus]
      grind [readExponent, readSize, exponentOf]
    · rw [signed_of_ne _ hminus, readExponent]
      · grind [readSize, exponentOf]
      · rintro tail heq; exact hc (List.cons.inj heq).1
      · rintro tail heq; exact hminus (List.cons.inj heq).1

private theorem frontReader_readFraction : FrontReader readFraction := by
  refine .of_head (p := (· = '.')) (by rintro _ rfl; rfl)
    (FrontReader.digits.bind fun ds => .const (if ds.isEmpty then none else some ds))
    (.const (some [])) ?_ ?_ rfl
  · rintro _ rest rfl
    grind [readFraction]
  · intro c rest hc
    rw [readFraction]
    · rfl
    · rintro tail heq; exact hc (List.cons.inj heq).1

private theorem frontReader_readPower : FrontReader readPower := by
  refine .of_head (p := fun c => c = 'e' ∨ c = 'E') (by rintro _ (rfl | rfl) <;> rfl)
    (frontReader_readExponent.map some) (.const (some none)) ?_ ?_ rfl
  · rintro _ rest (rfl | rfl)
    · rfl
    · rfl
  · intro c rest hc
    rw [readPower]
    · rfl
    · rintro tail heq; exact hc (.inl (List.cons.inj heq).1)
    · rintro tail heq; exact hc (.inr (List.cons.inj heq).1)

/-- The fraction and the power behind the whole part of a number. -/
def readBehind (negative : Bool) (whole cs : List Char) : Option (Json × List Char) :=
  (readFraction cs).bind fun (fraction, cs) => (readPower cs).bind fun (power, cs) =>
    (numberOf negative whole fraction power).bind fun number => some (number, cs)

private theorem frontReader_readBehind (negative : Bool) (whole : List Char) :
    FrontReader (readBehind negative whole) :=
  frontReader_readFraction.bind fun fraction => frontReader_readPower.bind fun power =>
    .const (numberOf negative whole fraction power)

/-- What follows the whole part of a number, unless it has superfluous zeros. -/
def readBehindWhole (negative : Bool) (whole cs : List Char) : Option (Json × List Char) :=
  if whole.isEmpty || (whole.head? == some '0' && whole.length != 1) then none
  else readBehind negative whole cs

private theorem frontReader_readBehindWhole (negative : Bool) (whole : List Char) :
    FrontReader (readBehindWhole negative whole) := by
  unfold readBehindWhole
  split
  · exact .const none
  · exact frontReader_readBehind negative whole

/-- A number whose sign is already taken. -/
def readUnsigned (negative : Bool) (cs : List Char) : Option (Json × List Char) :=
  (some (cs.takeWhile Char.isDigit, cs.dropWhile Char.isDigit)).bind fun (whole, cs) =>
    readBehindWhole negative whole cs

private theorem frontReader_readUnsigned (negative : Bool) : FrontReader (readUnsigned negative) :=
  FrontReader.digits.bind (frontReader_readBehindWhole negative)

private theorem readNumber_minus (cs : List Char) : readNumber ('-' :: cs) = readUnsigned true cs :=
  rfl

theorem readNumber_of_ne {c : Char} (hc : c ≠ '-') (cs : List Char) :
    readNumber (c :: cs) = readUnsigned false (c :: cs) := by
  rw [readNumber]
  · rfl
  · rintro tail heq; exact hc (List.cons.inj heq).1

theorem frontReader_readNumber : FrontReader readNumber := by
  refine .of_head (p := (· = '-')) (by rintro _ rfl; rfl) (frontReader_readUnsigned true)
    (frontReader_readUnsigned false) ?_ ?_ rfl
  · rintro _ rest rfl
    exact readNumber_minus rest
  · intro c rest hc
    exact readNumber_of_ne hc rest

/-- A number that a text is as a whole is read in front of any text that does not continue it. -/
theorem readNumber_append {cs rest : List Char} {j : Json} (h : readNumber cs = some (j, []))
    (hends : Ends rest) : readNumber (cs ++ rest) = some (j, rest) := by
  rw [frontReader_readNumber.append cs hends, h]
  rfl

/-! ### Integers -/

/-- Digits that fit in 64 bits are all kept. -/
private theorem takeDigits_eq (significand : Nat) (cs : List Char)
    (h : significand * 10 ^ cs.length + Digits.value 10 cs ≤ maxSignificand) :
    takeDigits significand cs =
      (significand * 10 ^ cs.length + Digits.value 10 cs, cs.length, 0) := by
  induction cs generalizing significand with
  | nil => simp [takeDigits, Digits.value, Digits.valueOf]
  | cons c cs ih =>
    have hvalue : Digits.value 10 (c :: cs) =
        (Digits.digit? c).getD 0 * 10 ^ cs.length + Digits.value 10 cs := by
      rw [← List.singleton_append, Digits.value_append]
      simp [Digits.value, Digits.valueOf]
    have hnext : (significand * 10 + (Digits.digit? c).getD 0) * 10 ^ cs.length +
        Digits.value 10 cs = significand * 10 ^ (c :: cs).length + Digits.value 10 (c :: cs) := by
      rw [hvalue, List.length_cons]
      ring
    have hfits : ¬ maxSignificand < significand * 10 + (Digits.digit? c).getD 0 := by
      have hpow : 1 ≤ 10 ^ cs.length := Nat.one_le_pow _ _ (by decide)
      nlinarith
    rw [takeDigits, if_neg hfits, ih _ (hnext ▸ h), hnext]
    rfl

/-- The digits of a number that fits in 64 bits are read as an integer, unless they are a negative
zero. -/
theorem readUnsigned_ofNat {negative : Bool} {n : Nat} (h : n ≤ maxSignificand)
    (hzero : negative = true → n ≠ 0) :
    readUnsigned negative (Digits.ofNat 10 n) =
      some (.integer (if negative then -n else n), []) := by
  have hdigits : ∀ c ∈ Digits.ofNat 10 n, c.isDigit = true := fun c => Digits.isDigit_of_mem_ofNat
  have hvalue : Digits.value 10 (Digits.ofNat 10 n) = n :=
    Digits.value_ofNat (by decide) (by decide) n
  have hwhole : ¬ ((Digits.ofNat 10 n).isEmpty ||
      ((Digits.ofNat 10 n).head? == some '0' && (Digits.ofNat 10 n).length != 1)) = true := by
    rcases Nat.eq_zero_or_pos n with rfl | hpos
    · decide +kernel
    · have hhead := Digits.ofNat_head (by decide : 10 ≤ 36) hpos
      simp [Digits.ofNat_ne_nil, hhead]
  have htake : takeDigits 0 (Digits.ofNat 10 n) = (n, (Digits.ofNat 10 n).length, 0) := by
    rw [takeDigits_eq 0 _ (by rwa [Nat.zero_mul, Nat.zero_add, hvalue]), Nat.zero_mul, Nat.zero_add,
      hvalue]
  have hnumber : numberOf negative (Digits.ofNat 10 n) [] none =
      some (.integer (if negative then -n else n)) := by
    simp only [numberOf, htake, List.isEmpty_nil, Option.isNone_none, and_self, if_true]
    rw [if_neg fun hneg => hzero hneg.1 hneg.2]
  rw [readUnsigned, List.takeWhile_eq_self_iff.mpr hdigits, List.dropWhile_eq_nil_iff.mpr hdigits,
    Option.bind_some]
  simp only [readBehindWhole, if_neg hwhole, readBehind, readFraction, readPower, Option.bind_some,
    hnumber]

/-- An integer that fits in 64 bits is read back. -/
theorem readNumber_integerChars {n : Int} (h : n.natAbs ≤ maxSignificand) :
    readNumber (integerChars n) = some (.integer n, []) := by
  rw [integerChars]
  split_ifs with hneg
  · have hzero : n.natAbs ≠ 0 := by omega
    rw [readNumber_minus, readUnsigned_ofNat h fun _ => hzero]
    simp only [if_true]
    congr 3
    omega
  · have hhead : ∃ c cs, Digits.ofNat 10 n.natAbs = c :: cs ∧ c ≠ '-' := by
      obtain ⟨c, cs, hcons⟩ := List.exists_cons_of_ne_nil (Digits.ofNat_ne_nil 10 n.natAbs)
      refine ⟨c, cs, hcons, ?_⟩
      rintro rfl
      exact absurd (Digits.isDigit_of_mem_ofNat (hcons ▸ List.mem_cons_self ..)) (by decide)
    obtain ⟨c, cs, hcons, hc⟩ := hhead
    rw [hcons, readNumber_of_ne hc, ← hcons, readUnsigned_ofNat h Bool.false_ne_true.elim]
    simp only [Bool.false_eq_true, if_false]
    congr 3
    omega

end LiveText.Json
