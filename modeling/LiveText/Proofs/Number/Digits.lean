import Mathlib
import LiveText.Number.Digits
import LiveText.Proofs.Text.Trim

/-!
# Decimal digits

What digits denote is read off their parts: `value_append` splits a text of digits, zeros in front
of it add nothing, and `value_lt` bounds it by its length. A number has as many digits as it needs
(`length_ofNat_le_iff`), which are those that denote it unless more follows a zero in front
(`ofNat_value`). An index is read from digits and a plus that may stand in front of them
(`readIndex?_eq_some_iff`). A number that fits has exactly the places it is padded to
(`length_padded`).
-/

namespace LiveText.Digits

/-- The character of a decimal digit is a digit. -/
private theorem isDigit_char {d : Nat} (h : d < 10) : (char d).isDigit = true := by
  have all : ∀ d : Fin 10, (char d).isDigit = true := by decide
  exact all ⟨d, h⟩

/-- A digit character stands for a number below ten. -/
theorem digit?_of_isDigit {c : Char} (h : c.isDigit = true) : (digit? c).getD 0 < 10 := by
  have hle := (Text.toNat_of_isDigit h).2
  simp only [digit?, h, ite_true, Option.getD_some]
  have hzero : '0'.toNat = 48 := rfl
  omega

/-- A digit is none of the other characters. -/
theorem ne_of_isDigit {c mark : Char} (h : c.isDigit = true) (hmark : mark.isDigit = false) :
    c ≠ mark := by
  intro heq
  rw [heq, hmark] at h
  cases h

/-- Digits of the base are all that a number is written with. -/
theorem exists_char_of_mem_ofNat {base n : Nat} (low : 2 ≤ base) {c : Char} (h : c ∈ ofNat base n) :
    ∃ d < base, c = char d := by
  revert h
  fun_induction ofNat base n with
  | case1 n b hlt =>
    intro h
    exact ⟨n, by omega, List.mem_singleton.mp h⟩
  | case2 n b hlt ih =>
    intro h
    rcases List.mem_append.mp h with h | h
    · exact ih h
    · have hmod := Nat.mod_lt n (show 0 < b by omega)
      exact ⟨n % b, by omega, List.mem_singleton.mp h⟩

/-- Decimal digits are all that a number is written with in base ten. -/
theorem isDigit_of_mem_ofNat {n : Nat} {c : Char} (h : c ∈ ofNat 10 n) : c.isDigit = true := by
  obtain ⟨d, hd, rfl⟩ := exists_char_of_mem_ofNat (by decide) h
  exact isDigit_char hd

theorem ofNat_zero (base : Nat) : ofNat base 0 = ['0'] := by
  have hsmall : 0 < max 2 base := by omega
  rw [ofNat, if_pos hsmall]
  rfl

/-- A zero in front is all that is written. -/
private theorem ofNat_of_head_zero {base n : Nat} (high : base ≤ 36)
    (h : (ofNat base n).head? = some '0') :
    ofNat base n = ['0'] := by
  by_cases hzero : n = 0
  · rw [hzero, ofNat_zero]
  · exact absurd h (ofNat_head high (Nat.pos_of_ne_zero hzero))

/-- Digits of a base that denote a number, in lower case and without a zero in front of others. -/
structure IsNumeral (base : Nat) (digits : List Char) (n : Nat) : Prop where
  ne_nil : digits ≠ []
  digit : ∀ c ∈ digits, ∃ d < base, c = char d
  head : digits.head? = some '0' → digits = ['0']
  denotes : value base digits = n

/-- A number is written as a numeral. -/
theorem isNumeral_ofNat {base : Nat} (low : 2 ≤ base) (high : base ≤ 36) (n : Nat) :
    IsNumeral base (ofNat base n) n where
  ne_nil := ofNat_ne_nil base n
  digit _ h := exists_char_of_mem_ofNat low h
  head := ofNat_of_head_zero high
  denotes := value_ofNat low high n

/-- The sign in front of the digits of an integer. -/
def signOf (n : Int) : List Char := if n < 0 then ['-'] else []

theorem value_signOf (base : Nat) (n : Int) : value base (signOf n) = 0 := by
  have hminus : (digit? '-').getD 0 = 0 := by decide
  rw [signOf]
  split_ifs
  · rw [← List.nil_append ['-'], value_append_singleton, hminus, Nat.add_zero]
    exact Nat.zero_mul base
  · rfl

/-- Digits in front of others count by the places of these. -/
theorem value_append (base : Nat) (cs ds : List Char) :
    value base (cs ++ ds) = value base cs * base ^ ds.length + value base ds := by
  induction ds using List.reverseRecOn with
  | nil => simp [value, valueOf]
  | append_singleton ds d ih =>
    rw [← List.append_assoc, value_append_singleton, ih, value_append_singleton,
      List.length_append, List.length_singleton, pow_succ]
    ring

/-- Zeros denote zero. -/
theorem value_replicate (base count : Nat) : value base (List.replicate count '0') = 0 := by
  induction count with
  | zero => rfl
  | succ count ih =>
    have hzero : (digit? '0').getD 0 = 0 := by decide
    rw [List.replicate_succ', value_append_singleton, ih, hzero, Nat.zero_mul]

/-- Zeros in front of digits add nothing. -/
theorem value_replicate_append (base count : Nat) (cs : List Char) :
    value base (List.replicate count '0' ++ cs) = value base cs := by
  rw [value_append, value_replicate, Nat.zero_mul, Nat.zero_add]

/-- Zeros behind digits multiply by a power of the base. -/
theorem value_append_replicate (base count : Nat) (cs : List Char) :
    value base (cs ++ List.replicate count '0') = value base cs * base ^ count := by
  rw [value_append, value_replicate, List.length_replicate, Nat.add_zero]

/-- Digits denote a number below the power of ten of their count. -/
theorem value_lt {cs : List Char} (h : ∀ c ∈ cs, c.isDigit = true) :
    value 10 cs < 10 ^ cs.length := by
  induction cs using List.reverseRecOn with
  | nil => decide
  | append_singleton cs c ih =>
    have hc := digit?_of_isDigit (h c (by simp))
    have hcs := ih fun d hd => h d (List.mem_append_left _ hd)
    rw [value_append_singleton, List.length_append, List.length_singleton, pow_succ]
    omega

/-- A number has at most so many digits exactly if it is below that power of ten. -/
theorem length_ofNat_le_iff {n count : Nat} (hcount : 0 < count) :
    (ofNat 10 n).length ≤ count ↔ n < 10 ^ count := by
  constructor
  · intro h
    have hlt := value_lt fun c hc => isDigit_of_mem_ofNat (n := n) hc
    rw [value_ofNat (by decide) (by decide)] at hlt
    exact hlt.trans_le (Nat.pow_le_pow_right (by decide) h)
  · obtain ⟨count, rfl⟩ := Nat.exists_eq_add_one_of_ne_zero hcount.ne'
    induction count generalizing n with
    | zero =>
      intro h
      rw [ofNat, if_pos (by simpa using h)]
      rfl
    | succ count ih =>
      intro h
      rw [ofNat]
      split
      · simp
      · have hquotient : n / 10 < 10 ^ (count + 1) := by
          rw [Nat.div_lt_iff_lt_mul (by decide), ← pow_succ]
          exact h
        rw [List.length_append, List.length_singleton]
        exact Nat.succ_le_succ (ih (Nat.succ_pos _) hquotient)

/-- A number that is not zero has a digit for every power of ten up to it. -/
theorem pow_length_ofNat_le {n : Nat} (h : n ≠ 0) : 10 ^ ((ofNat 10 n).length - 1) ≤ n := by
  by_cases hlength : (ofNat 10 n).length - 1 = 0
  · rw [hlength, pow_zero]
    exact Nat.one_le_iff_ne_zero.mpr h
  · have hnot := (length_ofNat_le_iff (n := n) (Nat.pos_of_ne_zero hlength)).not
    omega

theorem lt_pow_length_ofNat (n : Nat) : n < 10 ^ (ofNat 10 n).length :=
  (length_ofNat_le_iff (List.length_pos_of_ne_nil (ofNat_ne_nil 10 n))).mp (le_refl _)

/-- A digit character is the one of its digit. -/
theorem char_digit? {c : Char} (h : c.isDigit = true) : char ((digit? c).getD 0) = c := by
  have all : ∀ n ∈ List.range' 48 10, char (n - 48) = Char.ofNat n := by decide
  obtain ⟨hlow, hhigh⟩ := Text.toNat_of_isDigit h
  simp only [digit?, h, ite_true, Option.getD_some]
  rw [← Char.ofNat_toNat c]
  simpa using all c.toNat (List.mem_range'_1.mpr ⟨hlow, by omega⟩)

/-- A number below ten is one digit. -/
theorem ofNat_of_lt {d : Nat} (h : d < 10) : ofNat 10 d = [char d] := by
  rw [ofNat]
  exact if_pos h

/-- The last digit of a greater number stands behind the digits of its tenth part. -/
theorem ofNat_mul_add {n d : Nat} (hn : n ≠ 0) (hd : d < 10) :
    ofNat 10 (n * 10 + d) = ofNat 10 n ++ [char d] := by
  have hdiv : (n * 10 + d) / 10 = n := by omega
  have hmod : (n * 10 + d) % 10 = d := by omega
  have hlarge : ¬ n * 10 + d < 10 := by omega
  calc ofNat 10 (n * 10 + d)
      = ofNat 10 ((n * 10 + d) / 10) ++ [char ((n * 10 + d) % 10)] := by
        rw [ofNat]
        exact if_neg hlarge
    _ = ofNat 10 n ++ [char d] := by rw [hdiv, hmod]

/-- Digits are those of the number that they denote, unless more follows a zero in front. -/
theorem ofNat_value {cs : List Char} (hne : cs ≠ []) (hdigit : ∀ c ∈ cs, c.isDigit = true)
    (hzero : ∀ rest, cs = '0' :: rest → rest = []) : ofNat 10 (value 10 cs) = cs := by
  induction cs using List.reverseRecOn with
  | nil => exact absurd rfl hne
  | append_singleton cs c ih =>
    have hc := hdigit c (by simp)
    rw [value_append_singleton]
    by_cases hnil : cs = []
    · have hvalue : value 10 [] = 0 := rfl
      rw [hnil, hvalue, Nat.zero_mul, Nat.zero_add, ofNat_of_lt (digit?_of_isDigit hc),
        char_digit? hc, List.nil_append]
    · have hcs : ofNat 10 (value 10 cs) = cs := by
        refine ih hnil (fun d hd => hdigit d (List.mem_append_left _ hd)) fun rest heq => ?_
        have hnone := hzero (rest ++ [c]) (by rw [heq, List.cons_append])
        exact absurd hnone (by simp)
      -- digits that denote zero are a zero, behind which nothing may stand
      have hpos : value 10 cs ≠ 0 := by
        intro hvalue
        rw [hvalue, ofNat_of_lt (by decide)] at hcs
        have hnone := hzero [c] (by rw [← hcs]; rfl)
        exact List.cons_ne_nil _ _ hnone
      rw [ofNat_mul_add hpos (digit?_of_isDigit hc), hcs, char_digit? hc]

/-! ### Indexes -/

/-- Decimal digits that denote a number of at most 64 bits, at least one. -/
structure IsIndex (digits : List Char) : Prop where
  ne_nil : digits ≠ []
  isDigit : ∀ c ∈ digits, c.isDigit = true
  fits : value 10 digits < 2 ^ 64

theorem readIndex?_plus {digits : List Char} {n : Nat} :
    readIndex? ('+' :: digits) = some n ↔ IsIndex digits ∧ value 10 digits = n := by
  have hread : readIndex? ('+' :: digits) =
      if digits.isEmpty || !digits.all Char.isDigit then none
      else if value 10 digits < 2 ^ 64 then some (value 10 digits) else none := rfl
  have hdigits : ¬ (digits.isEmpty || !digits.all Char.isDigit) = true ↔
      digits ≠ [] ∧ ∀ c ∈ digits, c.isDigit = true := by
    rw [Bool.or_eq_true, not_or, List.isEmpty_iff, Bool.not_eq_true', Bool.not_eq_false,
      List.all_eq_true]
  rw [hread]
  split_ifs with hnot hfits
  · exact ⟨nofun, fun h => absurd hnot (hdigits.mpr ⟨h.1.ne_nil, h.1.isDigit⟩)⟩
  · obtain ⟨hne, hdigit⟩ := hdigits.mp hnot
    rw [Option.some.injEq]
    exact ⟨fun h => ⟨⟨hne, hdigit, hfits⟩, h⟩, fun h => h.2⟩
  · exact ⟨nofun, fun h => absurd h.1.fits hfits⟩

/-- Without a plus in front an index is read as with one. -/
private theorem readIndex?_of_ne {cs : List Char} (h : ∀ rest, cs ≠ '+' :: rest) :
    readIndex? cs = readIndex? ('+' :: cs) := by
  rw [readIndex?.eq_def, readIndex?.eq_def]
  split
  · exact absurd rfl (h _)
  · rfl

/-- Digits are read as an index, behind a plus or not, and nothing else is. -/
theorem readIndex?_eq_some_iff {cs : List Char} {n : Nat} : readIndex? cs = some n ↔
    ∃ digits, (cs = digits ∨ cs = '+' :: digits) ∧ IsIndex digits ∧ value 10 digits = n := by
  by_cases hplus : ∃ rest, cs = '+' :: rest
  · obtain ⟨rest, rfl⟩ := hplus
    rw [readIndex?_plus]
    constructor
    · exact fun h => ⟨rest, .inr rfl, h⟩
    · rintro ⟨digits, heq | heq, h, hvalue⟩
      · exact absurd rfl (ne_of_isDigit (h.isDigit '+' (heq ▸ List.mem_cons_self ..)) (by decide))
      · exact (List.cons.inj heq).2 ▸ ⟨h, hvalue⟩
  · rw [readIndex?_of_ne fun rest heq => hplus ⟨rest, heq⟩, readIndex?_plus]
    constructor
    · exact fun h => ⟨cs, .inl rfl, h⟩
    · rintro ⟨digits, rfl | rfl, h⟩
      · exact h
      · exact absurd ⟨digits, rfl⟩ hplus

/-! ### Padding -/

theorem isDigit_of_mem_padded {width n : Nat} {c : Char} (h : c ∈ padded width n) :
    c.isDigit = true := by
  rcases List.mem_append.mp h with h | h
  · rw [List.eq_of_mem_replicate h]
    decide
  · exact isDigit_of_mem_ofNat h

theorem padded_ne_nil (width n : Nat) : padded width n ≠ [] :=
  List.append_ne_nil_of_right_ne_nil _ (ofNat_ne_nil 10 n)

/-- Digits in places begin with a digit. -/
theorem exists_padded_eq_cons (width n : Nat) :
    ∃ c cs, padded width n = c :: cs ∧ c.isDigit = true := by
  obtain ⟨c, cs, hcons⟩ := List.exists_cons_of_ne_nil (padded_ne_nil width n)
  exact ⟨c, cs, hcons, isDigit_of_mem_padded (hcons ▸ List.mem_cons_self ..)⟩

/-- Digits in places end with a digit. -/
theorem exists_padded_eq_append_singleton (width n : Nat) :
    ∃ cs c, padded width n = cs ++ [c] ∧ c.isDigit = true := by
  have hne := padded_ne_nil width n
  refine ⟨(padded width n).dropLast, (padded width n).getLast hne, ?_, ?_⟩
  · exact (List.dropLast_concat_getLast hne).symm
  · exact isDigit_of_mem_padded (List.getLast_mem hne)

/-- Padding leaves a number what it is. -/
theorem value_padded (width n : Nat) : value 10 (padded width n) = n := by
  rw [padded, value_replicate_append, value_ofNat (by decide) (by decide)]

/-- A number that fits has exactly the places that it is padded to. -/
theorem length_padded {width n : Nat} (hwidth : 0 < width) (h : n < 10 ^ width) :
    (padded width n).length = width := by
  have hle := (length_ofNat_le_iff (n := n) hwidth).mpr h
  rw [padded, List.length_append, List.length_replicate]
  omega

end LiveText.Digits
