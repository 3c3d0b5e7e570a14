import Mathlib
import LiveText.Formula.Method
import LiveText.Formula.Namespace
import LiveText.Proofs.Number.Integers

/-!
# Integers in any radix

An integer of at most 53 bits is written as its sign and a numeral of its size (`chars_ofInt`), and
such a text is read as the integer (`readInt_numeral`): in arithmetic of doubles nothing is rounded
on the way, a numeral has no mark of hexadecimal digits, and the decimal radix, which has the
display text, is no exception. So writing and reading are inverse, `parseInt_toString`.
-/

namespace LiveText.Radix

open Number

variable {radix : Nat}

/-! ### Writing -/

/-- Nothing is written behind the point where there is nothing. -/
private theorem dropZeros_fractionDigits (hradix : 0 < radix) (high : radix ≤ 36) :
    dropZeros (fractionDigits radix maxFraction (Double.zero false)) = [] := by
  have hwhole : Double.IsWhole radix := Double.isWhole_iff.mpr (by omega)
  have hscaled : Double.zero false * Double.ofNat radix = Double.zero false := by
    rw [← Double.ofInt_zero,
      Double.ofInt_mul_ofNat (Double.isWhole_iff.mpr (by decide)) hwhole hradix, Int.zero_mul]
  have hrest : (Double.zero false - (Double.zero false).trunc).isZero = true := by decide +kernel
  have hdigit : Digits.char (Double.zero false).toInt.toNat = '0' := by decide +kernel
  rw [maxFraction, fractionDigits]
  simp only [hscaled, hrest, hdigit, ite_true]
  rfl

/-- In the decimal radix every number has its display text. -/
theorem chars_ten (x : Double) : chars x 10 = Layout.display.chars x := by
  cases x with
  | nan => rfl
  | infinity negative => rfl
  | finite negative units h =>
    rw [chars]
    exact if_pos (Or.inl rfl)

/-- An integer of at most 53 bits is written as its sign and its digits. -/
theorem chars_ofInt {n : Int} (h : n.natAbs < 2 ^ 53) (low : 2 ≤ radix) (high : radix ≤ 36) :
    chars (Double.ofInt n) radix = Digits.signOf n ++ Digits.ofNat radix n.natAbs := by
  have hwhole : Double.IsWhole n := Nat.le_of_lt h
  have hrepresentable := Double.representable_of_isWhole hwhole
  by_cases hten : radix = 10
  · rw [hten, chars_ten, Double.display_ofInt h]
  · have hsmall : ¬ Nat.pow 10 21 * unity ≤ n.natAbs * unity := by
      intro hle
      have hsize := Nat.le_of_mul_le_mul_right hle unity_pos
      rw [show Nat.pow 10 21 = 1000000000000000000000 from rfl] at hsize
      omega
    have hunits : n.natAbs * unity ≠ 0 ↔ n ≠ 0 := by
      rw [Ne, Nat.mul_eq_zero, or_iff_left unity_pos.ne', Int.natAbs_eq_zero]
    rw [Double.ofInt_eq hwhole]
    simp only [chars, hten, hsmall, or_self, ite_false, Double.abs, Double.fract_whole,
      dropZeros_fractionDigits (by omega) high, Nat.mul_div_cancel _ unity_pos, decide_eq_true_eq,
      hunits, Digits.signOf]
    split_ifs <;> first | rfl | omega

/-! ### Reading -/

/-- The digits of a numeral have their values in the radix. -/
private theorem inBase?_char (high : radix ≤ 36) {d : Nat} (hd : d < radix) :
    Digits.inBase? radix (Digits.char d) = some d := by
  rw [Digits.inBase?, Digits.digit?_char (by omega), Option.filter_some, if_pos (decide_eq_true hd)]

private theorem digitsInFront_of_digit (high : radix ≤ 36) {cs : List Char}
    (h : ∀ c ∈ cs, ∃ d < radix, c = Digits.char d) :
    digitsInFront radix cs = cs.map fun c => (Digits.digit? c).getD 0 := by
  have hvalue : ∀ c ∈ cs, Digits.inBase? radix c = some ((Digits.digit? c).getD 0) := by
    intro c hc
    obtain ⟨d, hd, rfl⟩ := h c hc
    rw [inBase?_char high hd, Digits.digit?_char (by omega), Option.getD_some]
  have htake : cs.takeWhile (fun c => (Digits.inBase? radix c).isSome) = cs := by
    rw [List.takeWhile_eq_self_iff]
    intro c hc
    rw [hvalue c hc]
    rfl
  rw [digitsInFront, htake, List.filterMap_congr hvalue]
  exact congrFun List.filterMap_eq_map cs

/-- Digits in a radix are below it. -/
private theorem lt_of_mem_digitsInFront {cs : List Char} {d : Nat}
    (h : d ∈ digitsInFront radix cs) :
    d < radix := by
  obtain ⟨c, -, hc⟩ := List.mem_filterMap.mp h
  exact of_decide_eq_true (Option.filter_eq_some_iff.mp hc).2

/-- As long as it has at most 53 bits, the number that digits denote is computed without rounding.
-/
theorem foldl_digits {ds : List Nat} (hradix : 0 < radix) (high : radix ≤ 36)
    (hds : ∀ d ∈ ds, d < radix) (h : Digits.valueOf radix ds < 2 ^ 53) :
    ds.foldl (fun acc d => acc * Double.ofNat radix + Double.ofNat d) 0 =
      Double.ofInt (Digits.valueOf radix ds) := by
  have hwhole {k : Nat} (hk : k < 2 ^ 53) : Double.IsWhole (k : Int) :=
    Double.isWhole_iff.mpr (by omega)
  induction ds using List.reverseRecOn with
  | nil =>
    have hnone : Digits.valueOf radix [] = 0 := rfl
    rw [List.foldl_nil, hnone, Double.ofInt_natCast]
    rfl
  | append_singleton ds d ih =>
    rw [Digits.valueOf_append_singleton] at h ⊢
    have hfront : Digits.valueOf radix ds ≤ Digits.valueOf radix ds * radix :=
      Nat.le_mul_of_pos_right _ hradix
    have hd := hds d (by simp)
    rw [List.foldl_append, ih (fun d hd => hds d (List.mem_append_left _ hd)) (by omega),
      List.foldl_cons, List.foldl_nil,
      Double.ofInt_mul_ofNat (hwhole (by omega)) (hwhole (by omega)) hradix,
      ← Double.ofInt_natCast d, ← Nat.cast_mul,
      Double.ofInt_add_ofInt (hwhole (by omega)) (hwhole (by omega)), ← Nat.cast_add]

/-- What the front of a text in a radix must not be, so that it is read as it stands. -/
theorem char_plain {d : Nat} (hd : d < 36) : Text.isBlank (Digits.char d) = false ∧
    Digits.char d ≠ '-' ∧ Digits.char d ≠ '+' := by
  have all : ∀ d : Fin 36, Text.isBlank (Digits.char d) = false ∧
      Digits.char d ≠ '-' ∧ Digits.char d ≠ '+' := by decide
  exact all ⟨d, hd⟩

variable {n : Int} {digits : List Char}

/-- There is no blank in the text of an integer. -/
private theorem trimStart_numeral (h : Digits.IsNumeral radix digits n.natAbs) (high : radix ≤ 36) :
    Text.trimStart (Digits.signOf n ++ digits) = Digits.signOf n ++ digits := by
  apply Text.trimStart_of_not_isBlank
  intro c hc
  rcases List.mem_append.mp hc with hc | hc
  · rw [Digits.signOf] at hc
    split_ifs at hc
    · rw [List.mem_singleton.mp hc]
      decide
    · cases hc
  · obtain ⟨d, hd, rfl⟩ := h.digit c hc
    exact (char_plain (by omega)).1

/-- The sign of an integer is read off its text. -/
private theorem splitSign_numeral (h : Digits.IsNumeral radix digits n.natAbs) (high : radix ≤ 36) :
    splitSign (Digits.signOf n ++ digits) = (decide (n < 0), digits) := by
  rw [Digits.signOf]
  split_ifs with hneg
  · rw [decide_eq_true hneg]
    rfl
  · obtain ⟨c, rest, rfl⟩ := List.exists_cons_of_ne_nil h.ne_nil
    obtain ⟨d, hd, rfl⟩ := h.digit c (List.mem_cons_self ..)
    obtain ⟨-, hminus, hplus⟩ := char_plain (d := d) (by omega)
    rw [decide_eq_false hneg, List.nil_append, splitSign.eq_3 _ (by simpa using hminus)
      (by simpa using hplus)]

/-- A numeral has no mark of hexadecimal digits. -/
private theorem resolve_numeral {size : Nat} (h : Digits.IsNumeral radix digits size)
    (low : 2 ≤ radix) :
    resolve radix digits = ((radix : Int), digits) := by
  have hmark : afterHexMark? digits = none := by
    rw [afterHexMark?.eq_def]
    split
    · exact absurd (h.head rfl) (by simp)
    · exact absurd (h.head rfl) (by simp)
    · rfl
  have hradix : ¬ (radix : Int) = 0 := by omega
  simp only [resolve, hmark, ite_self, hradix, ite_false]

private theorem inRange_natCast (low : 2 ≤ radix) (high : radix ≤ 36) : inRange radix = true := by
  rw [inRange, Bool.and_eq_true, decide_eq_true_eq, decide_eq_true_eq]
  omega

/-- A sign and a numeral are read as the integer that they denote. -/
theorem readInt_numeral (h : Digits.IsNumeral radix digits n.natAbs) (hn : n.natAbs < 2 ^ 53)
    (low : 2 ≤ radix) (high : radix ≤ 36) :
    readInt (Digits.signOf n ++ digits) radix = Double.ofInt n := by
  have hrange := inRange_natCast low high
  have hdigits := digitsInFront_of_digit high h.digit
  obtain ⟨d, ds, hcons⟩ : ∃ d ds, digitsInFront radix digits = d :: ds := by
    rw [hdigits]
    exact List.exists_cons_of_ne_nil fun hnil => h.ne_nil (List.map_eq_nil_iff.mp hnil)
  have hvalue : Digits.valueOf radix (d :: ds) = n.natAbs := by
    rw [← hcons, hdigits]
    exact h.denotes
  have hbelow : ∀ e ∈ d :: ds, e < radix := by
    rw [← hcons]
    exact fun e he => lt_of_mem_digitsInFront he
  have hfold := foldl_digits (by omega) high hbelow (by omega)
  rw [hvalue] at hfold
  simp only [readInt, trimStart_numeral h high, splitSign_numeral h high, resolve_numeral h low]
  rw [if_pos hrange, Int.toNat_natCast, hcons]
  generalize List.foldl (fun acc d => acc * Double.ofNat radix + Double.ofNat d) 0 = sum at hfold ⊢
  change (if decide (n < 0) = true then -sum (d :: ds) else sum (d :: ds)) = _
  rw [hfold]
  split_ifs with hneg
  · have hneg := of_decide_eq_true hneg
    rw [Double.neg_ofInt (Double.isWhole_iff.mpr (by omega)) (by omega),
      Int.ofNat_natAbs_of_nonpos hneg.le, Int.neg_neg]
  · have hnonneg := of_decide_eq_false (Bool.not_eq_true _ ▸ hneg)
    rw [Int.natAbs_of_nonneg (not_lt.mp hnonneg)]

/-! ### Writing and reading -/

/-- A minus in front is the sign. -/
private theorem head_numeral (h : Digits.IsNumeral radix digits n.natAbs) (high : radix ≤ 36) :
    (Digits.signOf n ++ digits).head? = some '-' ↔ n < 0 := by
  rw [Digits.signOf]
  split_ifs with hneg
  · exact iff_of_true rfl hneg
  · obtain ⟨c, rest, rfl⟩ := List.exists_cons_of_ne_nil h.ne_nil
    obtain ⟨d, hd, rfl⟩ := h.digit c (List.mem_cons_self ..)
    exact iff_of_false (fun heq => (char_plain (by omega)).2.1 (Option.some.inj heq)) hneg

/-- Only zero is written with a zero in front. -/
private theorem head_zero_iff (high : radix ≤ 36) (size : Nat) :
    (Digits.ofNat radix size).head? = some '0' ↔ size = 0 := by
  constructor
  · intro hhead
    by_contra hne
    exact Digits.ofNat_head high (Nat.pos_of_ne_zero hne) hhead
  · rintro rfl
    rw [Digits.ofNat_zero]
    rfl

private theorem callGlobal_parseInt (s : String) (x : Double) :
    Namespace.callGlobal "parseInt" [.string s, .number x] =
      .ok (.number (readInt s.toList x.toInt32)) := rfl

private theorem call_toString (limits : FormulaLimits) (x : Double) {y : Double}
    (h : inRange y.toInt32 = true) :
    Method.call limits (.number x) "toString" [.number y] =
      pure (.string (String.ofList (chars x y.toInt32.toNat))) := by
  have hplaces : ((Method.number? [.number y] 0).map Double.toInt32).getD 10 = y.toInt32 := rfl
  simp only [Method.call, Method.onNumber, hplaces, h, ite_true, Method.text]

/-- An integer of at most 53 bits is written in every radix as its sign and a numeral of its size,
and this text is read as the integer again, as it is where formulas call the two. -/
theorem parseInt_toString (hn : n.natAbs < 2 ^ 53) (low : 2 ≤ radix) (high : radix ≤ 36)
    (limits : FormulaLimits) :
    readInt (chars (Double.ofInt n) radix) radix = Double.ofInt n ∧
    ((chars (Double.ofInt n) radix).head? = some '-' ↔ n < 0) ∧
    (∃ digits, chars (Double.ofInt n) radix = Digits.signOf n ++ digits ∧
      Digits.IsNumeral radix digits n.natAbs ∧ (digits.head? = some '0' ↔ n = 0)) ∧
    ∃ s : String, s.toList = chars (Double.ofInt n) radix ∧
      Method.call limits (.number (Double.ofInt n)) "toString" [.number (Double.ofNat radix)] =
        pure (.string s) ∧
      Namespace.callGlobal "parseInt" [.string s, .number (Double.ofNat radix)] =
        .ok (.number (Double.ofInt n)) := by
  have hnumeral := Digits.isNumeral_ofNat low high n.natAbs
  have hchars := chars_ofInt hn low high
  have hread : readInt (chars (Double.ofInt n) radix) radix = Double.ofInt n := by
    rw [hchars, readInt_numeral hnumeral hn low high]
  have hindex := Double.toInt32_ofNat (show radix < 2 ^ 31 by omega)
  refine ⟨hread, hchars ▸ head_numeral hnumeral high, ⟨_, hchars, hnumeral, ?_⟩,
    String.ofList (chars (Double.ofInt n) radix), String.toList_ofList, ?_, ?_⟩
  · rw [head_zero_iff high, Int.natAbs_eq_zero]
  · rw [call_toString limits _ (by rw [hindex]; exact inRange_natCast low high), hindex,
      Int.toNat_natCast]
  · rw [callGlobal_parseInt, hindex, String.toList_ofList, hread]

/-- A negative integer in the radix of the hexadecimal mark. -/
theorem parseInt_toString_negative :
    (-255 : Int).natAbs < 2 ^ 53 ∧ chars (Double.ofInt (-255)) 16 = "-ff".toList ∧
      readInt (chars (Double.ofInt (-255)) 16) 16 = Double.ofInt (-255) := by
  refine ⟨by decide, ?_, ?_⟩
  · rw [chars_ofInt (by decide) (by decide) (by decide)]
    decide +kernel
  · exact (@parseInt_toString 16 (-255) (by decide) (by decide) (by decide) {}).1

end LiveText.Radix
