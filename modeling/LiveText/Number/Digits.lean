/-!
# Positional digits

Natural numbers written in a base from 2 to 36, with the letters after the ten digits. `value_ofNat`
says that the digits of a number denote it, and `ofNat_head` that no zero stands in front.
-/

namespace LiveText.Digits

/-- The lower-case character of a digit below 36. -/
def char (d : Nat) : Char :=
  if d < 10 then Char.ofNat ('0'.toNat + d) else Char.ofNat ('a'.toNat + (d - 10))

/-- The digit that a character stands for in any base up to 36; letter case does not matter. -/
def digit? (c : Char) : Option Nat :=
  if c.isDigit then some (c.toNat - '0'.toNat)
  else if 'a' ≤ c ∧ c ≤ 'z' then some (c.toNat - 'a'.toNat + 10)
  else if 'A' ≤ c ∧ c ≤ 'Z' then some (c.toNat - 'A'.toNat + 10)
  else none

/-- The digit that a character stands for in a base. -/
def inBase? (base : Nat) (c : Char) : Option Nat := (digit? c).filter (· < base)

/-- The digits of a number, most significant first; a base below 2 is read as 2. -/
def ofNat (base n : Nat) : List Char :=
  let b := max 2 base
  if n < b then [char n] else ofNat base (n / b) ++ [char (n % b)]
termination_by n
decreasing_by exact Nat.div_lt_self (by omega) (by omega)

/-- The decimal digits of a number with zeros in front, at least `width` of them. -/
def padded (width n : Nat) : List Char :=
  List.replicate (width - (ofNat 10 n).length) '0' ++ ofNat 10 n

/-- The number that a list of digit values denotes. -/
def valueOf (base : Nat) (ds : List Nat) : Nat := ds.foldl (fun acc d => acc * base + d) 0

/-- The number that digit characters denote in a base; other characters count as zero. -/
def value (base : Nat) (cs : List Char) : Nat :=
  valueOf base (cs.map fun c => (digit? c).getD 0)

/-- A decimal index of at most 64 bits; a plus sign may stand in front. -/
def readIndex? (cs : List Char) : Option Nat :=
  let digits := match cs with
    | '+' :: rest => rest
    | _ => cs
  if digits.isEmpty || !digits.all Char.isDigit then none
  else
    let n := value 10 digits
    if n < Nat.pow 2 64 then some n else none

/-- A digit character stands for its digit. -/
theorem digit?_char {d : Nat} (h : d < 36) : digit? (char d) = some d := by
  have all : ∀ d : Fin 36, digit? (char d) = some d.val := by decide
  exact all ⟨d, h⟩

theorem valueOf_append_singleton (base d : Nat) (ds : List Nat) :
    valueOf base (ds ++ [d]) = valueOf base ds * base + d := by
  simp [valueOf]

theorem value_append_singleton (base : Nat) (cs : List Char) (c : Char) :
    value base (cs ++ [c]) = value base cs * base + (digit? c).getD 0 := by
  simp [value, valueOf_append_singleton]

/-- The digits of a number denote it. -/
theorem value_ofNat {base : Nat} (low : 2 ≤ base) (high : base ≤ 36) (n : Nat) :
    value base (ofNat base n) = n := by
  fun_induction ofNat base n with
  | case1 n b h =>
    have hb : b = base := by omega
    simp [value, valueOf, digit?_char (show n < 36 by omega)]
  | case2 n b h ih =>
    have hb : b = base := by omega
    rw [value_append_singleton, ih, digit?_char (show n % b < 36 by
      have := Nat.mod_lt n (show 0 < b by omega); omega), hb]
    exact Nat.div_add_mod' n base

theorem ofNat_ne_nil (base n : Nat) : ofNat base n ≠ [] := by
  rw [ofNat]
  split <;> simp

private theorem char_ne_zero {d : Nat} (pos : 0 < d) (h : d < 36) : char d ≠ '0' := by
  have all : ∀ d : Fin 36, 0 < d.val → char d ≠ '0' := by decide
  exact all ⟨d, h⟩ pos

/-- Only zero itself is written with a leading zero. -/
theorem ofNat_head {base n : Nat} (high : base ≤ 36) (pos : 0 < n) :
    (ofNat base n).head? ≠ some '0' := by
  fun_induction ofNat base n with
  | case1 n b h => simpa using char_ne_zero pos (show n < 36 by omega)
  | case2 n b h ih =>
    have hq : 0 < n / b := Nat.div_pos (by omega) (by omega)
    have hne := ofNat_ne_nil base (n / b)
    cases hd : ofNat base (n / b) with
    | nil => exact absurd hd hne
    | cons c cs => simpa [hd] using ih hq

end LiveText.Digits
