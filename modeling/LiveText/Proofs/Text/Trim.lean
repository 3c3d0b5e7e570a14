import LiveText.Text.Blank

/-!
# What is not trimmed

Trimming takes nothing from a text that has no blanks (`trim_of_not_isBlank`), or none at its ends
(`trim_of_ends`), nor from two such texts with anything between them (`trim_append_append`). Digits
are no blanks.
-/

namespace LiveText.Text

/-- Nothing is trimmed off the front of a text without blanks. -/
theorem trimStart_of_not_isBlank {cs : List Char} (h : ∀ c ∈ cs, isBlank c = false) :
    trimStart cs = cs := by
  cases cs with
  | nil => rfl
  | cons c cs => rw [trimStart, List.dropWhile_cons_of_neg (by simp [h])]

/-- Nothing is trimmed off a text without blanks. -/
theorem trim_of_not_isBlank {cs : List Char} (h : ∀ c ∈ cs, isBlank c = false) : trim cs = cs := by
  obtain ⟨blanks, happend, hblanks⟩ := trimEnd_append cs
  have hnone : blanks = [] := by
    apply List.eq_nil_iff_forall_not_mem.mpr
    intro c hc
    have hcs := h c (happend ▸ List.mem_append_right _ hc)
    rw [hblanks c hc] at hcs
    cases hcs
  rw [hnone, List.append_nil] at happend
  rw [trim, trimStart_of_not_isBlank h, ← happend]

/-- The end of a text is not trimmed if the end of a part there is not. -/
theorem trimEnd_append_of_eq_self {cs : List Char} (front : List Char) (hne : cs ≠ [])
    (h : trimEnd cs = cs) : trimEnd (front ++ cs) = front ++ cs := by
  induction front with
  | nil => exact h
  | cons c front ih =>
    rw [List.cons_append, trimEnd, ih]
    split
    · rename_i hnil
      exact absurd (List.append_eq_nil_iff.mp hnil).2 hne
    · rfl

/-- The end of a text is not trimmed if it is no blank. -/
private theorem trimEnd_append_singleton (cs : List Char) {d : Char} (h : isBlank d = false) :
    trimEnd (cs ++ [d]) = cs ++ [d] :=
  trimEnd_append_of_eq_self cs (List.cons_ne_nil d []) (by simp [trimEnd, h])

/-- Nothing is trimmed off a text whose ends are no blanks. -/
theorem trim_of_ends {c d : Char} {cs : List Char} (hc : isBlank c = false)
    (hd : isBlank d = false) : trim (c :: (cs ++ [d])) = c :: (cs ++ [d]) := by
  have hstart : trimStart (c :: (cs ++ [d])) = c :: (cs ++ [d]) :=
    List.dropWhile_cons_of_neg (Bool.eq_false_iff.mp hc)
  rw [trim, hstart]
  exact trimEnd_append_singleton (c :: cs) hd

/-- Of a text that trimming leaves as it is, nothing is trimmed at the front. -/
theorem trimStart_of_trim {cs : List Char} (h : trim cs = cs) : trimStart cs = cs := by
  obtain ⟨blanks, happend, -⟩ := trimEnd_append (trimStart cs)
  have hkept : trimStart cs = cs ++ blanks := by
    rw [happend]
    exact congrArg (· ++ blanks) h
  have hsuffix : trimStart cs <:+ cs := List.dropWhile_suffix _
  refine hsuffix.eq_of_length_le ?_
  rw [hkept, List.length_append]
  exact Nat.le_add_right _ _

/-- A text that begins with no blank is trimmed at its end only. -/
theorem exists_trim_cons {c : Char} (h : isBlank c = false) (cs : List Char) :
    ∃ rest, trim (c :: cs) = c :: rest := by
  have hstart : trimStart (c :: cs) = c :: cs :=
    List.dropWhile_cons_of_neg (Bool.eq_false_iff.mp h)
  rw [trim, hstart, trimEnd]
  split
  · exact ⟨[], by rw [h]; rfl⟩
  · exact ⟨_, rfl⟩

/-- Nothing is trimmed off two texts with something between them if nothing is trimmed off each. -/
theorem trim_append_append {front back : List Char} (hfront : trim front = front)
    (hne : front ≠ []) (hback : trim back = back) (hne' : back ≠ []) (middle : List Char) :
    trim (front ++ (middle ++ back)) = front ++ (middle ++ back) := by
  obtain ⟨c, rest, rfl⟩ := List.exists_cons_of_ne_nil hne
  have hstart := trimStart_of_trim hfront
  have hc : isBlank c = false := trimStart_head (by rw [hstart]; rfl)
  have hwhole : trimStart (c :: rest ++ (middle ++ back)) = c :: rest ++ (middle ++ back) :=
    List.dropWhile_cons_of_neg (Bool.eq_false_iff.mp hc)
  have hend : trimEnd back = back := by
    rw [trim, trimStart_of_trim hback] at hback
    exact hback
  rw [trim, hwhole, ← List.append_assoc]
  exact trimEnd_append_of_eq_self _ hne' hend

/-- The digits are a range of the characters. -/
theorem toNat_of_isDigit {c : Char} (h : c.isDigit = true) : 48 ≤ c.toNat ∧ c.toNat ≤ 57 := by
  simp only [Char.isDigit, Bool.and_eq_true, decide_eq_true_eq, UInt32.le_iff_toNat_le] at h
  exact h

/-- A digit is no blank. -/
theorem isBlank_of_isDigit {c : Char} (h : c.isDigit = true) : isBlank c = false := by
  have all : ∀ n ∈ List.range' 48 10, whiteSpace.contains n = false := by decide
  obtain ⟨hlow, hhigh⟩ := toNat_of_isDigit h
  exact all c.toNat (List.mem_range'_1.mpr ⟨hlow, by omega⟩)

end LiveText.Text
