import LiveText.Text.Ranges

/-!
# Blank characters

Blank characters are those with the Unicode property White_Space. Trimming removes them at the ends
of a text: `trimEnd_append` says that nothing else is lost, `trimStart_head` that none is left in
front.
-/

namespace LiveText.Text

/-- The characters with the property White_Space. -/
def whiteSpace : Ranges :=
  [(0x0009, 0x000D), (0x0020, 0x0020), (0x0085, 0x0085), (0x00A0, 0x00A0), (0x1680, 0x1680),
   (0x2000, 0x200A), (0x2028, 0x2029), (0x202F, 0x202F), (0x205F, 0x205F), (0x3000, 0x3000)]

/-- Whether a character is blank. -/
def isBlank (c : Char) : Bool := whiteSpace.contains c.toNat

/-- The text without the blanks in front. -/
def trimStart (cs : List Char) : List Char := cs.dropWhile isBlank

/-- The text without the blanks at the end. -/
def trimEnd : List Char → List Char
  | [] => []
  | c :: rest =>
    match trimEnd rest with
    | [] => if isBlank c then [] else [c]
    | kept => c :: kept

/-- The text without the blanks at either end. -/
def trim (cs : List Char) : List Char := trimEnd (trimStart cs)

/-- Trimming the front leaves no blank there. -/
theorem trimStart_head {cs : List Char} {c : Char} (h : (trimStart cs).head? = some c) :
    isBlank c = false := by
  have := List.head?_dropWhile_not isBlank cs
  rw [trimStart] at h
  simpa [h] using this

/-- What is trimmed at the end is blank. -/
theorem trimEnd_append (cs : List Char) :
    ∃ blanks, cs = trimEnd cs ++ blanks ∧ ∀ c ∈ blanks, isBlank c := by
  induction cs with
  | nil => exact ⟨[], rfl, by simp⟩
  | cons c rest ih =>
    obtain ⟨blanks, hrest, hall⟩ := ih
    simp only [trimEnd]
    split
    next hnil =>
      rw [hnil, List.nil_append] at hrest
      by_cases hc : isBlank c
      · exact ⟨c :: blanks, by simp [hc, hrest], by simpa [hc] using hall⟩
      · exact ⟨blanks, by simp [hc, hrest], hall⟩
    next => exact ⟨blanks, congrArg (c :: ·) hrest, hall⟩

end LiveText.Text
