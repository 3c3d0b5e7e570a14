import LiveText.Text.Search

/-!
# Literal braces

A brace that stands for itself is written twice. `unescape_escape` says that every text can be
written so.
-/

namespace LiveText.Template

open Text

/-- The text with literal braces written once: opening braces first, then closing ones. -/
def unescapeChars (cs : List Char) : List Char := collapse '}' (collapse '{' cs)

/-- The text with every brace written twice. -/
def escapeChars (cs : List Char) : List Char := double '{' (double '}' cs)

/-- The text with literal braces written once. -/
def unescape (text : String) : String := String.ofList (unescapeChars text.toList)

/-- The text with every brace written twice. -/
def escape (text : String) : String := String.ofList (escapeChars text.toList)

/-- What is written with doubled braces reads as itself. -/
theorem unescapeChars_escapeChars (cs : List Char) : unescapeChars (escapeChars cs) = cs := by
  rw [unescapeChars, escapeChars, collapse_double, collapse_double]

/-- What is written with doubled braces reads as itself. -/
theorem unescape_escape (text : String) : unescape (escape text) = text := by
  simp [unescape, escape, unescapeChars_escapeChars]

end LiveText.Template
