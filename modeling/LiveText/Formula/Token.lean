import LiveText.Number.Layout

/-!
# Tokens of formulas

Formulas are made of numbers, quoted texts, names and punctuation.
-/

namespace LiveText

/-- The punctuation of formulas. -/
inductive Punct where
  | identical | notIdentical | equal | notEqual | atMost | atLeast | and | or | coalesce
  | plus | minus | times | slash | percent | below | above | bang | question | colon
  | openParen | closeParen | openBracket | closeBracket | comma | dot
deriving DecidableEq, Repr

namespace Punct

/-- The characters that a punctuation is written with. -/
def spelling : Punct → List Char
  | identical => ['=', '=', '=']
  | notIdentical => ['!', '=', '=']
  | equal => ['=', '=']
  | notEqual => ['!', '=']
  | atMost => ['<', '=']
  | atLeast => ['>', '=']
  | and => ['&', '&']
  | or => ['|', '|']
  | coalesce => ['?', '?']
  | plus => ['+']
  | minus => ['-']
  | times => ['*']
  | slash => ['/']
  | percent => ['%']
  | below => ['<']
  | above => ['>']
  | bang => ['!']
  | question => ['?']
  | colon => [':']
  | openParen => ['(']
  | closeParen => [')']
  | openBracket => ['[']
  | closeBracket => [']']
  | comma => [',']
  | dot => ['.']

/-- All punctuation, the longer spellings first. -/
def all : List Punct :=
  [identical, notIdentical, equal, notEqual, atMost, atLeast, and, or, coalesce, plus, minus, times,
   slash, percent, below, above, bang, question, colon, openParen, closeParen, openBracket,
   closeBracket, comma, dot]

/-- The longest punctuation in front of a text. -/
def inFront? (cs : List Char) : Option Punct := all.find? fun p => p.spelling.isPrefixOf cs

/-- Every punctuation is in the table. -/
theorem mem_all (p : Punct) : p ∈ all := by cases p <;> decide

/-- The table goes from long spellings to short ones. -/
theorem all_sorted : all.Pairwise fun p q => q.spelling.length ≤ p.spelling.length := by decide

theorem spelling_ne_nil (p : Punct) : p.spelling ≠ [] := by cases p <;> simp [spelling]

end Punct

/-- A token of a formula. -/
inductive Token where
  | number (x : Double)
  | string (s : String)
  | name (s : String)
  | punct (p : Punct)
deriving DecidableEq

namespace Token

/-- How a message speaks of a token. -/
def describe : Token → String
  | number (.infinity _) => "number inf"
  | number x => "number " ++ String.ofList (Layout.plain.chars x)
  | string s => "string '" ++ s ++ "'"
  | name s => "'" ++ s ++ "'"
  | punct p => "'" ++ String.ofList p.spelling ++ "'"

end Token

/-- A token and the number of characters before it. -/
structure PlacedToken where
  token : Token
  position : Nat
deriving DecidableEq

end LiveText
