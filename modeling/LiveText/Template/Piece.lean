/-!
# Pieces of a template

A template is read from left to right. At an opening brace the candidate token is the shortest text
on the same line that ends in a closing brace and has at least one character inside; every other
character stands for itself. `flatMap_chars_scan` says that the pieces make up the template.
-/

namespace LiveText

/-- A piece of a template. -/
inductive Piece where
  /-- A character that belongs to no candidate. -/
  | plain (c : Char)
  /-- A candidate token, given by the text between its braces. -/
  | braced (inner : List Char)
deriving DecidableEq, Repr

namespace Piece

/-- The text between braces with its braces. -/
def token (inner : List Char) : List Char := '{' :: (inner ++ ['}'])

/-- The characters of a piece. -/
def chars : Piece → List Char
  | plain c => [c]
  | braced inner => token inner

/-- The text between the braces, if the piece is a candidate. -/
def inner? : Piece → Option (List Char)
  | plain _ => none
  | braced inner => some inner

/-- The text before the first closing brace of the line and the text after the brace. -/
def cutLine? : List Char → Option (List Char × List Char)
  | [] => none
  | c :: rest =>
    if c = '}' then some ([], rest)
    else if c = '\n' then none
    else (cutLine? rest).map fun (before, after) => (c :: before, after)

/-- The inner text of a candidate, whose opening brace has been read, and the text after its closing
brace. The first character is inside whatever it is, unless it ends the line. -/
def cutInner? : List Char → Option (List Char × List Char)
  | [] => none
  | c :: rest =>
    if c = '\n' then none
    else (cutLine? rest).map fun (before, after) => (c :: before, after)

/-- What is cut off a line and what follows make up the text. -/
theorem eq_append_of_cutLine? {cs before after : List Char}
    (h : cutLine? cs = some (before, after)) : cs = before ++ '}' :: after := by
  induction cs generalizing before with
  | nil => simp [cutLine?] at h
  | cons c rest ih =>
    simp only [cutLine?] at h
    split at h
    · simp_all
    · split at h
      · simp at h
      · obtain ⟨⟨b, a⟩, hcut, heq⟩ := Option.map_eq_some_iff.1 h
        simp only [Prod.mk.injEq] at heq
        obtain ⟨rfl, rfl⟩ := heq
        simpa using ih hcut

/-- A candidate's inner text and what follows make up the text. -/
theorem eq_append_of_cutInner? {cs inner after : List Char}
    (h : cutInner? cs = some (inner, after)) : cs = inner ++ '}' :: after := by
  cases cs with
  | nil => simp [cutInner?] at h
  | cons c rest =>
    simp only [cutInner?] at h
    split at h
    · simp at h
    · obtain ⟨⟨b, a⟩, hcut, heq⟩ := Option.map_eq_some_iff.1 h
      simp only [Prod.mk.injEq] at heq
      obtain ⟨rfl, rfl⟩ := heq
      simpa using eq_append_of_cutLine? hcut

/-- What follows a candidate is shorter than the text. -/
theorem length_of_cutInner? {cs inner after : List Char}
    (h : cutInner? cs = some (inner, after)) : after.length < cs.length := by
  rw [eq_append_of_cutInner? h]
  simp
  omega

/-- The pieces of a template. -/
def scan : List Char → List Piece
  | [] => []
  | c :: rest =>
    if c = '{' then
      match _h : cutInner? rest with
      | some (inner, after) => .braced inner :: scan after
      | none => .plain c :: scan rest
    else .plain c :: scan rest
termination_by cs => cs.length
decreasing_by
  · exact Nat.lt_succ_of_lt (length_of_cutInner? _h)
  · exact Nat.lt_succ_self _
  · exact Nat.lt_succ_self _

/-- The pieces of a template make it up. -/
theorem flatMap_chars_scan (cs : List Char) : (scan cs).flatMap chars = cs := by
  fun_induction scan cs with
  | case1 => rfl
  | case2 rest inner after h ih =>
    simpa [chars, token, ih] using (eq_append_of_cutInner? h).symm
  | case3 rest h ih => simp [chars, ih]
  | case4 c rest hc ih => simp [chars, ih]

end Piece

end LiveText
