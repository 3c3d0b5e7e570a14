/-!
# Finding and replacing

Occurrences of one text in another, counted in characters. The empty text occurs at once, in front.
-/

namespace LiveText.Text

/-- The position of the first occurrence. -/
def find? (needle : List Char) : List Char → Option Nat
  | [] => if needle.isEmpty then some 0 else none
  | c :: rest =>
    if needle.isPrefixOf (c :: rest) then some 0 else (find? needle rest).map (· + 1)

/-- Whether there is an occurrence. -/
def occurs (needle cs : List Char) : Bool := (find? needle cs).isSome

/-- The text with its first occurrence of `old` replaced. -/
def replaceFirst (old new : List Char) : List Char → List Char
  | [] => if old.isEmpty then new else []
  | c :: rest =>
    if old.isPrefixOf (c :: rest) then new ++ (c :: rest).drop old.length
    else c :: replaceFirst old new rest

/-- The text with every doubled `d` made single, from left to right. -/
def collapse (d : Char) : List Char → List Char
  | a :: b :: rest =>
    if a = d ∧ b = d then d :: collapse d rest else a :: collapse d (b :: rest)
  | cs => cs

/-- The text with every `d` doubled. -/
def double (d : Char) (cs : List Char) : List Char :=
  cs.flatMap fun c => if c = d then [d, d] else [c]

/-- The pieces between the occurrences of the text `first :: more`, from left to right. -/
def splitOnText (first : Char) (more : List Char) : List Char → List (List Char)
  | [] => [[]]
  | c :: rest =>
    if c = first ∧ more.isPrefixOf rest then [] :: splitOnText first more (rest.drop more.length)
    else
      match splitOnText first more rest with
      | [] => [[c]]
      | piece :: pieces => (c :: piece) :: pieces
termination_by cs => cs.length
decreasing_by
  · exact Nat.lt_succ_of_le (List.drop_sublist _ _).length_le
  · exact Nat.lt_succ_self _

/-- The text before the first `d` and the text after it. -/
def cutFirst? (d : Char) : List Char → Option (List Char × List Char)
  | [] => none
  | c :: rest =>
    if c = d then some ([], rest)
    else (cutFirst? d rest).map fun (before, after) => (c :: before, after)

/-- The text before the last `d` and the text after it. -/
def cutLast? (d : Char) : List Char → Option (List Char × List Char)
  | [] => none
  | c :: rest =>
    match cutLast? d rest with
    | some (before, after) => some (c :: before, after)
    | none => if c = d then some ([], rest) else none

/-- The place of the first `d` cuts the text in two, and none stands before it. -/
theorem cutFirst?_eq_some_iff {d : Char} {cs before after : List Char} :
    cutFirst? d cs = some (before, after) ↔ cs = before ++ d :: after ∧ d ∉ before := by
  induction cs generalizing before with
  | nil => simp [cutFirst?]
  | cons c rest ih =>
    by_cases hc : c = d
    · subst hc
      cases before with
      | nil => simp [cutFirst?]
      | cons b bs => simp [cutFirst?]; intro h _; simp [h]
    · cases before with
      | nil => simp [cutFirst?, hc]
      | cons b bs => simp [cutFirst?, hc]; grind

/-- Only a text without `d` is not cut. -/
theorem cutFirst?_eq_none_iff {d : Char} {cs : List Char} : cutFirst? d cs = none ↔ d ∉ cs := by
  induction cs with
  | nil => simp [cutFirst?]
  | cons c rest ih =>
    by_cases hc : c = d
    · simp [cutFirst?, hc]
    · simp [cutFirst?, hc, ih, Ne.symm hc]

/-- What follows the first `d` is shorter than the text. -/
theorem length_of_cutFirst? {d : Char} {cs before after : List Char}
    (h : cutFirst? d cs = some (before, after)) : after.length < cs.length := by
  rw [(cutFirst?_eq_some_iff.1 h).1]
  simp
  omega

/-- Only a text without `d` is not cut. -/
theorem cutLast?_eq_none_iff {d : Char} {cs : List Char} : cutLast? d cs = none ↔ d ∉ cs := by
  induction cs with
  | nil => simp [cutLast?]
  | cons c rest ih =>
    rw [cutLast?, List.mem_cons, not_or, ← ih, @eq_comm _ d c]
    cases cutLast? d rest <;> simp

/-- The place of the last `d` cuts the text in two, and none stands after it. -/
theorem cutLast?_eq_some_iff {d : Char} {cs before after : List Char} :
    cutLast? d cs = some (before, after) ↔ cs = before ++ d :: after ∧ d ∉ after := by
  induction cs generalizing before after with
  | nil => simp [cutLast?]
  | cons c rest ih =>
    rw [cutLast?]
    cases hcut : cutLast? d rest with
    | none =>
      have hrest : d ∉ rest := cutLast?_eq_none_iff.mp hcut
      cases before <;> grind
    | some cut =>
      have hrest := ih.mp hcut
      cases before with
      | nil => grind
      | cons b bs =>
        have hbs : some cut = some (bs, after) ↔ rest = bs ++ d :: after ∧ d ∉ after :=
          hcut ▸ ih
        grind

/-- Doubling and collapsing are inverse. -/
theorem collapse_double (d : Char) (cs : List Char) : collapse d (double d cs) = cs := by
  induction cs with
  | nil => rfl
  | cons c rest ih =>
    by_cases hc : c = d
    · simpa [double, hc, collapse] using ih
    · have hd : double d (c :: rest) = c :: double d rest := by simp [double, hc]
      rw [hd]
      cases h : double d rest with
      | nil => rw [h] at ih; simpa [collapse] using ih
      | cons b bs => rw [← ih, h]; simp [collapse, hc]

end LiveText.Text
