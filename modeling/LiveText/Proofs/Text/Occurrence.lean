import LiveText.Text.Search

/-!
# First occurrences

Where the first occurrence of a text lies is decided by the places in front of it: if none of them
begins an occurrence, finding and replacing pass over them. A text that occurs at all cuts the other
one in two at its first occurrence.
-/

namespace LiveText.Text

private theorem isPrefixOf_eq_false {needle cs : List Char} (h : ¬ needle <+: cs) :
    needle.isPrefixOf cs = false := by
  simpa only [Bool.eq_false_iff, ne_eq, List.isPrefixOf_iff_prefix] using h

/-- No occurrence of a text begins in `before` when `after` follows it. -/
def NoneBegins (needle before after : List Char) : Prop :=
  ∀ c rest, c :: rest <:+ before → ¬ needle <+: c :: rest ++ after

theorem NoneBegins.nil (needle after : List Char) : NoneBegins needle [] after := by
  intro c rest h
  have hnil := List.suffix_nil.mp h
  cases hnil

theorem NoneBegins.head {needle before after : List Char} {c : Char}
    (h : NoneBegins needle (c :: before) after) : ¬ needle <+: c :: (before ++ after) :=
  h c before (List.suffix_refl _)

theorem NoneBegins.tail {needle before after : List Char} {c : Char}
    (h : NoneBegins needle (c :: before) after) : NoneBegins needle before after :=
  fun d rest hs => h d rest (hs.trans (List.suffix_cons c before))

/-- One more place in front begins no occurrence if the whole text does not start with one. -/
theorem NoneBegins.cons {needle before after : List Char} {c : Char}
    (h : NoneBegins needle before after) (hc : ¬ needle <+: c :: (before ++ after)) :
    NoneBegins needle (c :: before) after := by
  intro d rest hs
  rcases List.suffix_cons_iff.mp hs with he | hs
  · cases he
    exact hc
  · exact h d rest hs

/-- Replacing passes over places where no occurrence begins. -/
theorem replaceFirst_append {old before after : List Char} (new : List Char)
    (h : NoneBegins old before after) :
    replaceFirst old new (before ++ after) = before ++ replaceFirst old new after := by
  induction before with
  | nil => rfl
  | cons c before ih =>
    have hc := isPrefixOf_eq_false h.head
    simp only [List.cons_append, replaceFirst, hc, Bool.false_eq_true, ite_false, ih h.tail]

/-- Finding passes over places where no occurrence begins. -/
theorem find?_append {needle before after : List Char} (h : NoneBegins needle before after) :
    find? needle (before ++ after) = (find? needle after).map (· + before.length) := by
  induction before with
  | nil => simp
  | cons c before ih =>
    have hc := isPrefixOf_eq_false h.head
    simp only [List.cons_append, find?, hc, Bool.false_eq_true, ite_false, ih h.tail,
      Option.map_map, List.length_cons]
    rfl

/-- An occurrence in front is the one that is replaced. -/
theorem replaceFirst_self_append (old new after : List Char) :
    replaceFirst old new (old ++ after) = new ++ after := by
  cases h : old ++ after with
  | nil =>
    obtain ⟨rfl, rfl⟩ := List.append_eq_nil_iff.mp h
    simp [replaceFirst]
  | cons c rest =>
    have hp : old.isPrefixOf (c :: rest) = true :=
      List.isPrefixOf_iff_prefix.mpr (h ▸ List.prefix_append old after)
    rw [replaceFirst, if_pos hp, ← h, List.drop_left]

/-- An occurrence in front is the one that is found. -/
theorem find?_self_append (needle after : List Char) : find? needle (needle ++ after) = some 0 := by
  cases h : needle ++ after with
  | nil =>
    obtain ⟨rfl, rfl⟩ := List.append_eq_nil_iff.mp h
    simp [find?]
  | cons c rest =>
    have hp : needle.isPrefixOf (c :: rest) = true :=
      List.isPrefixOf_iff_prefix.mpr (h ▸ List.prefix_append needle after)
    rw [find?, if_pos hp]

/-- A text in which one pair after another replaces the first occurrence of its first text, in what
the text has become by then, by its second. -/
def replaceEach : List (List Char × List Char) → List Char → List Char
  | [], cs => cs
  | (old, new) :: rest, cs => replaceEach rest (replaceFirst old new cs)

/-- A text occurs in another exactly if it is a part of it. -/
theorem occurs_eq_true_iff {needle cs : List Char} : occurs needle cs = true ↔ needle <:+: cs := by
  induction cs with
  | nil => simp [occurs, find?]
  | cons c rest ih =>
    rw [List.infix_cons_iff, ← ih, ← List.isPrefixOf_iff_prefix]
    by_cases hp : needle.isPrefixOf (c :: rest) = true
    · simp [occurs, find?, hp]
    · simp [occurs, find?, hp]

/-- A text that occurs in another cuts it in two at a place before which it does not occur. -/
theorem exists_first_of_occurs {needle cs : List Char} (hne : needle ≠ [])
    (h : occurs needle cs = true) :
    ∃ before after, cs = before ++ needle ++ after ∧ occurs needle before = false := by
  induction cs with
  | nil => simp [occurs, find?, hne] at h
  | cons c rest ih =>
    by_cases hp : needle <+: c :: rest
    · obtain ⟨after, hafter⟩ := hp
      exact ⟨[], after, hafter.symm, by simp [occurs, find?, hne]⟩
    · have hc := isPrefixOf_eq_false hp
      have hrest : occurs needle rest = true := by simpa [occurs, find?, hc] using h
      obtain ⟨before, after, heq, hnone⟩ := ih hrest
      refine ⟨c :: before, after, by rw [heq]; rfl, ?_⟩
      have hb : needle.isPrefixOf (c :: before) = false := by
        apply isPrefixOf_eq_false
        intro hpre
        apply hp
        rw [heq, List.append_assoc]
        exact hpre.trans (List.prefix_append (c :: before) (needle ++ after))
      simpa [occurs, find?, hb] using hnone

/-- Dropping a character from the front leaves a text free of occurrences. -/
theorem occurs_tail {needle cs : List Char} {c : Char} (h : occurs needle (c :: cs) = false) :
    ¬ needle <+: c :: cs ∧ occurs needle cs = false := by
  by_cases hp : needle.isPrefixOf (c :: cs) = true
  · simp [occurs, find?, hp] at h
  · refine ⟨fun hpre => hp (List.isPrefixOf_iff_prefix.mpr hpre), ?_⟩
    simpa [occurs, find?, hp] using h

/-- A text without a character does not begin in front of that character and run past it. -/
theorem prefix_of_prefix_append_cons {needle : List Char} {d : Char} (hd : d ∉ needle)
    (cs : List Char) {after : List Char} (h : needle <+: cs ++ d :: after) : needle <+: cs := by
  rcases List.prefix_or_prefix_of_prefix h (List.prefix_append cs (d :: after)) with hp | ⟨t, rfl⟩
  · exact hp
  · have ht := (List.prefix_append_right_inj cs).mp h
    cases t with
    | nil => simp
    | cons c t =>
      obtain ⟨rfl, -⟩ := List.cons_prefix_cons.mp ht
      simp at hd

/-- No occurrence runs across a character that the text lacks. -/
theorem occurs_append_cons {needle : List Char} {d : Char} (hne : needle ≠ []) (hd : d ∉ needle)
    (cs after : List Char) :
    occurs needle (cs ++ d :: after) = (occurs needle cs || occurs needle after) := by
  rw [Bool.eq_iff_iff, Bool.or_eq_true, occurs_eq_true_iff, occurs_eq_true_iff, occurs_eq_true_iff]
  induction cs with
  | nil =>
    have hhead : ¬ needle <+: d :: after := fun h =>
      hne (List.prefix_nil.mp (prefix_of_prefix_append_cons hd [] h))
    simp [List.infix_cons_iff, hhead, hne]
  | cons c cs ih =>
    have hhead : needle <+: c :: (cs ++ d :: after) ↔ needle <+: c :: cs :=
      ⟨prefix_of_prefix_append_cons hd (c :: cs),
        fun h => h.trans (List.prefix_append (c :: cs) (d :: after))⟩
    rw [List.cons_append, List.infix_cons_iff, List.infix_cons_iff, hhead, ih, or_assoc]

/-- Where a text does not occur, it does not begin in front of a character that it lacks. -/
theorem noneBegins_of_not_mem {needle before : List Char} {d : Char} (hd : d ∉ needle)
    (h : occurs needle before = false) (after : List Char) :
    NoneBegins needle before (d :: after) := by
  induction before with
  | nil => exact NoneBegins.nil _ _
  | cons c before ih =>
    obtain ⟨hc, hrest⟩ := occurs_tail h
    exact (ih hrest).cons fun hpre => hc (prefix_of_prefix_append_cons hd (c :: before) hpre)

/-- What follows a text stays when an occurrence in the text is replaced. -/
theorem replaceFirst_append_of_occurs {old cs : List Char} (new : List Char)
    (h : occurs old cs = true) (after : List Char) :
    replaceFirst old new (cs ++ after) = replaceFirst old new cs ++ after := by
  rw [occurs_eq_true_iff] at h
  induction cs with
  | nil =>
    obtain rfl := List.infix_nil.mp h
    exact replaceFirst_self_append [] new after
  | cons c rest ih =>
    by_cases hp : old <+: c :: rest
    · obtain ⟨more, hmore⟩ := hp
      rw [← hmore, List.append_assoc, replaceFirst_self_append, replaceFirst_self_append,
        List.append_assoc]
    · have hrest : old <:+: rest := (List.infix_cons_iff.mp h).resolve_left hp
      -- what occurs in the rest is too short to begin here and run past the end
      have hlong : ¬ old <+: c :: (rest ++ after) := by
        intro hpre
        have hshort : old.length ≤ (c :: rest).length := Nat.le_succ_of_le hrest.length_le
        have hsame : c :: rest <+: (c :: rest) ++ after := List.prefix_append (c :: rest) after
        exact hp (List.prefix_of_prefix_length_le hpre hsame hshort)
      rw [List.cons_append, replaceFirst, if_neg (by simpa using hlong), replaceFirst,
        if_neg (by simpa using hp), ih hrest, List.cons_append]

/-- Replacing an occurrence exchanges its characters for the new ones. -/
theorem length_replaceFirst {old cs : List Char} (new : List Char) (h : occurs old cs = true) :
    (replaceFirst old new cs).length + old.length = cs.length + new.length := by
  rw [occurs_eq_true_iff] at h
  induction cs with
  | nil =>
    obtain rfl := List.infix_nil.mp h
    simp [replaceFirst]
  | cons c rest ih =>
    by_cases hp : old <+: c :: rest
    · obtain ⟨more, hmore⟩ := hp
      rw [← hmore, replaceFirst_self_append]
      simp only [List.length_append]
      omega
    · have hrest := ih ((List.infix_cons_iff.mp h).resolve_left hp)
      rw [replaceFirst, if_neg (by simpa using hp), List.length_cons, List.length_cons]
      omega

end LiveText.Text
