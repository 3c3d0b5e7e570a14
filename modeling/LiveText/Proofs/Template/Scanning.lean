import LiveText.Template.Piece

/-!
# Scanning a template

The pieces of a template are the only way to cut it up so that candidates are as short as possible
and no opening brace outside them begins one: `scan_eq_iff`. What the text before a candidate is
replaced by cannot make an earlier opening brace begin a candidate, because a line break follows
such a brace before the candidate does.
-/

namespace LiveText.Piece

/-- Whether an opening brace in front of a text begins a candidate. -/
def MakesCandidate (cs : List Char) : Prop :=
  ∃ inner after, cs = inner ++ '}' :: after ∧ inner ≠ [] ∧ '\n' ∉ inner

/-- The rest of a line is cut at its first closing brace. -/
theorem cutLine?_eq_some_iff {cs before after : List Char} :
    cutLine? cs = some (before, after) ↔
      cs = before ++ '}' :: after ∧ '}' ∉ before ∧ '\n' ∉ before := by
  induction cs generalizing before with
  | nil => simp [cutLine?]
  | cons c rest ih =>
    simp only [cutLine?]
    by_cases hclose : c = '}'
    · subst hclose
      cases before with
      | nil => simp [eq_comm]
      | cons b bs =>
        simp only [ite_true, Option.some.injEq, Prod.mk.injEq, List.nil_eq, reduceCtorEq,
          false_and, false_iff]
        rintro ⟨he, hb, -⟩
        obtain ⟨rfl, -⟩ := List.cons.inj he
        exact hb (List.mem_cons_self ..)
    · by_cases hline : c = '\n'
      · subst hline
        cases before with
        | nil => simp
        | cons b bs =>
          simp only [hclose, ite_true, ite_false, reduceCtorEq, false_iff]
          rintro ⟨he, -, hn⟩
          obtain ⟨rfl, -⟩ := List.cons.inj he
          exact hn (List.mem_cons_self ..)
      · simp only [hclose, hline, ite_false, Option.map_eq_some_iff, Prod.exists, Prod.mk.injEq]
        cases before with
        | nil => simp [hclose]
        | cons b bs =>
          simp only [List.cons.injEq, List.cons_append, List.mem_cons, not_or]
          constructor
          · rintro ⟨x, y, hcut, ⟨rfl, rfl⟩, rfl⟩
            obtain ⟨he, hb, hn⟩ := ih.mp hcut
            exact ⟨⟨rfl, he⟩, ⟨Ne.symm hclose, hb⟩, Ne.symm hline, hn⟩
          · rintro ⟨⟨rfl, he⟩, ⟨_, hb⟩, _, hn⟩
            exact ⟨bs, after, ih.mpr ⟨he, hb, hn⟩, ⟨rfl, rfl⟩, rfl⟩

/-- A candidate's inner text is the shortest that is not empty and lies on one line. -/
theorem cutInner?_eq_some_iff {cs inner after : List Char} :
    cutInner? cs = some (inner, after) ↔
      cs = inner ++ '}' :: after ∧ inner ≠ [] ∧ '\n' ∉ inner ∧ '}' ∉ inner.tail := by
  cases cs with
  | nil => simp [cutInner?]
  | cons c rest =>
    simp only [cutInner?]
    cases inner with
    | nil =>
      by_cases hline : c = '\n'
      · simp [hline]
      · simp [hline]
    | cons i is =>
      by_cases hline : c = '\n'
      · subst hline
        simp only [ite_true, reduceCtorEq, List.cons_append, List.cons.injEq, List.mem_cons,
          not_or, false_iff]
        rintro ⟨⟨rfl, _⟩, _, ⟨hne, _⟩, _⟩
        exact hne rfl
      · simp only [hline, ite_false, Option.map_eq_some_iff, Prod.exists, Prod.mk.injEq,
          List.cons.injEq, List.cons_append, ne_eq, reduceCtorEq, not_false_eq_true, true_and,
          List.mem_cons, not_or, List.tail_cons]
        constructor
        · rintro ⟨x, y, hcut, ⟨rfl, rfl⟩, rfl⟩
          obtain ⟨he, hb, hn⟩ := cutLine?_eq_some_iff.mp hcut
          exact ⟨⟨rfl, he⟩, ⟨Ne.symm hline, hn⟩, hb⟩
        · rintro ⟨⟨rfl, he⟩, ⟨_, hn⟩, hb⟩
          exact ⟨is, after, cutLine?_eq_some_iff.mpr ⟨he, hb, hn⟩, ⟨rfl, rfl⟩, rfl⟩

/-- A line without a cut has no closing brace before its end. -/
theorem cutLine?_eq_none_iff {cs : List Char} :
    cutLine? cs = none ↔ ∀ before after, cs = before ++ '}' :: after → '\n' ∈ before := by
  induction cs with
  | nil => simp [cutLine?]
  | cons c rest ih =>
    simp only [cutLine?]
    by_cases hclose : c = '}'
    · subst hclose
      simp only [ite_true, reduceCtorEq, false_iff]
      intro h
      exact List.not_mem_nil (h [] rest rfl)
    · by_cases hline : c = '\n'
      · subst hline
        simp only [hclose, ite_true, ite_false, true_iff]
        intro before after he
        cases before with
        | nil => simp at he
        | cons b bs =>
          obtain ⟨rfl, -⟩ := List.cons.inj he
          exact List.mem_cons_self ..
      · simp only [hclose, hline, ite_false, Option.map_eq_none_iff, ih]
        constructor
        · intro h before after he
          cases before with
          | nil => simp_all
          | cons b bs =>
            obtain ⟨-, he⟩ := List.cons.inj he
            exact List.mem_cons_of_mem b (h bs after he)
        · intro h before after he
          have hmem := h (c :: before) after (by rw [he]; rfl)
          exact (List.mem_cons.mp hmem).resolve_left (Ne.symm hline)

/-- The brace in front of a text begins no candidate when nothing can be cut off. -/
theorem cutInner?_eq_none_iff {cs : List Char} :
    cutInner? cs = none ↔ ¬ MakesCandidate cs := by
  cases cs with
  | nil => simp [cutInner?, MakesCandidate]
  | cons c rest =>
    simp only [cutInner?]
    by_cases hline : c = '\n'
    · subst hline
      simp only [ite_true, true_iff]
      rintro ⟨inner, after, he, hne, hn⟩
      cases inner with
      | nil => exact hne rfl
      | cons i is =>
        obtain ⟨rfl, -⟩ := List.cons.inj he
        exact hn (List.mem_cons_self ..)
    · simp only [hline, ite_false, Option.map_eq_none_iff, cutLine?_eq_none_iff]
      constructor
      · rintro h ⟨inner, after, he, hne, hn⟩
        cases inner with
        | nil => exact hne rfl
        | cons i is =>
          obtain ⟨-, he⟩ := List.cons.inj he
          exact hn (List.mem_cons_of_mem i (h is after he))
      · intro h before after he
        by_cases hn : '\n' ∈ before
        · exact hn
        · refine absurd ⟨c :: before, after, by rw [he]; rfl, List.cons_ne_nil _ _, ?_⟩ h
          exact List.not_mem_cons_of_ne_of_not_mem (Ne.symm hline) hn

/-- Pieces as scanning gives them: candidates are single-line and as short as possible, and no
opening brace outside them begins one. -/
inductive Scanned : List Piece → Prop where
  | nil : Scanned []
  | plain {c : Char} {rest : List Piece} (hc : c = '{' → ¬ MakesCandidate (rest.flatMap chars))
      (h : Scanned rest) : Scanned (.plain c :: rest)
  | braced {inner : List Char} {rest : List Piece} (hne : inner ≠ []) (hline : '\n' ∉ inner)
      (hshort : '}' ∉ inner.tail) (h : Scanned rest) : Scanned (.braced inner :: rest)

/-- The pieces of a template are scanned pieces. -/
theorem scanned_scan (cs : List Char) : Scanned (scan cs) := by
  fun_induction scan cs with
  | case1 => exact .nil
  | case2 rest inner after hcut ih =>
    obtain ⟨-, hne, hline, hshort⟩ := cutInner?_eq_some_iff.mp hcut
    exact .braced hne hline hshort ih
  | case3 rest hcut ih =>
    refine .plain (fun _ => ?_) ih
    rw [flatMap_chars_scan]
    exact cutInner?_eq_none_iff.mp hcut
  | case4 c rest hc ih => exact .plain (fun he => absurd he hc) ih

/-- What is left of scanned pieces after the first ones is scanned as well. -/
theorem Scanned.right {ps qs : List Piece} (h : Scanned (ps ++ qs)) : Scanned qs := by
  induction ps with
  | nil => exact h
  | cons p ps ih =>
    cases h with
    | plain _ h => exact ih h
    | braced _ _ _ h => exact ih h

/-- A candidate among scanned pieces has some text, and no line break in it. -/
theorem Scanned.of_braced_mem {ps : List Piece} {inner : List Char} (h : Scanned ps)
    (hmem : .braced inner ∈ ps) : inner ≠ [] ∧ '\n' ∉ inner := by
  induction h with
  | nil => cases hmem
  | plain _ _ ih =>
    rcases List.mem_cons.mp hmem with heq | hrest
    · cases heq
    · exact ih hrest
  | braced hne hline _ _ ih =>
    rcases List.mem_cons.mp hmem with heq | hrest
    · cases heq
      exact ⟨hne, hline⟩
    · exact ih hrest

theorem scan_nil : scan [] = [] := by rw [scan]

/-- An opening brace that begins a candidate is scanned with it. -/
theorem scan_braced {inner after : List Char} (hne : inner ≠ []) (hline : '\n' ∉ inner)
    (hshort : '}' ∉ inner.tail) :
    scan ('{' :: (inner ++ '}' :: after)) = .braced inner :: scan after := by
  have hcut : cutInner? (inner ++ '}' :: after) = some (inner, after) :=
    cutInner?_eq_some_iff.mpr ⟨rfl, hne, hline, hshort⟩
  rw [scan]
  simp only [ite_true]
  split
  · rename_i x y h
    rw [hcut] at h
    cases h
    rfl
  · rename_i h
    rw [hcut] at h
    cases h

/-- Any other character is scanned alone. -/
theorem scan_plain {c : Char} {rest : List Char} (h : c = '{' → ¬ MakesCandidate rest) :
    scan (c :: rest) = .plain c :: scan rest := by
  rw [scan]
  by_cases hc : c = '{'
  · have hcut := cutInner?_eq_none_iff.mpr (h hc)
    simp only [hc, ite_true]
    split
    · rename_i x y he
      rw [hcut] at he
      cases he
    · rfl
  · simp only [hc, ite_false]

/-- Scanned pieces are what scanning their characters gives. -/
theorem Scanned.scan_chars {ps : List Piece} (h : Scanned ps) : scan (ps.flatMap chars) = ps := by
  induction h with
  | nil => exact scan_nil
  | plain hc _ ih =>
    rw [List.flatMap_cons, chars, List.singleton_append, scan_plain hc, ih]
  | @braced inner rest hne hline hshort _ ih =>
    have hchars : (Piece.braced inner :: rest).flatMap chars =
        '{' :: (inner ++ '}' :: rest.flatMap chars) := by
      simp only [List.flatMap_cons, chars, token, List.cons_append, List.append_assoc,
        List.nil_append]
    rw [hchars, scan_braced hne hline hshort, ih]

/-- Scanning gives the one way of cutting a template into scanned pieces. -/
theorem scan_eq_iff {cs : List Char} {ps : List Piece} :
    scan cs = ps ↔ Scanned ps ∧ ps.flatMap chars = cs := by
  constructor
  · rintro rfl
    exact ⟨scanned_scan cs, flatMap_chars_scan cs⟩
  · rintro ⟨h, rfl⟩
    exact h.scan_chars

/-- Where a brace begins no candidate in front of a text and a later candidate, it begins none
whatever follows the text: a line break lies between. -/
theorem not_makesCandidate_append {cs inner rest : List Char} (hline : '\n' ∉ inner)
    (h : ¬ MakesCandidate (cs ++ (token inner ++ rest))) (after : List Char) :
    ¬ MakesCandidate (cs ++ after) := by
  rintro ⟨i, a, he, hne, hn⟩
  rcases List.append_eq_append_iff.mp he with ⟨z, rfl, hz⟩ | ⟨z, rfl, hz⟩
  · -- the match ends after the text, so the text holds no line break, nor does the candidate
    refine h ⟨cs ++ '{' :: inner, rest, ?_, by simp, ?_⟩
    · simp only [token, List.append_assoc, List.cons_append, List.nil_append]
    · simp only [List.mem_append, List.mem_cons, not_or] at hn ⊢
      exact ⟨hn.1, by decide, hline⟩
  · -- the match ends inside the text
    cases z with
    | nil =>
      refine h ⟨i ++ '{' :: inner, rest, ?_, by simp, ?_⟩
      · simp only [token, List.append_assoc, List.cons_append, List.nil_append]
      · simp only [List.mem_append, List.mem_cons, not_or]
        exact ⟨hn, by decide, hline⟩
    | cons d z =>
      obtain ⟨rfl, -⟩ := List.cons.inj hz
      exact h ⟨i, z ++ (token inner ++ rest), by simp, hne, hn⟩

end LiveText.Piece
