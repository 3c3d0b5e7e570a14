import LiveText.Proofs.Template.Scanning

/-!
# The places of candidates

A candidate of a template takes the place between an opening brace and the first closing one that is
at least two characters behind it on the line. The places of the scanned candidates are such ones,
one behind the other, and no such place begins outside them: `isCandidates_spans`.
-/

namespace LiveText

/-- A token is two characters longer than what it has between its braces. -/
theorem Piece.length_token (inner : List Char) : (token inner).length = inner.length + 2 := by
  rw [token, List.length_cons, List.length_append, List.length_singleton]

/-- A place in a text: the positions of its two braces. -/
@[ext]
structure Span where
  start : Nat
  stop : Nat
deriving DecidableEq, Repr

namespace Span

/-- The characters at a place, with the braces. -/
def cut (s : Span) (cs : List Char) : List Char := (cs.drop s.start).take (s.stop + 1 - s.start)

/-- Whether a place lies between an opening brace and the first closing one that is at least two
characters behind it, on one line. -/
structure IsBraced (s : Span) (cs : List Char) : Prop where
  opens : cs[s.start]? = some '{'
  far : s.start + 2 ≤ s.stop
  closes : cs[s.stop]? = some '}'
  first : ∀ i, s.start + 2 ≤ i → i < s.stop → cs[i]? ≠ some '}'
  line : '\n' ∉ s.cut cs

/-- The place of a token behind some text. -/
def ofToken (front inner : List Char) : Span := ⟨front.length, front.length + inner.length + 1⟩

private theorem cut_ofToken (front inner after : List Char) :
    (ofToken front inner).cut (front ++ (Piece.token inner ++ after)) = Piece.token inner := by
  have hlength : front.length + inner.length + 1 + 1 - front.length =
      (Piece.token inner).length := by
    rw [Piece.length_token]
    omega
  rw [cut, ofToken, hlength, List.drop_left, List.take_left]

private theorem getElem?_token_append (inner after : List Char) (i : Nat) :
    (Piece.token inner ++ after)[i + 1]? = (inner ++ '}' :: after)[i]? := by
  simp [Piece.token]

/-- The place of a token lies between its braces. -/
theorem isBraced_ofToken (front after : List Char) {inner : List Char} (hne : inner ≠ [])
    (hline : '\n' ∉ inner) (hshort : '}' ∉ inner.tail) :
    (ofToken front inner).IsBraced (front ++ (Piece.token inner ++ after)) where
  opens := by simp [ofToken, Piece.token]
  far := by
    have hpos := List.length_pos_iff.mpr hne
    simp only [ofToken]
    omega
  closes := by
    simp only [ofToken]
    rw [Nat.add_assoc, List.getElem?_append_right (Nat.le_add_right _ _), Nat.add_sub_cancel_left,
      getElem?_token_append]
    simp
  first := by
    intro i hlow hhigh
    simp only [ofToken] at hlow hhigh
    obtain ⟨j, rfl⟩ : ∃ j, i = front.length + (j + 1 + 1) := ⟨i - front.length - 2, by omega⟩
    rw [List.getElem?_append_right (Nat.le_add_right _ _), Nat.add_sub_cancel_left,
      getElem?_token_append, List.getElem?_append_left (by omega)]
    obtain ⟨c, rest, rfl⟩ := List.exists_cons_of_ne_nil hne
    rw [List.getElem?_cons_succ]
    exact fun hclose => hshort (List.mem_of_getElem? hclose)
  line := by
    rw [cut_ofToken, Piece.token]
    simp [hline]

private theorem exists_eq_append_cons {cs : List Char} {i : Nat} {c : Char} (h : cs[i]? = some c) :
    ∃ front rest, cs = front ++ c :: rest ∧ front.length = i := by
  obtain ⟨hi, rfl⟩ := List.getElem?_eq_some_iff.mp h
  refine ⟨cs.take i, cs.drop (i + 1), ?_, List.length_take_of_le (Nat.le_of_lt hi)⟩
  rw [List.getElem_cons_drop, List.take_append_drop]

/-- What lies at a place between braces is a token. -/
theorem IsBraced.exists_eq_ofToken {s : Span} {cs : List Char} (h : s.IsBraced cs) :
    ∃ front inner after, cs = front ++ (Piece.token inner ++ after) ∧ s = ofToken front inner ∧
      inner ≠ [] ∧ '\n' ∉ inner := by
  obtain ⟨front, rest, rfl, hstart⟩ := exists_eq_append_cons h.opens
  have hfar := h.far
  obtain ⟨length, hstop⟩ : ∃ length, s.stop = front.length + (length + 1) :=
    ⟨s.stop - front.length - 1, by omega⟩
  have hcloses := h.closes
  rw [hstop, List.getElem?_append_right (Nat.le_add_right _ _), Nat.add_sub_cancel_left,
    List.getElem?_cons_succ] at hcloses
  obtain ⟨inner, after, rfl, hlength⟩ := exists_eq_append_cons hcloses
  have htext : front ++ '{' :: (inner ++ '}' :: after) =
      front ++ (Piece.token inner ++ after) := by simp [Piece.token]
  have hspan : s = ofToken front inner := by
    refine Span.ext hstart.symm ?_
    rw [hstop, hlength.symm]
    exact (Nat.add_assoc ..).symm
  refine ⟨front, inner, after, htext, hspan, ?_, ?_⟩
  · rintro rfl
    simp only [List.length_nil] at hlength
    omega
  · have hline := h.line
    rw [htext, hspan, cut_ofToken, Piece.token] at hline
    exact fun hmem => hline (by simp [hmem])

end Span

namespace Piece

/-- The places of the candidates among the pieces behind a text of the given length. -/
def spansFrom : Nat → List Piece → List Span
  | _, [] => []
  | place, .plain _ :: ps => spansFrom (place + 1) ps
  | place, .braced inner :: ps =>
    ⟨place, place + inner.length + 1⟩ :: spansFrom (place + inner.length + 2) ps

/-- The places of the candidates of a text. -/
def spans (cs : List Char) : List Span := spansFrom 0 (scan cs)

private theorem spansFrom_plain (front : List Char) (c : Char) (ps : List Piece) :
    spansFrom front.length (.plain c :: ps) = spansFrom (front ++ [c]).length ps := by
  rw [spansFrom, List.length_append, List.length_singleton]

private theorem spansFrom_braced (front inner : List Char) (ps : List Piece) :
    spansFrom front.length (.braced inner :: ps) =
      .ofToken front inner :: spansFrom (front ++ token inner).length ps := by
  rw [spansFrom, List.length_append, length_token, ← Nat.add_assoc, Span.ofToken]

/-- The places begin behind the text in front of the pieces. -/
private theorem le_start_of_mem_spansFrom {place : Nat} {ps : List Piece} {s : Span}
    (h : s ∈ spansFrom place ps) : place ≤ s.start := by
  fun_induction spansFrom place ps with
  | case1 => cases h
  | case2 place c ps ih => exact Nat.le_of_succ_le (ih h)
  | case3 place inner ps ih =>
    rcases List.mem_cons.mp h with rfl | hrest
    · exact Nat.le_refl _
    · have hbehind := ih hrest
      omega

/-- The places stand one behind the other. -/
theorem pairwise_spansFrom (place : Nat) (ps : List Piece) :
    (spansFrom place ps).Pairwise (·.stop < ·.start) := by
  fun_induction spansFrom place ps with
  | case1 => exact .nil
  | case2 place c ps ih => exact ih
  | case3 place inner ps ih =>
    refine .cons (fun s hs => ?_) ih
    have hbehind := le_start_of_mem_spansFrom hs
    show place + inner.length + 1 < s.start
    omega

/-- The characters at the places are the candidates. -/
private theorem map_cut_spansFrom (front : List Char) (ps : List Piece) :
    (spansFrom front.length ps).map (·.cut (front ++ ps.flatMap chars)) =
      (ps.filterMap inner?).map token := by
  induction ps generalizing front with
  | nil => rfl
  | cons p ps ih =>
    rw [List.flatMap_cons]
    cases p with
    | plain c =>
      rw [spansFrom_plain, ← List.append_assoc]
      exact ih (front ++ [c])
    | braced inner =>
      have hhead := Span.cut_ofToken front inner (ps.flatMap chars)
      rw [spansFrom_braced, List.map_cons, chars, hhead, ← List.append_assoc, ih]
      rfl

/-- Scanned candidates take places between braces. -/
theorem Scanned.isBraced {ps : List Piece} (h : Scanned ps) (front : List Char) :
    ∀ s ∈ spansFrom front.length ps, s.IsBraced (front ++ ps.flatMap chars) := by
  induction h generalizing front with
  | nil => exact fun _ hs => nomatch hs
  | @plain c rest _ _ ih =>
    rw [spansFrom_plain, List.flatMap_cons, ← List.append_assoc]
    exact ih (front ++ [c])
  | @braced inner rest hne hline hshort _ ih =>
    rw [spansFrom_braced, List.flatMap_cons]
    intro s hs
    rcases List.mem_cons.mp hs with rfl | hrest
    · exact Span.isBraced_ofToken front _ hne hline hshort
    · rw [← List.append_assoc]
      exact ih (front ++ token inner) s hrest

/-- Between braces nothing begins but at the places of scanned candidates. -/
private theorem Scanned.exists_mem_spansFrom {ps : List Piece} (h : Scanned ps) (front : List Char)
    {s : Span} (hbraced : s.IsBraced (front ++ ps.flatMap chars))
    (hstart : front.length ≤ s.start) :
    ∃ found ∈ spansFrom front.length ps, found.start ≤ s.start ∧ s.start ≤ found.stop := by
  induction h generalizing front with
  | nil =>
    have hopens := hbraced.opens
    rw [List.flatMap_nil, List.append_nil, List.getElem?_eq_none hstart] at hopens
    cases hopens
  | @plain c rest hc _ ih =>
    rw [spansFrom_plain]
    rw [List.flatMap_cons, ← List.append_assoc] at hbraced
    refine ih (front ++ [c]) hbraced ?_
    -- a place that began here would make a candidate of the character
    have hne : s.start ≠ front.length := by
      intro heq
      obtain ⟨front', inner, after, htext, rfl, hne, hline⟩ := hbraced.exists_eq_ofToken
      rw [List.append_assoc] at htext
      obtain ⟨-, hrest⟩ := List.append_inj htext heq.symm
      obtain ⟨hopen, hrest⟩ := List.cons.inj hrest
      exact hc hopen ⟨inner, after, by simpa using hrest, hne, hline⟩
    rw [List.length_append, List.length_singleton]
    omega
  | @braced inner rest hne hline hshort _ ih =>
    rw [spansFrom_braced]
    by_cases hinside : s.start ≤ (Span.ofToken front inner).stop
    · exact ⟨_, List.mem_cons_self .., hstart, hinside⟩
    · rw [List.flatMap_cons, ← List.append_assoc] at hbraced
      have hbehind : (front ++ token inner).length ≤ s.start := by
        simp only [Span.ofToken] at hinside
        rw [List.length_append, length_token]
        omega
      obtain ⟨found, hfound, hplace⟩ := ih (front ++ token inner) hbraced hbehind
      exact ⟨found, List.mem_cons_of_mem _ hfound, hplace⟩

/-- Whether places in a text are those of candidates: they lie between braces, stand one behind the
other, and no place between braces begins outside them. -/
structure IsCandidates (cs : List Char) (found : List Span) : Prop where
  ordered : found.Pairwise (·.stop < ·.start)
  braced : ∀ s ∈ found, s.IsBraced cs
  complete : ∀ s : Span, s.IsBraced cs → ∃ f ∈ found, f.start ≤ s.start ∧ s.start ≤ f.stop

/-- The places of the scanned candidates are those of candidates. -/
theorem isCandidates_spans (cs : List Char) : IsCandidates cs (spans cs) where
  ordered := pairwise_spansFrom 0 (scan cs)
  braced := by
    have hbraced := (scanned_scan cs).isBraced []
    rwa [List.nil_append, flatMap_chars_scan] at hbraced
  complete := by
    intro s hs
    refine (scanned_scan cs).exists_mem_spansFrom [] ?_ (Nat.zero_le _)
    rwa [List.nil_append, flatMap_chars_scan]

/-- The characters at the places of the candidates are the candidates. -/
theorem map_cut_spans (cs : List Char) :
    (spans cs).map (·.cut cs) = ((scan cs).filterMap inner?).map token := by
  have hmap := map_cut_spansFrom [] (scan cs)
  rwa [List.nil_append, flatMap_chars_scan] at hmap

end Piece

end LiveText
