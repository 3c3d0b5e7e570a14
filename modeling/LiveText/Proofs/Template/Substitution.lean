import LiveText.Proofs.Template.Scanning
import LiveText.Proofs.Text.Occurrence

/-!
# Substitution in place

Replacing the first occurrence of each candidate's token in turn replaces the candidates themselves,
although the text changes under way: no opening brace left behind begins a candidate, and what does
not begin a candidate does not begin a token. Filled-in texts keep it so as long as they bring no
opening brace in.
-/

namespace LiveText.Piece

open Text

/-- The text of pieces with a text in the place of each candidate, in order; candidates for which
there is none stay. -/
def fillIn : List Piece → List (List Char) → List Char
  | [], _ => []
  | .plain c :: ps, texts => c :: fillIn ps texts
  | .braced inner :: ps, [] => token inner ++ fillIn ps []
  | .braced _ :: ps, text :: texts => text ++ fillIn ps texts

/-- Pieces in a row are filled in with texts in a row. -/
theorem fillIn_append {ps : List Piece} {texts : List (List Char)}
    (h : texts.length = (ps.filterMap inner?).length) (qs : List Piece) (more : List (List Char)) :
    fillIn (ps ++ qs) (texts ++ more) = fillIn ps texts ++ fillIn qs more := by
  induction ps generalizing texts with
  | nil =>
    rw [List.length_eq_zero_iff.mp h]
    rfl
  | cons p ps ih =>
    cases p with
    | plain c => exact congrArg (c :: ·) (ih h)
    | braced inner =>
      cases texts with
      | nil => cases h
      | cons text texts =>
        have hrest := ih (Nat.succ.inj h)
        rw [List.cons_append, List.cons_append, fillIn, hrest, fillIn, List.append_assoc]

/-- Plain characters stand for themselves. -/
theorem fillIn_plain (cs : List Char) (texts : List (List Char)) :
    fillIn (cs.map .plain) texts = cs := by
  induction cs with
  | nil => rfl
  | cons c cs ih => exact congrArg (c :: ·) ih

/-- No opening brace of a text begins a candidate when another text follows it. -/
def Dormant (done rest : List Char) : Prop :=
  ∀ before after, done = before ++ '{' :: after → ¬ MakesCandidate (after ++ rest)

/-- A place in two texts in a row lies in one of them. -/
private theorem place_cases {xs ys before after : List Char} {c : Char}
    (h : xs ++ ys = before ++ c :: after) :
    (∃ z, xs = before ++ c :: z ∧ after = z ++ ys) ∨ ∃ z, ys = z ++ c :: after := by
  rcases List.append_eq_append_iff.mp h with ⟨z, -, hz⟩ | ⟨z, hz, hys⟩
  · exact Or.inr ⟨z, hz⟩
  · cases z with
    | nil => exact Or.inr ⟨[], hys.symm⟩
    | cons d z =>
      obtain ⟨rfl, rfl⟩ := List.cons.inj hys
      exact Or.inl ⟨z, hz, rfl⟩

theorem Dormant.nil (rest : List Char) : Dormant [] rest := by
  intro before after he
  simp at he

/-- A character that begins no candidate may pass over to the text in front. -/
theorem Dormant.plain {done rest : List Char} {c : Char} (h : Dormant done (c :: rest))
    (hc : c = '{' → ¬ MakesCandidate rest) : Dormant (done ++ [c]) rest := by
  intro before after he
  rcases place_cases he with ⟨z, hdone, rfl⟩ | ⟨z, hz⟩
  · rw [List.append_assoc]
    exact h before z hdone
  · obtain ⟨rfl, hrest⟩ := List.singleton_eq_append_iff.mp hz |>.resolve_right (by simp)
    obtain ⟨rfl, rfl⟩ := List.cons.inj hrest
    exact hc rfl

/-- A text without opening braces may take the place of a candidate. -/
theorem Dormant.text {done inner rest text : List Char} (h : Dormant done (token inner ++ rest))
    (hline : '\n' ∉ inner) (htext : '{' ∉ text) : Dormant (done ++ text) rest := by
  intro before after he
  rcases place_cases he with ⟨z, hdone, rfl⟩ | ⟨z, rfl⟩
  · rw [List.append_assoc]
    exact not_makesCandidate_append hline (h before z hdone) (text ++ rest)
  · simp at htext

/-- In front of a candidate, a text whose braces begin none begins no occurrence of its token. -/
theorem Dormant.noneBegins {done inner rest : List Char} (h : Dormant done (token inner ++ rest))
    (hne : inner ≠ []) (hline : '\n' ∉ inner) :
    NoneBegins (token inner) done (token inner ++ rest) := by
  rintro c z ⟨before, hdone⟩ ⟨after, hafter⟩
  obtain ⟨rfl, htail⟩ : '{' = c ∧ inner ++ ['}'] ++ after = z ++ (token inner ++ rest) :=
    List.cons.inj hafter
  refine h before z hdone.symm ⟨inner, after, ?_, hne, hline⟩
  rw [← htail, List.append_assoc, List.singleton_append]

/-- Replacing the tokens of scanned pieces one after another fills the pieces in, and leaves no
opening brace that begins a candidate. -/
theorem replaceEach_pieces {done : List Char} {ps rest : List Piece} {texts : List (List Char)}
    (hscanned : Scanned (ps ++ rest)) (hdone : Dormant done ((ps ++ rest).flatMap chars))
    (hlength : texts.length = (ps.filterMap inner?).length) (htexts : ∀ text ∈ texts, '{' ∉ text) :
    replaceEach (((ps.filterMap inner?).map token).zip texts) (done ++ (ps ++ rest).flatMap chars) =
      done ++ fillIn ps texts ++ rest.flatMap chars ∧
    Dormant (done ++ fillIn ps texts) (rest.flatMap chars) := by
  induction ps generalizing done texts with
  | nil =>
    rw [fillIn, List.append_nil]
    exact ⟨rfl, hdone⟩
  | cons p ps ih =>
    cases hscanned with
    | @plain c _ hc hscanned =>
      have hnext : Dormant (done ++ [c]) ((ps ++ rest).flatMap chars) := hdone.plain hc
      have hrest := ih hscanned hnext hlength htexts
      have htokens : (Piece.plain c :: ps).filterMap inner? = ps.filterMap inner? := rfl
      rw [htokens]
      simpa [fillIn, chars] using hrest
    | @braced inner _ hne hline _ hscanned =>
      cases texts with
      | nil => cases hlength
      | cons text texts =>
        have hnone : NoneBegins (token inner) done (token inner ++ (ps ++ rest).flatMap chars) :=
          Dormant.noneBegins hdone hne hline
        have hnext : Dormant (done ++ text) ((ps ++ rest).flatMap chars) :=
          Dormant.text hdone hline (htexts text (List.mem_cons_self ..))
        have hrest := ih hscanned hnext (Nat.succ.inj hlength)
          fun t ht => htexts t (List.mem_cons_of_mem text ht)
        have hfirst : replaceFirst (token inner) text
            (done ++ (token inner ++ (ps ++ rest).flatMap chars)) =
              done ++ text ++ (ps ++ rest).flatMap chars := by
          rw [replaceFirst_append text hnone, replaceFirst_self_append, List.append_assoc]
        rw [fillIn, ← List.append_assoc]
        refine ⟨?_, hrest.2⟩
        rw [← hrest.1, ← hfirst]
        rfl

end LiveText.Piece
