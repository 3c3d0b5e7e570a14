import Mathlib.Data.List.Nodup
import Mathlib.Data.List.SplitBy
import LiveText.Date.Pattern
import LiveText.Date.Zone

/-!
# Date patterns run by run

What a pattern shows is what its runs show, one behind the other (`render_run`). So a pattern may be
cut wherever no run of a field's letter is cut (`render_append`), and a letter may be replaced by
another one for the same field as long as different letters stay different (`render_map`); the
Cyrillic and the German letters take the place of the English ones in this way (`render_runs`).
-/

namespace LiveText

namespace DateField

/-- The English letters of the fields. -/
def english : List Char := ['Y', 'M', 'D', 'h', 'm', 's']

/-- The Cyrillic letter in place of an English one. -/
def cyrillic : Char → Char
  | 'Y' => 'Г'
  | 'M' => 'М'
  | 'D' => 'Д'
  | 'h' => 'ч'
  | 'm' => 'м'
  | 's' => 'с'
  | c => c

/-- The German letter in place of an English one, where there is one. -/
def german : Char → Char
  | 'Y' => 'J'
  | 'D' => 'T'
  | 'h' => 'S'
  | c => c

/-- A replacement of English letters by others for the same fields, and of nothing else. -/
structure IsAlphabet (letter : Char → Char) : Prop where
  ofChar? : ∀ c ∈ english, ofChar? (letter c) = ofChar? c
  other : ∀ c, c ∉ english → letter c = c

private theorem isAlphabet_cyrillic : IsAlphabet cyrillic where
  ofChar? := List.map_inj_left.mp rfl
  other := by
    intro c hc
    unfold cyrillic
    split <;> simp_all [english]

private theorem isAlphabet_german : IsAlphabet german where
  ofChar? := List.map_inj_left.mp rfl
  other := by
    intro c hc
    unfold german
    split <;> simp_all [english]

/-- English letters stand for different fields. -/
private theorem eq_of_ofChar?_eq {a b : Char} (ha : a ∈ english) (hb : b ∈ english)
    (h : ofChar? a = ofChar? b) : a = b := by
  have hnodup : (english.map ofChar?).Nodup := by decide
  exact List.inj_on_of_nodup_map hnodup ha hb h

end DateField

namespace DatePattern

open DateField

variable {t : LocalTime} {p q : List Char} {c : Char}

/-! ## Runs -/

/-- A character stands some number of times in front of a list. -/
theorem exists_run (c : Char) (p : List Char) :
    ∃ n rest, p = List.replicate n c ++ rest ∧ rest.head? ≠ some c := by
  induction p with
  | nil => exact ⟨0, [], rfl, by simp⟩
  | cons d p ih =>
    by_cases hd : d = c
    · subst hd
      obtain ⟨n, rest, rfl, hrest⟩ := ih
      exact ⟨n + 1, rest, rfl, hrest⟩
    · exact ⟨0, d :: p, rfl, by simpa using hd⟩

/-- Patterns by induction on their runs: what a run in front keeps holds of every pattern. -/
theorem run_induction {motive : List Char → Prop} (nil : motive [])
    (run : ∀ c n rest, rest.head? ≠ some c → motive rest →
      motive (List.replicate (n + 1) c ++ rest)) (p : List Char) : motive p := by
  induction hlength : p.length using Nat.strong_induction_on generalizing p with
  | _ length ih =>
    cases p with
    | nil => exact nil
    | cons c p =>
      obtain ⟨n, rest, rfl, hrest⟩ := exists_run c p
      have hshorter : rest.length < length := by
        rw [List.length_cons, List.length_append] at hlength
        omega
      exact run c n rest hrest (ih _ hshorter rest rfl)

/-- A run of a field's letter shows the field in as many places as the run is long. -/
theorem renderRun_of_letter {field : DateField} (hc : DateField.ofChar? c = some field) (n : Nat) :
    renderRun t (List.replicate (n + 1) c) = field.render t (n + 1) := by
  simp [renderRun, List.replicate_succ, hc]

private theorem renderRun_of_plain (hc : DateField.ofChar? c = none) (n : Nat) :
    renderRun t (List.replicate n c) = List.replicate n c := by
  cases n with
  | zero => rfl
  | succ n => simp [renderRun, List.replicate_succ, hc]

/-- What is shown of a pattern is what is shown of its parts if it is cut between different
characters. -/
theorem render_append_of_ne (h : ∀ x ∈ p.getLast?, ∀ y ∈ q.head?, x ≠ y) :
    render t (p ++ q) = render t p ++ render t q := by
  have hcut : ∀ x ∈ p.getLast?, ∀ y ∈ q.head?, (x == y) = false :=
    fun x hx y hy => beq_false_of_ne (h x hx y hy)
  rw [render, List.splitBy_append hcut, List.flatMap_append]
  rfl

/-- A run is shown apart from what follows it. -/
theorem render_run (n : Nat) (hq : q.head? ≠ some c) :
    render t (List.replicate n c ++ q) = renderRun t (List.replicate n c) ++ render t q := by
  have hcut : ∀ x ∈ (List.replicate n c).getLast?, ∀ y ∈ q.head?, x ≠ y := by
    rintro x hx y hy rfl
    exact hq (List.eq_of_mem_replicate (List.mem_of_getLast? hx) ▸ hy)
  have hrun : render t (List.replicate n c) = renderRun t (List.replicate n c) := by
    cases n with
    | zero => rfl
    | succ n =>
      have hchain : (List.replicate (n + 1) c).IsChain fun a b => a == b :=
        List.isChain_replicate_of_rel (n + 1) (beq_self_eq_true c)
      rw [render, List.splitBy_of_isChain (by simp) hchain, List.flatMap_singleton]
  rw [render_append_of_ne hcut, hrun]

/-! ## Where a pattern may be cut -/

/-- A character that is no letter of a field is shown as it is, in front of what follows it. -/
theorem render_plain_cons (hc : DateField.ofChar? c = none) (q : List Char) :
    render t (c :: q) = c :: render t q := by
  obtain ⟨n, rest, rfl, hrest⟩ := exists_run c q
  rw [← List.cons_append, ← List.replicate_succ, render_run _ hrest, render_run _ hrest,
    renderRun_of_plain hc, renderRun_of_plain hc]
  rfl

/-- A pattern may be cut at a character that is no letter of a field. -/
theorem render_plain (hc : DateField.ofChar? c = none) (p q : List Char) :
    render t (p ++ c :: q) = render t p ++ c :: render t q := by
  induction p using List.reverseRecOn generalizing q with
  | nil => exact render_plain_cons hc q
  | append_singleton p d ih =>
    by_cases hd : d = c
    · subst hd
      have hnil : render t (p ++ [d]) = render t p ++ [d] := ih []
      rw [List.append_assoc, List.singleton_append, ih, render_plain_cons hc, hnil,
        List.append_assoc]
      rfl
    · rw [render_append_of_ne, render_plain_cons hc]
      intro x hx y hy
      rw [List.getLast?_concat] at hx
      cases hx
      cases hy
      exact hd

/-- A pattern may be cut wherever no run of a field's letter is cut. -/
theorem render_append (h : ∀ x ∈ p.getLast?, ∀ y ∈ q.head?, x ≠ y ∨ DateField.ofChar? x = none) :
    render t (p ++ q) = render t p ++ render t q := by
  induction p using List.reverseRecOn with
  | nil => rfl
  | append_singleton p c _ =>
    by_cases hc : DateField.ofChar? c = none
    · have hnil : render t (p ++ [c]) = render t p ++ [c] := render_plain hc p []
      rw [List.append_assoc, List.singleton_append, render_plain hc, hnil, List.append_assoc]
      rfl
    · apply render_append_of_ne
      intro x hx y hy
      have hlast : c = x := Option.some.inj (List.getLast?_concat.symm.trans hx)
      exact (h x hx y hy).resolve_right (hlast ▸ hc)

/-- A pattern without a letter of a field is shown as it is. -/
theorem render_of_plain (h : ∀ c ∈ p, DateField.ofChar? c = none) : render t p = p := by
  induction p with
  | nil => rfl
  | cons c p ih =>
    rw [render_plain_cons (h c (by simp)), ih fun d hd => h d (by simp [hd])]

/-! ## Other letters for the same fields -/

/-- What is shown does not change when characters are replaced by others for the same fields, those
that are no letters by themselves, and different ones by different ones. -/
theorem render_map {letter : Char → Char}
    (hfield : ∀ c ∈ p, DateField.ofChar? (letter c) = DateField.ofChar? c)
    (hplain : ∀ c ∈ p, DateField.ofChar? c = none → letter c = c)
    (hinj : ∀ a ∈ p, ∀ b ∈ p, letter a = letter b → a = b) :
    render t (p.map letter) = render t p := by
  induction p using run_induction with
  | nil => rfl
  | run c n rest hrest ih =>
    have hc : c ∈ List.replicate (n + 1) c ++ rest := by simp
    have hmem : ∀ d ∈ rest, d ∈ List.replicate (n + 1) c ++ rest :=
      fun d hd => List.mem_append_right _ hd
    have hhead : (rest.map letter).head? ≠ some (letter c) := by
      intro heq
      rw [List.head?_map] at heq
      obtain ⟨d, hd, hletter⟩ := Option.map_eq_some_iff.mp heq
      have hdc := hinj d (hmem d (List.mem_of_head? hd)) c hc hletter
      exact hrest (hdc ▸ hd)
    have hrun : renderRun t (List.replicate (n + 1) (letter c)) =
        renderRun t (List.replicate (n + 1) c) := by
      cases hof : DateField.ofChar? c with
      | none => rw [hplain c hc hof]
      | some field =>
        rw [renderRun_of_letter hof, renderRun_of_letter ((hfield c hc).trans hof)]
    have hrestMap := ih (fun d hd => hfield d (hmem d hd)) (fun d hd => hplain d (hmem d hd))
      fun a ha b hb => hinj a (hmem a ha) b (hmem b hb)
    rw [List.map_append, List.map_replicate, render_run _ hhead, render_run _ hrest, hrun, hrestMap]

/-- Another alphabet shows a pattern alike whose letters of fields are English. -/
theorem render_alphabet {letter : Char → Char} (hletter : IsAlphabet letter)
    (h : ∀ c ∈ p, DateField.ofChar? c ≠ none → c ∈ english) :
    render t (p.map letter) = render t p := by
  have hplain : ∀ c ∈ p, DateField.ofChar? c = none → letter c = c := by
    intro c hc hof
    apply hletter.other c
    intro henglish
    have hsome : none ∉ english.map DateField.ofChar? := by decide
    exact hsome (List.mem_map.mpr ⟨c, henglish, hof⟩)
  have hfield : ∀ c ∈ p, DateField.ofChar? (letter c) = DateField.ofChar? c := by
    intro c hc
    by_cases hof : DateField.ofChar? c = none
    · rw [hplain c hc hof]
    · exact hletter.ofChar? c (h c hc hof)
  apply render_map hfield hplain
  intro a ha b hb hab
  have hsame : DateField.ofChar? a = DateField.ofChar? b := by
    rw [← hfield a ha, ← hfield b hb, hab]
  by_cases hof : DateField.ofChar? a = none
  · rw [← hplain a ha hof, hab, hplain b hb (hsame ▸ hof)]
  · exact eq_of_ofChar?_eq (h a ha hof) (h b hb (hsame ▸ hof)) hsame

/-- A pattern is read run by run: it may be cut wherever no run of a field's letter is cut, is shown
as it is where it has no such letter, and shows the same in Cyrillic and in German letters as in
English ones. -/
theorem render_runs (t : LocalTime) :
    (∀ p q : List Char,
      (∀ x ∈ p.getLast?, ∀ y ∈ q.head?, x ≠ y ∨ DateField.ofChar? x = none) →
        render t (p ++ q) = render t p ++ render t q) ∧
    (∀ p : List Char, (∀ c ∈ p, DateField.ofChar? c = none) → render t p = p) ∧
    ∀ p : List Char, (∀ c ∈ p, DateField.ofChar? c ≠ none → c ∈ english) →
      render t (p.map cyrillic) = render t p ∧ render t (p.map german) = render t p :=
  ⟨fun _ _ => render_append, fun _ => render_of_plain, fun _ h =>
    ⟨render_alphabet isAlphabet_cyrillic h, render_alphabet isAlphabet_german h⟩⟩

/-- A cut between two dots and one between letters, a text of other characters, and runs of several
lengths, some of which show nothing. -/
theorem render_runs_lengths :
    let t := (Zone.fixed ⟨7200, by decide⟩).localize ⟨1709618889, 45000000⟩
    render t ("YY.".toList ++ ".M".toList) = render t "YY.".toList ++ render t ".M".toList ∧
    render t ("ss".toList ++ "Ms".toList) = render t "ss".toList ++ render t "Ms".toList ∧
    render t "a/b й".toList = "a/b й".toList ∧
    render t ("YYY|D MM YYYY h:mm sss".toList.map cyrillic) =
      render t "YYY|D MM YYYY h:mm sss".toList ∧
    render t ("YYY|D MM YYYY h:mm sss".toList.map german) =
      render t "YYY|D MM YYYY h:mm sss".toList ∧
    render t "YYY|Д ММ JJJJ S:mm ссс".toList = "|5 03 2024 8:08 045".toList := by
  intro t
  obtain ⟨happend, hplain, hletters⟩ := render_runs t
  have henglish : ∀ c ∈ "YYY|D MM YYYY h:mm sss".toList, DateField.ofChar? c ≠ none →
      c ∈ english := by
    simp [DateField.ofChar?, english]
  obtain ⟨hcyrillic, hgerman⟩ := hletters _ henglish
  refine ⟨happend _ _ ?_, happend _ _ ?_, hplain _ ?_, hcyrillic, hgerman, by decide +kernel⟩
  · simp [DateField.ofChar?]
  · simp
  · simp [DateField.ofChar?]

end DatePattern

end LiveText
