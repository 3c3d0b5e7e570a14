import LiveText.Proofs.Template.Scanning
import LiveText.Proofs.Text.Occurrence
import LiveText.Template.Escape

/-!
# Literal text in a template

Text whose braces are all doubled holds candidates, but each of them begins with a doubled opening
brace: `head?_of_mem_scan_escapeChars`. In front of other text it keeps to itself unless it leaves
an opening brace open, that is, unless neither a closing brace nor a line break follows one of its
opening braces; then the candidate that begins there runs on to the next closing brace.
-/

namespace LiveText.Text

/-- Collapsing undoes doubling whatever follows. -/
theorem collapse_double_append (d : Char) (xs ys : List Char) :
    collapse d (double d xs ++ ys) = xs ++ collapse d ys := by
  induction xs with
  | nil => rfl
  | cons c xs ih =>
    by_cases hc : c = d
    · subst hc
      simpa [double, collapse] using ih
    · have hd : double d (c :: xs) ++ ys = c :: (double d xs ++ ys) := by simp [double, hc]
      rw [hd, List.cons_append, ← ih]
      cases double d xs ++ ys with
      | nil => rfl
      | cons b bs => simp [collapse, hc]

/-- A text without the character is not changed by doubling it. -/
theorem double_of_not_mem {d : Char} {cs : List Char} (h : d ∉ cs) : double d cs = cs := by
  induction cs with
  | nil => rfl
  | cons c cs ih =>
    obtain ⟨hc, hcs⟩ := List.ne_and_not_mem_of_not_mem_cons h
    have hd : double d (c :: cs) = c :: double d cs := by simp [double, Ne.symm hc]
    rw [hd, ih hcs]

/-- Text without the character passes through collapsing. -/
theorem collapse_append_of_not_mem {d : Char} {xs : List Char} (h : d ∉ xs) (ys : List Char) :
    collapse d (xs ++ ys) = xs ++ collapse d ys := by
  have hd := collapse_double_append d xs ys
  rwa [double_of_not_mem h] at hd

/-- A single character in front of doubled ones stays, and so do they. -/
theorem collapse_cons_double_append {d : Char} {ys : List Char} (hys : ys.head? ≠ some d)
    (cs : List Char) : collapse d (d :: (double d cs ++ ys)) = d :: (cs ++ collapse d ys) := by
  induction cs with
  | nil =>
    cases ys with
    | nil => rfl
    | cons y ys =>
      have hy : y ≠ d := fun h => hys (congrArg some h)
      have hdouble : double d [] ++ y :: ys = y :: ys := rfl
      rw [hdouble, collapse, if_neg (fun h => hy h.2), List.nil_append]
  | cons c cs ih =>
    by_cases hc : c = d
    · subst hc
      have hd : double c (c :: cs) = c :: c :: double c cs := by simp [double]
      rw [hd, List.cons_append, List.cons_append, collapse, if_pos ⟨rfl, rfl⟩, ih, List.cons_append]
    · have hd : double d (c :: cs) = c :: double d cs := by simp [double, hc]
      have hcs := collapse_double_append d (c :: cs) ys
      rw [hd, List.cons_append] at hcs
      rw [hd, List.cons_append, collapse, if_neg (fun h => hc h.2), hcs]

/-- Collapsing keeps the first character. -/
private theorem head?_collapse (d : Char) (cs : List Char) : (collapse d cs).head? = cs.head? := by
  fun_cases collapse d cs with
  | case1 a b rest h => rw [h.1]; rfl
  | case2 => rfl
  | case3 => rfl

/-- Collapsing makes no text longer. -/
theorem length_collapse_le (d : Char) (cs : List Char) : (collapse d cs).length ≤ cs.length := by
  fun_induction collapse d cs with
  | case1 a b rest h ih => simp; omega
  | case2 a b rest h ih => simpa using ih
  | case3 => exact Nat.le_refl _

/-- A text that collapsing does not make shorter is not changed by it. -/
theorem collapse_eq_self_of_length_le {d : Char} {cs : List Char}
    (h : cs.length ≤ (collapse d cs).length) : collapse d cs = cs := by
  fun_induction collapse d cs with
  | case1 a b rest hab ih =>
    have hshort := length_collapse_le d rest
    simp only [List.length_cons] at h
    omega
  | case2 a b rest hab ih => rw [ih (Nat.le_of_succ_le_succ h)]
  | case3 => rfl

/-- Collapsing changes exactly the texts in which the character is doubled. -/
theorem collapse_eq_self_iff {d : Char} {cs : List Char} :
    collapse d cs = cs ↔ occurs [d, d] cs = false := by
  rw [← Bool.not_eq_true, occurs_eq_true_iff]
  fun_induction collapse d cs with
  | case1 a b rest h ih =>
    rw [h.1, h.2]
    have hshort := length_collapse_le d rest
    have hne : d :: collapse d rest ≠ d :: d :: rest := by
      intro he
      have hlength := congrArg List.length he
      simp only [List.length_cons] at hlength
      omega
    have hpart : [d, d] <:+: d :: d :: rest := (List.prefix_append [d, d] rest).isInfix
    exact iff_of_false hne fun hnone => hnone hpart
  | case2 a b rest h ih =>
    have hhead : ¬ [d, d] <+: a :: b :: rest := by
      intro hpre
      obtain ⟨rfl, htail⟩ := List.cons_prefix_cons.mp hpre
      exact h ⟨rfl, (List.cons_prefix_cons.mp htail).1.symm⟩
    rw [List.infix_cons_iff, not_or, List.cons.injEq, ih]
    exact ⟨fun hrest => ⟨hhead, hrest.2⟩, fun hrest => ⟨rfl, hrest.2⟩⟩
  | case3 cs hshort =>
    have hnone : ¬ [d, d] <:+: cs := by
      rintro ⟨before, after, rfl⟩
      cases before with
      | nil => exact hshort d d after rfl
      | cons b before =>
        cases before with
        | nil => exact hshort b d _ rfl
        | cons b' before => exact hshort b b' _ rfl
    exact iff_of_true rfl hnone

end LiveText.Text

namespace LiveText.Template

open Text Piece

theorem escapeChars_nil : escapeChars [] = [] := rfl

theorem escapeChars_open (cs : List Char) :
    escapeChars ('{' :: cs) = '{' :: '{' :: escapeChars cs := by
  simp [escapeChars, double]

theorem escapeChars_close (cs : List Char) :
    escapeChars ('}' :: cs) = '}' :: '}' :: escapeChars cs := by
  simp [escapeChars, double]

theorem escapeChars_other {c : Char} (ho : c ≠ '{') (hc : c ≠ '}') (cs : List Char) :
    escapeChars (c :: cs) = c :: escapeChars cs := by
  simp [escapeChars, double, ho, hc]

theorem escapeChars_append (xs ys : List Char) :
    escapeChars (xs ++ ys) = escapeChars xs ++ escapeChars ys := by
  simp [escapeChars, double]

/-- Text without braces is written as it is. -/
theorem escapeChars_of_not_mem {cs : List Char} (ho : '{' ∉ cs) (hc : '}' ∉ cs) :
    escapeChars cs = cs := by
  rw [escapeChars, double_of_not_mem hc, double_of_not_mem ho]

/-- Escaping brings no character in and loses none. -/
theorem mem_escapeChars {c : Char} {cs : List Char} : c ∈ escapeChars cs ↔ c ∈ cs := by
  induction cs with
  | nil => exact Iff.rfl
  | cons a cs ih =>
    by_cases ho : a = '{'
    · subst ho
      rw [escapeChars_open]
      simp [ih]
    · by_cases hc : a = '}'
      · subst hc
        rw [escapeChars_close]
        simp [ih]
      · rw [escapeChars_other ho hc, List.mem_cons, List.mem_cons, ih]

/-- What is written with doubled braces reads as itself whatever follows. -/
theorem unescapeChars_escapeChars_append (xs ys : List Char) :
    unescapeChars (escapeChars xs ++ ys) = xs ++ unescapeChars ys := by
  rw [unescapeChars, escapeChars, collapse_double_append, collapse_double_append, unescapeChars]

/-- Text without braces reads as itself whatever follows. -/
theorem unescapeChars_append_of_not_mem {xs : List Char} (ho : '{' ∉ xs) (hc : '}' ∉ xs)
    (ys : List Char) : unescapeChars (xs ++ ys) = xs ++ unescapeChars ys := by
  have h := unescapeChars_escapeChars_append xs ys
  rwa [escapeChars_of_not_mem ho hc] at h

/-- Whether a brace is doubled in a text. -/
def hasDoubledBrace (cs : List Char) : Bool := occurs ['{', '{'] cs || occurs ['}', '}'] cs

/-- A text that is as long with its literal braces written once has none. -/
theorem unescapeChars_eq_self_of_length_le {cs : List Char}
    (h : cs.length ≤ (unescapeChars cs).length) : unescapeChars cs = cs := by
  have hclose := length_collapse_le '}' (collapse '{' cs)
  have hopen : collapse '{' cs = cs := collapse_eq_self_of_length_le (Nat.le_trans h hclose)
  rw [unescapeChars, hopen] at h ⊢
  exact collapse_eq_self_of_length_le h

/-- Writing literal braces once changes exactly the texts in which a brace is doubled. -/
theorem unescapeChars_eq_self_iff {cs : List Char} :
    unescapeChars cs = cs ↔ hasDoubledBrace cs = false := by
  rw [hasDoubledBrace, Bool.or_eq_false_iff, ← collapse_eq_self_iff, ← collapse_eq_self_iff]
  constructor
  · intro h
    -- neither of the two steps can have removed anything
    have hclose := length_collapse_le '}' (collapse '{' cs)
    have hlength : (collapse '}' (collapse '{' cs)).length = cs.length := congrArg List.length h
    have hopen : collapse '{' cs = cs := collapse_eq_self_of_length_le (by omega)
    rw [unescapeChars, hopen] at h
    exact ⟨hopen, h⟩
  · rintro ⟨hopen, hclose⟩
    rw [unescapeChars, hopen, hclose]

/-- A brace is doubled in two texts with a blank between exactly if it is in one of them. -/
theorem hasDoubledBrace_append_blank (xs ys : List Char) :
    hasDoubledBrace (xs ++ ' ' :: ys) = (hasDoubledBrace xs || hasDoubledBrace ys) := by
  rw [hasDoubledBrace, occurs_append_cons (by simp) (by decide), occurs_append_cons (by simp)
    (by decide), hasDoubledBrace, hasDoubledBrace]
  cases occurs ['{', '{'] xs <;> cases occurs ['}', '}'] xs <;> simp

/-- Single braces around text without braces stay in front of doubled ones. -/
theorem unescapeChars_token_append {inner : List Char} (ho : '{' ∉ inner) (hc : '}' ∉ inner)
    (xs : List Char) {ys : List Char} (hys : ys.head? ≠ some '}') :
    unescapeChars (token inner ++ (escapeChars xs ++ ys)) =
      token inner ++ (xs ++ unescapeChars ys) := by
  have hinner : '{' ∉ inner ++ ['}'] := by simp [ho]
  have hhead : (inner ++ ['}'] ++ (escapeChars xs ++ ys)).head? ≠ some '{' := by
    cases inner with
    | nil => simp
    | cons c rest => simpa using Ne.symm (List.ne_of_not_mem_cons ho)
  have hopen : collapse '{' (token inner ++ (escapeChars xs ++ ys)) =
      '{' :: (inner ++ ['}'] ++ (double '}' xs ++ collapse '{' ys)) := by
    have hcons := collapse_cons_double_append hhead []
    rw [List.nil_append, collapse_append_of_not_mem hinner, escapeChars,
      collapse_double_append] at hcons
    exact hcons
  have hclose : collapse '}' ('}' :: (double '}' xs ++ collapse '{' ys)) =
      '}' :: (xs ++ collapse '}' (collapse '{' ys)) :=
    collapse_cons_double_append (by rwa [head?_collapse]) xs
  have hbefore : '}' ∉ '{' :: inner := by simp [hc]
  have hsplit : '{' :: (inner ++ ['}'] ++ (double '}' xs ++ collapse '{' ys)) =
      ('{' :: inner) ++ '}' :: (double '}' xs ++ collapse '{' ys) := by simp
  rw [unescapeChars, hopen, hsplit, collapse_append_of_not_mem hbefore, hclose, unescapeChars]
  simp [token]

theorem unescapeChars_token_escapeChars {inner : List Char} (ho : '{' ∉ inner) (hc : '}' ∉ inner)
    (xs : List Char) : unescapeChars (token inner ++ escapeChars xs) = token inner ++ xs := by
  have h : unescapeChars (token inner ++ (escapeChars xs ++ [])) =
      token inner ++ (xs ++ unescapeChars []) :=
    unescapeChars_token_append ho hc xs (by simp)
  have hnil : unescapeChars [] = [] := rfl
  rwa [hnil, List.append_nil, List.append_nil] at h

/-- Where a text without braces and then a closing brace begin literal text, they begin the text
itself. -/
private theorem prefix_of_prefix_escapeChars {inner : List Char}
    (ho : '{' ∉ inner) (hc : '}' ∉ inner)
    {cs rest : List Char} (h : inner ++ ['}'] <+: escapeChars cs ++ '{' :: rest) :
    inner ++ ['}'] <+: cs := by
  induction inner generalizing cs with
  | nil =>
    cases cs with
    | nil => simp [escapeChars_nil] at h
    | cons c cs =>
      by_cases hopen : c = '{'
      · subst hopen
        simp [escapeChars_open] at h
      · by_cases hclose : c = '}'
        · subst hclose
          simp
        · rw [escapeChars_other hopen hclose] at h
          simp [Ne.symm hclose] at h
  | cons d inner ih =>
    obtain ⟨hd, ho⟩ := List.ne_and_not_mem_of_not_mem_cons ho
    obtain ⟨hd', hc⟩ := List.ne_and_not_mem_of_not_mem_cons hc
    cases cs with
    | nil => simp [escapeChars_nil, Ne.symm hd] at h
    | cons c cs =>
      by_cases hopen : c = '{'
      · subst hopen
        simp [escapeChars_open, Ne.symm hd] at h
      · by_cases hclose : c = '}'
        · subst hclose
          simp [escapeChars_close, Ne.symm hd'] at h
        · rw [escapeChars_other hopen hclose, List.cons_append, List.cons_append,
            List.cons_prefix_cons] at h
          rw [List.cons_append, List.cons_prefix_cons]
          exact ⟨h.1, ih ho hc h.2⟩

/-- A token that does not occur in a text does not begin in it when it is written literally, as long
as an opening brace follows. -/
theorem noneBegins_escapeChars {inner : List Char} (hne : inner ≠ []) (ho : '{' ∉ inner)
    (hc : '}' ∉ inner) {cs : List Char} (h : occurs (token inner) cs = false) (rest : List Char) :
    NoneBegins (token inner) (escapeChars cs) ('{' :: rest) := by
  have hother {c : Char} (hc : c ≠ '{') (zs : List Char) : ¬ token inner <+: c :: zs := by
    intro hpre
    exact hc (List.cons_prefix_cons.mp hpre).1.symm
  induction cs with
  | nil => exact NoneBegins.nil _ _
  | cons c cs ih =>
    obtain ⟨hhead, htail⟩ := occurs_tail h
    have hrest := ih htail
    by_cases hopen : c = '{'
    · subst hopen
      have hsecond : ¬ token inner <+: '{' :: (escapeChars cs ++ '{' :: rest) := by
        intro hpre
        apply hhead
        exact List.cons_prefix_cons.mpr
          ⟨rfl, prefix_of_prefix_escapeChars ho hc (List.cons_prefix_cons.mp hpre).2⟩
      have hfirst : ¬ token inner <+: '{' :: ('{' :: escapeChars cs ++ '{' :: rest) := by
        intro hpre
        have htail := (List.cons_prefix_cons.mp hpre).2
        cases inner with
        | nil => exact hne rfl
        | cons d inner =>
          exact List.ne_of_not_mem_cons ho (List.cons_prefix_cons.mp htail).1.symm
      rw [escapeChars_open]
      exact (hrest.cons hsecond).cons hfirst
    · by_cases hclose : c = '}'
      · subst hclose
        rw [escapeChars_close]
        exact (hrest.cons (hother hopen _)).cons (hother hopen _)
      · rw [escapeChars_other hopen hclose]
        exact hrest.cons (hother hopen _)

/-- A token after literal text that does not hold it is replaced in its place. -/
theorem replaceFirst_escapeChars {inner : List Char} (hne : inner ≠ []) (ho : '{' ∉ inner)
    (hc : '}' ∉ inner) {cs : List Char} (h : occurs (token inner) cs = false)
    (new rest : List Char) :
    replaceFirst (token inner) new (escapeChars cs ++ (token inner ++ rest)) =
      escapeChars cs ++ (new ++ rest) := by
  have hnone : NoneBegins (token inner) (escapeChars cs) (token inner ++ rest) :=
    noneBegins_escapeChars hne ho hc h _
  rw [replaceFirst_append new hnone, replaceFirst_self_append]

/-- A token that literal text holds is replaced there, inside of the doubled braces. -/
theorem replaceFirst_escapeChars_token {inner : List Char} (hne : inner ≠ []) (ho : '{' ∉ inner)
    (hc : '}' ∉ inner) {first : List Char} (h : occurs (token inner) first = false)
    (new second rest : List Char) :
    replaceFirst (token inner) new (escapeChars (first ++ token inner ++ second) ++ rest) =
      escapeChars first ++ (token new ++ (escapeChars second ++ rest)) := by
  have htoken : escapeChars (token inner) = ['{'] ++ (token inner ++ ['}']) := by
    rw [token, escapeChars_open, escapeChars_append, escapeChars_of_not_mem ho hc,
      escapeChars_close, escapeChars_nil]
    simp
  have hchars : escapeChars (first ++ token inner ++ second) ++ rest = escapeChars first ++
      (['{'] ++ (token inner ++ ('}' :: (escapeChars second ++ rest)))) := by
    rw [escapeChars_append, escapeChars_append, htoken]
    simp
  have hfirst : NoneBegins (token inner) (escapeChars first)
      (['{'] ++ (token inner ++ ('}' :: (escapeChars second ++ rest)))) :=
    noneBegins_escapeChars hne ho hc h _
  -- the first of the doubled braces begins no occurrence, as the second follows it
  have hdoubled : NoneBegins (token inner) ['{']
      (token inner ++ ('}' :: (escapeChars second ++ rest))) := by
    apply (NoneBegins.nil _ _).cons
    intro hpre
    cases inner with
    | nil => exact hne rfl
    | cons c inner =>
      have htail := (List.cons_prefix_cons.mp hpre).2
      exact List.ne_of_not_mem_cons ho (List.cons_prefix_cons.mp htail).1.symm
  rw [hchars, replaceFirst_append new hfirst, replaceFirst_append new hdoubled,
    replaceFirst_self_append]
  simp [token]

/-- The line of an escaped text is cut at the first closing brace of the text, in the middle of its
doubling; without one, what follows the text decides, unless the line ends before. -/
theorem cutLine?_escapeChars_append (cs rest : List Char) :
    cutLine? (escapeChars cs ++ rest) =
      match cutLine? cs with
      | some (before, after) => some (escapeChars before, '}' :: escapeChars after ++ rest)
      | none =>
        if '\n' ∈ cs then none
        else (cutLine? rest).map fun (before, after) => (escapeChars cs ++ before, after) := by
  induction cs with
  | nil => simp [escapeChars_nil, cutLine?]
  | cons c cs ih =>
    by_cases hc : c = '}'
    · subst hc
      simp [escapeChars_close, escapeChars_nil, cutLine?]
    · by_cases hn : c = '\n'
      · subst hn
        rw [escapeChars_other (by decide) (by decide)]
        simp [cutLine?]
      · have hmem : '\n' ∈ c :: cs ↔ '\n' ∈ cs := by simp [Ne.symm hn]
        have hstep : cutLine? (escapeChars (c :: cs) ++ rest) =
            (cutLine? (escapeChars cs ++ rest)).map fun (before, after) =>
              (escapeChars [c] ++ before, after) := by
          by_cases ho : c = '{'
          · subst ho
            simp [escapeChars_open, escapeChars_nil, cutLine?, Option.map_map]
            rfl
          · simp [escapeChars_other ho hc, escapeChars_nil, cutLine?, hc, hn]
        have hsplit (xs : List Char) : escapeChars (c :: xs) = escapeChars [c] ++ escapeChars xs :=
          escapeChars_append [c] xs
        rw [hstep, ih]
        simp only [cutLine?, hc, hn, ite_false, hmem]
        cases hcut : cutLine? cs with
        | some cut => simp [hsplit cut.1]
        | none =>
          by_cases hm : '\n' ∈ cs
          · simp [hm]
          · simp only [Option.map_none, hm, ite_false, Option.map_map]
            congr 1
            funext cut
            simp [hsplit cs]

/-- Whether an opening brace is left open: neither a closing brace nor a line break follows it. -/
def leavesOpen : List Char → Bool
  | [] => false
  | c :: rest => (c = '{' && !rest.contains '}' && !rest.contains '\n') || leavesOpen rest

theorem leavesOpen_open {cs : List Char} :
    leavesOpen ('{' :: cs) = true ↔ ('}' ∉ cs ∧ '\n' ∉ cs) ∨ leavesOpen cs = true := by
  simp [leavesOpen]

theorem leavesOpen_other {c : Char} (h : c ≠ '{') (cs : List Char) :
    leavesOpen (c :: cs) = leavesOpen cs := by
  simp [leavesOpen, h]

/-- Nothing in front of a closing brace is left open. -/
theorem leavesOpen_append_close (before after : List Char) :
    leavesOpen (before ++ '}' :: after) = leavesOpen after := by
  induction before with
  | nil => exact leavesOpen_other (by decide) after
  | cons c before ih => simp [leavesOpen, ih]

/-- To prove a fact of every text, an opening brace may be taken together with the rest of its line
up to the first closing brace, if there is one. -/
theorem brace_induction {P : List Char → Prop} (nil : P [])
    (closed : ∀ before after, '}' ∉ before → '\n' ∉ before → P after →
      P ('{' :: (before ++ '}' :: after)))
    (unclosed : ∀ cs, cutLine? cs = none → P cs → P ('{' :: cs))
    (other : ∀ c cs, c ≠ '{' → P cs → P (c :: cs)) (cs : List Char) : P cs := by
  match cs with
  | [] => exact nil
  | c :: cs =>
    by_cases ho : c = '{'
    · subst ho
      cases hcut : cutLine? cs with
      | none => exact unclosed cs hcut (brace_induction nil closed unclosed other cs)
      | some cut =>
        obtain ⟨he, hb, hn⟩ := cutLine?_eq_some_iff.mp hcut
        have ih := brace_induction nil closed unclosed other cut.2
        rw [he]
        exact closed cut.1 cut.2 hb hn ih
    · exact other c cs ho (brace_induction nil closed unclosed other cs)
termination_by cs.length
decreasing_by
  · simp
  · rw [he]
    simp
    omega
  · simp

/-- A doubled opening brace whose line has a closing brace begins a candidate. -/
theorem scan_escapeChars_closed {before : List Char} (hb : '}' ∉ before) (hn : '\n' ∉ before)
    (after rest : List Char) :
    scan (escapeChars ('{' :: (before ++ '}' :: after)) ++ rest) =
      .braced ('{' :: escapeChars before) :: .plain '}' :: scan (escapeChars after ++ rest) := by
  have hchars : escapeChars ('{' :: (before ++ '}' :: after)) ++ rest =
      '{' :: (('{' :: escapeChars before) ++ '}' :: '}' :: (escapeChars after ++ rest)) := by
    simp [escapeChars_open, escapeChars_append, escapeChars_close]
  have hline : '\n' ∉ '{' :: escapeChars before := by simp [mem_escapeChars, hn]
  have hshort : '}' ∉ ('{' :: escapeChars before).tail := by simp [mem_escapeChars, hb]
  rw [hchars, scan_braced (List.cons_ne_nil _ _) hline hshort, scan_plain (fun h => by cases h)]

/-- A doubled opening brace on a line without a closing brace begins no candidate. -/
theorem scan_escapeChars_unclosed {cs rest : List Char}
    (hcut : cutLine? (escapeChars cs ++ rest) = none) :
    scan (escapeChars ('{' :: cs) ++ rest) =
      .plain '{' :: .plain '{' :: scan (escapeChars cs ++ rest) := by
  have hline := cutLine?_eq_none_iff.mp hcut
  have hsecond : ¬ MakesCandidate (escapeChars cs ++ rest) := by
    rintro ⟨inner, after, he, -, hn⟩
    exact hn (hline inner after he)
  have hfirst : ¬ MakesCandidate ('{' :: (escapeChars cs ++ rest)) := by
    apply cutInner?_eq_none_iff.mp
    simp [cutInner?, hcut]
  rw [escapeChars_open, List.cons_append, List.cons_append, scan_plain (fun _ => hfirst),
    scan_plain (fun _ => hsecond)]

/-- Any other character stands for itself, doubled or not. -/
theorem scan_escapeChars_other {c : Char} (h : c ≠ '{') (cs rest : List Char) :
    scan (escapeChars (c :: cs) ++ rest) =
      (escapeChars [c]).map plain ++ scan (escapeChars cs ++ rest) := by
  by_cases hc : c = '}'
  · subst hc
    rw [escapeChars_close, List.cons_append, List.cons_append,
      scan_plain (fun he => absurd he h), scan_plain (fun he => absurd he h)]
    rfl
  · rw [escapeChars_other h hc, List.cons_append, scan_plain (fun he => absurd he h),
      escapeChars_other h hc]
    rfl

/-- A text without a line break and with nothing to cut off has no closing brace. -/
theorem close_not_mem_of_cutLine? {cs : List Char} (hcut : cutLine? cs = none)
    (hn : '\n' ∉ cs) : '}' ∉ cs := by
  intro hmem
  obtain ⟨before, after, he⟩ := List.append_of_mem hmem
  exact hn (he ▸ List.mem_append_left _ (cutLine?_eq_none_iff.mp hcut before after he))

/-- A line break in a line without a closing brace ends it whatever follows the text. -/
theorem cutLine?_escapeChars_of_newline {cs : List Char} (hcut : cutLine? cs = none)
    (hn : '\n' ∈ cs) (rest : List Char) : cutLine? (escapeChars cs ++ rest) = none := by
  rw [cutLine?_escapeChars_append, hcut]
  exact if_pos hn

/-- Literal text that leaves no brace open is scanned apart from what follows. -/
theorem scan_escapeChars_append {cs : List Char} (h : leavesOpen cs = false) (rest : List Char) :
    scan (escapeChars cs ++ rest) = scan (escapeChars cs) ++ scan rest := by
  rw [← List.append_nil (escapeChars cs), List.append_assoc, List.nil_append]
  induction cs using brace_induction with
  | nil => rw [escapeChars_nil, List.nil_append, List.nil_append, scan_nil, List.nil_append]
  | closed before after hb hn ih =>
    have hafter := (leavesOpen_append_close ('{' :: before) after).symm.trans h
    rw [scan_escapeChars_closed hb hn, scan_escapeChars_closed hb hn, ih hafter]
    rfl
  | unclosed cs hcut ih =>
    rw [← Bool.not_eq_true, leavesOpen_open, not_or, Bool.not_eq_true] at h
    have hn : '\n' ∈ cs := by
      by_cases hn : '\n' ∈ cs
      · exact hn
      · exact absurd ⟨close_not_mem_of_cutLine? hcut hn, hn⟩ h.1
    rw [scan_escapeChars_unclosed (cutLine?_escapeChars_of_newline hcut hn _),
      scan_escapeChars_unclosed (cutLine?_escapeChars_of_newline hcut hn _), ih h.2]
    rfl
  | other c cs ho ih =>
    rw [leavesOpen_other ho] at h
    rw [scan_escapeChars_other ho, scan_escapeChars_other ho, ih h, List.append_assoc]

/-- The candidates in literal text all begin with a doubled opening brace. -/
theorem head?_of_mem_scan_escapeChars {cs inner : List Char}
    (h : .braced inner ∈ scan (escapeChars cs)) : inner.head? = some '{' := by
  rw [← List.append_nil (escapeChars cs)] at h
  induction cs using brace_induction with
  | nil => simp [escapeChars_nil, scan_nil] at h
  | closed before after hb hn ih =>
    rw [scan_escapeChars_closed hb hn, List.mem_cons, List.mem_cons] at h
    rcases h with he | he | hmem
    · cases he
      rfl
    · cases he
    · exact ih hmem
  | unclosed cs hcut ih =>
    have hend : cutLine? (escapeChars cs ++ []) = none := by
      rw [cutLine?_escapeChars_append, hcut]
      simp [cutLine?]
    rw [scan_escapeChars_unclosed hend, List.mem_cons, List.mem_cons] at h
    rcases h with he | he | hmem
    · cases he
    · cases he
    · exact ih hmem
  | other c cs ho ih =>
    rw [scan_escapeChars_other ho, List.mem_append, List.mem_map] at h
    rcases h with ⟨d, -, hd⟩ | hmem
    · cases hd
    · exact ih hmem

/-- Literal text that leaves a brace open takes the next closing brace of the line into a candidate
of its own, which begins with a doubled opening brace as well. -/
theorem head?_of_mem_scan_open {cs line rest inner : List Char} (hopen : leavesOpen cs = true)
    (hclose : '}' ∉ line) (hline : '\n' ∉ line)
    (hrest : ∀ i, .braced i ∈ scan rest → i.head? = some '{')
    (h : .braced inner ∈ scan (escapeChars cs ++ (line ++ '}' :: rest))) :
    inner.head? = some '{' := by
  induction cs using brace_induction with
  | nil => cases hopen
  | closed before after hb hn ih =>
    have hafter := (leavesOpen_append_close ('{' :: before) after).symm.trans hopen
    rw [scan_escapeChars_closed hb hn, List.mem_cons, List.mem_cons] at h
    rcases h with he | he | hmem
    · cases he
      rfl
    · cases he
    · exact ih hafter hmem
  | unclosed cs hcut ih =>
    by_cases hn : '\n' ∈ cs
    · have hcs := (leavesOpen_open.mp hopen).resolve_left (fun hnone => hnone.2 hn)
      rw [scan_escapeChars_unclosed (cutLine?_escapeChars_of_newline hcut hn _), List.mem_cons,
        List.mem_cons] at h
      rcases h with he | he | hmem
      · cases he
      · cases he
      · exact ih hcs hmem
    · have hb := close_not_mem_of_cutLine? hcut hn
      have hchars : escapeChars ('{' :: cs) ++ (line ++ '}' :: rest) =
          '{' :: (('{' :: (escapeChars cs ++ line)) ++ '}' :: rest) := by
        simp [escapeChars_open]
      rw [hchars, scan_braced (List.cons_ne_nil _ _) (by simp [mem_escapeChars, hn, hline])
        (by simp [mem_escapeChars, hb, hclose]), List.mem_cons] at h
      rcases h with he | hmem
      · cases he
        rfl
      · exact hrest inner hmem
  | other c cs ho ih =>
    rw [leavesOpen_other ho] at hopen
    rw [scan_escapeChars_other ho, List.mem_append, List.mem_map] at h
    rcases h with ⟨d, -, hd⟩ | hmem
    · cases hd
    · exact ih hopen hmem

end LiveText.Template
