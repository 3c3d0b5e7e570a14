import LiveText.Binding.Parser
import LiveText.Proofs.Text.Trim

/-!
# Bound candidates

The bindings of a template are those of its first candidates, in order and without the skipped ones.
What the other candidates say is plain text. A candidate that is a plain reference has no
operations: `IsReference.ofInner_eq`.
-/

namespace LiveText

namespace Text

/-- A code point of a class lies in one of its ranges. -/
theorem Ranges.exists_of_contains {r : Ranges} {n : Nat} (h : r.contains n = true) :
    ∃ range ∈ r, range.1 ≤ n ∧ n ≤ range.2 := by
  induction r with
  | nil => cases h
  | cons range r ih =>
    by_cases hlow : n < range.1
    · simp [Ranges.contains, hlow] at h
    · simp only [Ranges.contains, hlow, ite_false, Bool.or_eq_true, decide_eq_true_eq] at h
      rcases h with hhigh | hrest
      · exact ⟨range, List.mem_cons_self .., Nat.le_of_not_lt hlow, hhigh⟩
      · obtain ⟨other, hmem, hother⟩ := ih hrest
        exact ⟨other, List.mem_cons_of_mem range hmem, hother⟩

/-- No blank may stand in a word. -/
private theorem isWord_of_isBlank {c : Char} (h : isBlank c = true) : isWord c = false := by
  have hblanks : ∀ range ∈ whiteSpace, ∀ n ∈ List.range' range.1 (range.2 + 1 - range.1),
      ((alphabetic.contains n || wordOnly.contains n) && !latestWord.contains n) = false := by
    decide +kernel
  obtain ⟨range, hmem, hlow, hhigh⟩ := Ranges.exists_of_contains h
  exact hblanks range hmem c.toNat (List.mem_range'_1.mpr ⟨hlow, by omega⟩)

/-- No word character is blank. -/
theorem isBlank_of_isWord {c : Char} (h : isWord c = true) : isBlank c = false := by
  apply Bool.eq_false_iff.mpr
  intro hblank
  rw [isWord_of_isBlank hblank] at h
  cases h

/-- No mark of a token may stand in a word. -/
theorem isWord_of_mem_marks {c : Char} (h : c ∈ ['{', '}', '\n', '"', ';', ':']) :
    isWord c = false := by
  have hmarks : (['{', '}', '\n', '"', ';', ':'].all fun d => !isWord d) = true := by
    decide
  exact (Bool.not_eq_true' _).mp (List.all_eq_true.mp hmarks c h)

end Text

namespace Binding

open Text Piece

/-- The inner texts of the candidates that are bound. -/
def bound (limit : Nat) (template : String) : List (List Char) :=
  ((candidates template).take limit).filter (!isSkipped ·)

theorem mem_candidates {template : String} {inner : List Char} :
    inner ∈ candidates template ↔ .braced inner ∈ scan template.toList := by
  rw [candidates, List.mem_filterMap]
  constructor
  · rintro ⟨p, hp, hinner⟩
    cases p with
    | plain c => cases hinner
    | braced other =>
      cases hinner
      exact hp
  · intro hmem
    exact ⟨.braced inner, hmem, rfl⟩

/-- A candidate that begins with an opening brace is skipped. -/
theorem isSkipped_of_head? {inner : List Char} (h : inner.head? = some '{') :
    isSkipped inner = true := by
  rw [isSkipped, h]
  rfl

/-- Among skipped candidates none is bound. -/
theorem filter_of_skipped {found : List (List Char)}
    (h : ∀ inner ∈ found, isSkipped inner = true) : found.filter (!isSkipped ·) = [] := by
  apply List.filter_eq_nil_iff.mpr
  intro inner hmem
  simp [h inner hmem]

/-- A binding of operators has the token that it is given. -/
theorem token_ofOperators (token template : String) (head : List Char)
    (parts : List (List Char)) : (ofOperators token template head parts).1.token = token := rfl

/-- A binding of formulas has the token that it is given. -/
private theorem token_ofFormula (token template : String) (head : List Char)
    (parts : List (List Char)) :
    (ofFormula token template head parts).token = token := rfl

/-- The token of a binding is its candidate with its braces. -/
theorem token_ofInner (template : String) (inner : List Char) :
    (ofInner template inner).1.token = String.ofList (Piece.token inner) := by
  unfold ofInner
  split
  · exact token_ofOperators ..
  · split
    · exact token_ofFormula ..
    · exact token_ofOperators ..

/-- The bindings of a template are those of its bound candidates, if there are any. -/
theorem parse_eq (limit : Nat) (template : String) :
    (parse limit template).1 = if bound limit template = [] then none
      else some ((bound limit template).map fun inner => (ofInner template inner).1) := by
  have hread : (((candidates template).take limit).filter (!isSkipped ·)).map
      (ofInner template) = (bound limit template).map (ofInner template) := rfl
  simp only [parse, hread, List.map_map, List.isEmpty_iff, List.map_eq_nil_iff]
  rfl

theorem parse_getD (limit : Nat) (template : String) :
    (parse limit template).1.getD [] =
      (bound limit template).map fun inner => (ofInner template inner).1 := by
  rw [parse_eq]
  by_cases hnone : bound limit template = []
  · rw [if_pos hnone, hnone]
    rfl
  · rw [if_neg hnone]
    rfl

theorem parse_eq_none_iff (limit : Nat) (template : String) :
    (parse limit template).1 = none ↔ bound limit template = [] := by
  rw [parse_eq]
  by_cases hnone : bound limit template = []
  · simp [hnone]
  · simp [hnone]

/-- The tokens of a template's bindings are its bound candidates. -/
theorem tokens_parse (limit : Nat) (template : String) :
    ((parse limit template).1.getD []).map (fun b => b.token.toList) =
      (bound limit template).map Piece.token := by
  rw [parse_getD, List.map_map]
  apply List.map_congr_left
  intro inner _
  rw [Function.comp_apply, token_ofInner, String.toList_ofList]

/-- If no skipped candidate is in front of a bound one, the candidates in front of a bound one are
bound. -/
theorem bound_eq_append {limit : Nat} {template : String} {before after : List (List Char)}
    {inner : List Char} (hcandidates : candidates template = before ++ inner :: after)
    (hlimit : before.length < limit) (hinner : isSkipped inner = false)
    (h : ((candidates template).take limit).Pairwise fun a b =>
      isSkipped a = true → isSkipped b = true) :
    ∃ more, bound limit template = before ++ inner :: more := by
  obtain ⟨left, rfl⟩ : ∃ left, limit = before.length + (left + 1) :=
    ⟨limit - before.length - 1, by omega⟩
  have htake : (candidates template).take (before.length + (left + 1)) =
      before ++ inner :: after.take left := by
    rw [hcandidates, List.take_length_add_append, List.take_succ_cons]
  rw [htake] at h
  have hbefore : ∀ a ∈ before, isSkipped a = false := by
    intro a ha
    have hskip := (List.pairwise_append.mp h).2.2 a ha inner (List.mem_cons_self ..)
    rw [hinner] at hskip
    exact Bool.eq_false_iff.mpr fun hsome => Bool.false_ne_true (hskip hsome)
  refine ⟨(after.take left).filter (!isSkipped ·), ?_⟩
  rw [bound, htake, List.filter_append, List.filter_cons_of_pos (by simp [hinner])]
  rw [List.filter_eq_self.mpr fun a ha => by simp [hbefore a ha]]

/-- The pieces of a template with the characters of unbound candidates as plain ones. At most
`limit` candidates are bound, and no skipped one. -/
def boundOnly : Nat → List Piece → List Piece
  | _, [] => []
  | limit, .plain c :: ps => .plain c :: boundOnly limit ps
  | 0, .braced inner :: ps => (Piece.token inner).map .plain ++ boundOnly 0 ps
  | limit + 1, .braced inner :: ps =>
    if isSkipped inner then (Piece.token inner).map .plain ++ boundOnly limit ps
    else .braced inner :: boundOnly limit ps

/-- Pieces of which no candidate is bound are plain text. -/
theorem boundOnly_eq_plain {limit : Nat} {ps : List Piece}
    (h : ∀ inner ∈ (ps.filterMap inner?).take limit, isSkipped inner = true) :
    boundOnly limit ps = (ps.flatMap chars).map plain := by
  induction ps generalizing limit with
  | nil => cases limit <;> rfl
  | cons p ps ih =>
    cases p with
    | plain c =>
      have hps := ih h
      rw [boundOnly, hps]
      rfl
    | braced inner =>
      rw [List.flatMap_cons, chars, List.map_append]
      cases limit with
      | zero => rw [boundOnly, ih (fun _ hmem => absurd hmem List.not_mem_nil)]
      | succ limit =>
        have hall := List.forall_mem_cons.mp h
        rw [boundOnly, if_pos hall.1, ih hall.2]

/-- If no skipped candidate is in front of a bound one, the bound candidates are those of the pieces
in front of some place, and what follows it is plain text. -/
theorem exists_boundOnly_eq {limit : Nat} {ps : List Piece}
    (h : ((ps.filterMap inner?).take limit).Pairwise fun a b =>
      isSkipped a = true → isSkipped b = true) :
    ∃ front rest, ps = front ++ rest ∧
      front.filterMap inner? = ((ps.filterMap inner?).take limit).filter (!isSkipped ·) ∧
      boundOnly limit ps = front ++ (rest.flatMap chars).map plain := by
  induction ps generalizing limit with
  | nil => exact ⟨[], [], rfl, by simp, by cases limit <;> rfl⟩
  | cons p ps ih =>
    cases p with
    | plain c =>
      obtain ⟨front, rest, rfl, hbound, honly⟩ := ih h
      refine ⟨.plain c :: front, rest, rfl, hbound, ?_⟩
      rw [boundOnly, honly]
      rfl
    | braced inner =>
      cases limit with
      | zero =>
        refine ⟨[], .braced inner :: ps, rfl, rfl, ?_⟩
        exact boundOnly_eq_plain fun _ hmem => absurd hmem List.not_mem_nil
      | succ limit =>
        have hcons : ((Piece.braced inner :: ps).filterMap inner?).take (limit + 1) =
            inner :: (ps.filterMap inner?).take limit := rfl
        rw [hcons] at h
        obtain ⟨hhead, htail⟩ := List.pairwise_cons.mp h
        by_cases hskip : isSkipped inner = true
        · have hall : ∀ other ∈ inner :: (ps.filterMap inner?).take limit,
              isSkipped other = true :=
            List.forall_mem_cons.mpr ⟨hskip, fun other hmem => hhead other hmem hskip⟩
          refine ⟨[], .braced inner :: ps, rfl, ?_, ?_⟩
          · rw [hcons, filter_of_skipped hall]
            rfl
          · apply boundOnly_eq_plain
            rw [hcons]
            exact hall
        · obtain ⟨front, rest, rfl, hbound, honly⟩ := ih htail
          refine ⟨.braced inner :: front, rest, rfl, ?_, ?_⟩
          · rw [hcons, List.filter_cons_of_pos (by simp [hskip]), ← hbound]
            rfl
          · rw [boundOnly, if_neg hskip, honly]
            rfl

/-- Whether a text is a plain reference: word characters and points. -/
def IsReference (inner : List Char) : Prop :=
  inner ≠ [] ∧ ∀ c ∈ inner, isWord c = true ∨ c = '.'

/-- A letter is a plain reference. -/
theorem isReference_singleton {c : Char} (h : c.isAlpha = true) : IsReference [c] := by
  refine ⟨List.cons_ne_nil _ _, fun d hd => Or.inl ?_⟩
  obtain rfl := List.mem_singleton.mp hd
  exact isWord_of_isAlpha h

theorem IsReference.not_mem {inner : List Char} (h : IsReference inner) {c : Char}
    (hword : isWord c = false) (hpoint : c ≠ '.') : c ∉ inner := by
  intro hc
  rcases h.2 c hc with hw | hp
  · rw [hword] at hw
    cases hw
  · exact hpoint hp

/-- No named reference begins a text without a colon. -/
private theorem isFormulaHead_of_not_mem {cs : List Char} (h : ':' ∉ cs) :
    isFormulaHead cs = false := by
  have hnone : afterArgName? cs = none := by
    unfold afterArgName?
    split
    · rfl
    · split
      · rename_i rest hdrop
        exact absurd ((List.dropWhile_suffix isWord).subset (hdrop ▸ List.mem_cons_self ..)) h
      · rfl
  rw [isFormulaHead, hnone]

theorem IsReference.open_not_mem {inner : List Char} (h : IsReference inner) : '{' ∉ inner :=
  h.not_mem (isWord_of_mem_marks (by decide)) (by decide)

theorem IsReference.close_not_mem {inner : List Char} (h : IsReference inner) : '}' ∉ inner :=
  h.not_mem (isWord_of_mem_marks (by decide)) (by decide)

theorem IsReference.newline_not_mem {inner : List Char} (h : IsReference inner) : '\n' ∉ inner :=
  h.not_mem (isWord_of_mem_marks (by decide)) (by decide)

/-- A plain reference is not skipped. -/
theorem IsReference.isSkipped_eq_false {inner : List Char} (h : IsReference inner) :
    isSkipped inner = false := by
  have hquote : '"' ∉ inner := h.not_mem (isWord_of_mem_marks (by decide)) (by decide)
  cases inner with
  | nil => rfl
  | cons c rest =>
    simp [isSkipped, Ne.symm (List.ne_of_not_mem_cons h.open_not_mem),
      Ne.symm (List.ne_of_not_mem_cons hquote)]

/-- A plain reference has no operations. -/
theorem IsReference.ofInner_eq {inner : List Char} (h : IsReference inner) (template : String) :
    ofInner template inner =
      ({ state := (Reference.ofChars inner).state
         system := (Reference.ofChars inner).system
         token := String.ofList (Piece.token inner)
         operations := []
         template := template
         isSeconds := (Reference.ofChars inner).isSeconds }, []) := by
  have hparts : inner.splitOn ';' = [inner] := by
    apply List.splitOn_eq_singleton
    exact h.not_mem (isWord_of_mem_marks (by decide)) (by decide)
  have htrim : trim inner = inner := by
    apply trim_of_not_isBlank
    intro c hc
    rcases h.2 c hc with hw | rfl
    · exact isBlank_of_isWord hw
    · decide
  have hhead : isFormulaHead inner = false :=
    isFormulaHead_of_not_mem (h.not_mem (isWord_of_mem_marks (by decide)) (by decide))
  simp [ofInner, hparts, htrim, hhead, ofOperators]

end Binding

end LiveText
