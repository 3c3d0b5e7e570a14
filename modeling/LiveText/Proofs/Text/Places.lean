import Mathlib
import LiveText.Formula.Method
import LiveText.Proofs.Text.Occurrence

/-!
# Places in texts

The first occurrence of a text is at the least place from which the other one goes on with it
(`find?_eq_some_iff`), and replacing it exchanges what stands there (`replaceFirst_of_find?`). What
is split at a separator is the text again when it is joined, `joined_split`.
-/

namespace LiveText

namespace Text

variable {needle cs : List Char} {i : Nat}

theorem find?_cons (needle : List Char) (c : Char) (rest : List Char) :
    find? needle (c :: rest) =
      if needle <+: c :: rest then some 0 else (find? needle rest).map (· + 1) := by
  rw [find?]
  exact if_congr List.isPrefixOf_iff_prefix rfl rfl

/-- A text is found at the least place from which the other one goes on with it. -/
theorem find?_eq_some_iff :
    find? needle cs = some i ↔ needle <+: cs.drop i ∧ ∀ j < i, ¬ needle <+: cs.drop j := by
  induction cs generalizing i with
  | nil =>
    simp only [find?, List.drop_nil, List.prefix_nil, List.isEmpty_iff]
    split_ifs with hnil
    · simp only [Option.some.injEq, hnil, true_and, not_true, imp_false, not_lt]
      exact ⟨fun h => h ▸ fun j => Nat.zero_le j, fun h => (Nat.le_zero.mp (h 0)).symm⟩
    · exact iff_of_false not_false fun h => hnil h.1
  | cons c rest ih =>
    rw [find?_cons]
    split_ifs with hfront
    · rw [Option.some.injEq]
      constructor
      · rintro rfl
        exact ⟨hfront, fun j hj => absurd hj (Nat.not_lt_zero j)⟩
      · rintro ⟨-, hnone⟩
        by_contra hne
        exact hnone 0 (by omega) hfront
    · cases i with
      | zero =>
        refine iff_of_false (fun hsome => ?_) fun h => hfront h.1
        obtain ⟨j, -, hj⟩ := Option.map_eq_some_iff.mp hsome
        exact absurd hj (Nat.succ_ne_zero j)
      | succ i =>
        have hrest : (find? needle rest).map (· + 1) = some (i + 1) ↔
            find? needle rest = some i := by
          simp only [Option.map_eq_some_iff, Nat.add_right_cancel_iff, exists_eq_right]
        rw [hrest, ih, List.drop_succ_cons]
        refine and_congr_right fun _ => ⟨fun hnone j hj => ?_, fun hnone j hj => ?_⟩
        · cases j with
          | zero => exact hfront
          | succ j => exact hnone j (Nat.succ_lt_succ_iff.mp hj)
        · exact hnone (j + 1) (Nat.succ_lt_succ hj)

/-- What is found lies in the text. -/
theorem length_of_find? (h : find? needle cs = some i) : i + needle.length ≤ cs.length := by
  obtain ⟨hfound, hnone⟩ := find?_eq_some_iff.mp h
  have hlength := hfound.length_le
  rw [List.length_drop] at hlength
  by_contra hlong
  -- only the empty text is found at the end, and it is found in front
  have hempty : needle = [] := List.length_eq_zero_iff.mp (by omega)
  have hpos : 0 < i := by omega
  exact hnone 0 hpos (hempty ▸ List.nil_prefix)

/-- What stands at the place of the first occurrence is replaced. -/
theorem replaceFirst_of_find? (new : List Char) (h : find? needle cs = some i) :
    replaceFirst needle new cs = cs.take i ++ new ++ cs.drop (i + needle.length) := by
  induction cs generalizing i with
  | nil =>
    rw [find?] at h
    split_ifs at h with hnil
    rw [replaceFirst, if_pos hnil]
    simp
  | cons c rest ih =>
    rw [find?_cons] at h
    split_ifs at h with hfront
    · obtain ⟨after, hafter⟩ := hfront
      obtain rfl := Option.some.inj h
      rw [← hafter, replaceFirst_self_append, List.take_zero, List.nil_append, Nat.zero_add,
        List.drop_left]
    · obtain ⟨j, hj, rfl⟩ := Option.map_eq_some_iff.mp h
      have hnot : ¬ needle.isPrefixOf (c :: rest) = true :=
        List.isPrefixOf_iff_prefix.not.mpr hfront
      rw [replaceFirst, if_neg hnot, ih hj, Nat.add_right_comm, List.take_succ_cons,
        List.drop_succ_cons, List.cons_append, List.cons_append]

/-! ### Pieces -/

theorem splitOnText_ne_nil (first : Char) (more cs : List Char) :
    splitOnText first more cs ≠ [] := by
  rw [splitOnText.eq_def]
  split
  · exact List.cons_ne_nil _ _
  · split_ifs
    · exact List.cons_ne_nil _ _
    · split <;> exact List.cons_ne_nil _ _

private theorem intercalate_cons_of_ne_nil (separator piece : List Char) {pieces : List (List Char)}
    (h : pieces ≠ []) : separator.intercalate (piece :: pieces) =
      piece ++ separator ++ separator.intercalate pieces := by
  obtain ⟨next, more, rfl⟩ := List.exists_cons_of_ne_nil h
  exact List.intercalate_cons_cons

private theorem intercalate_cons_piece (separator : List Char) (c : Char) (piece : List Char)
    (pieces : List (List Char)) : separator.intercalate ((c :: piece) :: pieces) =
      c :: separator.intercalate (piece :: pieces) := by
  cases pieces with
  | nil => rw [List.intercalate_singleton, List.intercalate_singleton]
  | cons next more => rw [List.intercalate_cons_cons, List.intercalate_cons_cons]; rfl

/-- The pieces with the separator between them are the text. -/
theorem intercalate_splitOnText (first : Char) (more cs : List Char) :
    (first :: more).intercalate (splitOnText first more cs) = cs := by
  fun_induction splitOnText first more cs with
  | case1 => rw [List.intercalate_singleton]
  | case2 c rest hfront ih =>
    obtain ⟨rfl, hmore⟩ := hfront
    have happend := List.prefix_iff_eq_append.mp (List.isPrefixOf_iff_prefix.mp hmore)
    rw [intercalate_cons_of_ne_nil _ _ (splitOnText_ne_nil _ _ _), ih, List.nil_append,
      List.cons_append, happend]
  | case3 c rest hfront hnil ih => exact absurd hnil (splitOnText_ne_nil _ _ _)
  | case4 c rest hfront piece pieces hcons ih =>
    rw [intercalate_cons_piece, ← hcons, ih]

/-- The characters with nothing between them are the text. -/
private theorem intercalate_map_singleton (cs : List Char) :
    [].intercalate (cs.map ([·])) = cs := by
  induction cs with
  | nil => rfl
  | cons c rest ih =>
    by_cases hnil : rest = []
    · rw [hnil, List.map_singleton, List.intercalate_singleton]
    · rw [List.map_cons, intercalate_cons_of_ne_nil _ _ (mt List.map_eq_nil_iff.mp hnil), ih]
      rfl

end Text

namespace Method

/-- The pieces between separators, joined by the separator, are the text. -/
theorem joined_split (separator cs : List Char) : joined separator (split separator cs) = cs := by
  cases separator with
  | nil => exact Text.intercalate_map_singleton cs
  | cons first more => exact Text.intercalate_splitOnText first more cs

end Method

end LiveText
