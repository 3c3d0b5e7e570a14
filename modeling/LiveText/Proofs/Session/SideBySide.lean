import LiveText.Proofs.Session.Literal

/-!
# Two values side by side

The text of a value is part of the text in which later tokens are looked for, and a brace doubled in
it is written once in the end. `format_pair_iff` says when the values of two references with a blank
between are nevertheless shown as they are.
-/

namespace LiveText

namespace Template

open Text Piece
open Binding hiding token

/-- The tokens of two references with a blank between. -/
def pair (first second : String) : String :=
  String.ofList (token first.toList ++ ' ' :: token second.toList)

private theorem toList_pair (first second : String) :
    (pair first second).toList = token first.toList ++ ' ' :: token second.toList := by
  simp [pair]

/-- Two references side by side are bound unless the limit is less than two. -/
private theorem bound_pair {first second : String} (hfirst : IsReference first.toList)
    (hsecond : IsReference second.toList) {limit : Nat} (hlimit : 2 ≤ limit) :
    bound limit (pair first second) = [first.toList, second.toList] := by
  have hpieces : scan (pair first second).toList =
      [.braced first.toList, .plain ' ', .braced second.toList] := by
    have hlast := scan_token hsecond []
    rw [List.append_nil, scan_nil] at hlast
    rw [toList_pair, scan_token hfirst, scan_plain (fun h => absurd h (by decide)), hlast]
  have hcandidates : candidates (pair first second) = [first.toList, second.toList] := by
    rw [candidates, hpieces]
    rfl
  rw [bound, hcandidates, List.take_of_length_le hlimit,
    List.filter_cons_of_pos (by simp [hfirst.isSkipped_eq_false]),
    List.filter_cons_of_pos (by simp [hsecond.isSkipped_eq_false])]
  rfl

/-- What a pair of tokens becomes by the texts of their values: the second one takes the place of
its token in the first one, if that holds it, and of its own token otherwise. -/
def filledPair (second : List Char) (v w : List Char) : List Char :=
  if occurs (token second) v then replaceFirst (token second) w v ++ ' ' :: token second
  else v ++ ' ' :: w

private theorem replaceEach_pair (first : List Char) {second : List Char}
    (hsecond : IsReference second) (v w : List Char) :
    replaceEach [(token first, v), (token second, w)] (token first ++ ' ' :: token second) =
      filledPair second v w := by
  have hblank : ' ' ∉ token second := by
    have hinner : ' ' ∉ second := hsecond.not_mem (by decide) (by decide)
    simp [token, hinner]
  have hfirst : replaceFirst (token first) v (token first ++ ' ' :: token second) =
      v ++ ' ' :: token second := replaceFirst_self_append ..
  have hsecond : replaceFirst (token second) w (v ++ ' ' :: token second) =
      filledPair second v w := by
    by_cases hoccurs : occurs (token second) v = true
    · rw [filledPair, if_pos hoccurs, replaceFirst_append_of_occurs w hoccurs]
    · have hnone : NoneBegins (token second) v (' ' :: token second) :=
        noneBegins_of_not_mem hblank (Bool.eq_false_iff.mpr hoccurs) _
      have hown : replaceFirst (token second) w (' ' :: token second) = ' ' :: w := by
        have hself := replaceFirst_self_append (token second) w []
        rw [List.append_nil, List.append_nil] at hself
        rw [replaceFirst, if_neg (by simp [token]), hself]
      rw [filledPair, if_neg hoccurs, replaceFirst_append w hnone, hown]
  rw [replaceEach, replaceEach, replaceEach, hfirst, hsecond]

/-- With its literal braces written once, a filled-in pair is the two texts side by side exactly if
no brace is doubled in them and the first one is not changed by the second. -/
theorem unescapeChars_filledPair_iff (second v w : List Char) :
    unescapeChars (filledPair second v w) = v ++ ' ' :: w ↔
      hasDoubledBrace v = false ∧ hasDoubledBrace w = false ∧
        (occurs (token second) v = true →
          replaceFirst (token second) w v ++ ' ' :: token second = v ++ ' ' :: w) := by
  have hlength : (filledPair second v w).length = (v ++ ' ' :: w).length := by
    by_cases hoccurs : occurs (token second) v = true
    · have hreplaced := length_replaceFirst w hoccurs
      rw [filledPair, if_pos hoccurs]
      simp only [List.length_append, List.length_cons]
      omega
    · rw [filledPair, if_neg hoccurs]
  have hsame : filledPair second v w = v ++ ' ' :: w ↔ (occurs (token second) v = true →
      replaceFirst (token second) w v ++ ' ' :: token second = v ++ ' ' :: w) := by
    by_cases hoccurs : occurs (token second) v = true
    · rw [filledPair, if_pos hoccurs]
      exact ⟨fun h _ => h, fun h => h hoccurs⟩
    · rw [filledPair, if_neg hoccurs]
      exact iff_of_true rfl fun h => absurd h hoccurs
  rw [← hsame, ← and_assoc, ← Bool.or_eq_false_iff, ← hasDoubledBrace_append_blank,
    ← unescapeChars_eq_self_iff]
  constructor
  · intro h
    -- nothing was removed, or the text would be too short
    have hkept : unescapeChars (filledPair second v w) = filledPair second v w :=
      unescapeChars_eq_self_of_length_le
        (Nat.le_of_eq (hlength.trans (congrArg List.length h).symm))
    have hfilled := hkept.symm.trans h
    exact ⟨hfilled ▸ hkept, hfilled⟩
  · rintro ⟨hkept, hfilled⟩
    rw [hfilled, hkept]

end Template

namespace Session

open Text Template Piece
open Binding hiding token

/-- Under the default parser, with a limit of at least two, the values of two references with a
blank between are filled in one after the other, and both are shown as they are exactly if no brace
is doubled in their texts and the first text either does not hold the second token or becomes the
same by the second value. -/
theorem format_pair_iff {e : Engine} {limit : Nat} (hparse : e.parse = parse limit)
    (hlimit : 2 ≤ limit) {first second : String} (hfirst : IsReference first.toList)
    (hsecond : IsReference second.toList) {s : Session}
    (hs : Uninserted e (pair first second) s) (r : Request) {v w : Value}
    (hv : e.lookup s.states r (Reference.ofString first).state = v)
    (hw : e.lookup s.states r (Reference.ofString second).state = w) :
    (s.format e (pair first second) r).1 =
        String.ofList (unescapeChars (filledPair second.toList v.displayChars w.displayChars)) ∧
    ((s.format e (pair first second) r).1 = v.display ++ " " ++ w.display ↔
      hasDoubledBrace v.displayChars = false ∧ hasDoubledBrace w.displayChars = false ∧
        (occurs (token second.toList) v.displayChars = true →
          replaceFirst (token second.toList) w.displayChars v.displayChars ++
              ' ' :: token second.toList =
            v.displayChars ++ ' ' :: w.displayChars)) := by
  have htext : (s.format e (pair first second) r).1 = String.ofList (unescapeChars
      (filledPair second.toList v.displayChars w.displayChars)) := by
    have hparsed : parsed e (pair first second) =
        [(ofInner (pair first second) first.toList).1,
          (ofInner (pair first second) second.toList).1] := by
      rw [parsed_eq hparse, bound_pair hfirst hsecond hlimit]
      rfl
    rw [format_text, hs.bindings_eq, hparsed, hfirst.ofInner_eq, hsecond.ofInner_eq, toList_pair,
      ← replaceEach_pair first.toList hsecond, ← hv, ← hw]
    simp only [List.map_cons, List.map_nil, String.toList_ofList]
    rfl
  refine ⟨htext, ?_⟩
  have hexpected : v.display ++ " " ++ w.display =
      String.ofList (v.displayChars ++ ' ' :: w.displayChars) := by
    simp [Value.display, String.append_assoc]
  rw [htext, hexpected, String.ofList_inj]
  exact unescapeChars_filledPair_iff ..

/-- A document in front of a text that holds the first token. -/
theorem format_pair_document :
    2 ≤ 50 ∧ IsReference "x".toList ∧ IsReference "y".toList ∧
    Uninserted (Engine.plain 50) (pair "x" "y")
      { states := [("x", .object [("k", .number 1)]), ("y.val", .string "{x}")] } ∧
    (Session.format (Engine.plain 50) (pair "x" "y") {}
      { states := [("x", .object [("k", .number 1)]), ("y.val", .string "{x}")] }).1 =
        "\x7b\"k\":1\x7d {x}" := by
  have hfirst : IsReference "x".toList := isReference_singleton (by decide)
  have hsecond : IsReference "y".toList := isReference_singleton (by decide)
  have hs : Uninserted (Engine.plain 50) (pair "x" "y")
      { states := [("x", .object [("k", .number 1)]), ("y.val", .string "{x}")] } := .start rfl
  refine ⟨by decide, hfirst, hsecond, hs, ?_⟩
  have hpair := format_pair_iff rfl (by decide) hfirst hsecond hs {}
    (v := .object [("k", .number 1)]) (w := .string "{x}") rfl rfl
  rw [hpair.2.mpr (by decide +kernel)]
  decide +kernel

/-- A value that holds the second token takes the second value in, a document loses one of two
braces that close it, and with a limit of one the second token stays. -/
theorem format_pair_altered :
    (Session.format (Engine.plain 50) (pair "x" "y") {}
      { states := [("x.val", .string "{y}"), ("y.val", .string "1")] }).1 = "1 {y}" ∧
    "1 {y}" ≠ (Value.string "{y}").display ++ " " ++ (Value.string "1").display ∧
    (Session.format (Engine.plain 50) (pair "x" "y") {}
      { states := [("x.val", .object [("k", .object [])]), ("y.val", .string "1")] }).1 =
        "\x7b\"k\":\x7b\x7d 1" ∧
    "\x7b\"k\":\x7b\x7d 1" ≠
      (Value.object [("k", .object [])]).display ++ " " ++ (Value.string "1").display ∧
    (Session.format (Engine.plain 1) (pair "x" "y") {}
      { states := [("x.val", .string "0"), ("y.val", .string "1")] }).1 = "0 {y}" ∧
    "0 {y}" ≠ (Value.string "0").display ++ " " ++ (Value.string "1").display := by
  decide +kernel

end Session

end LiveText
