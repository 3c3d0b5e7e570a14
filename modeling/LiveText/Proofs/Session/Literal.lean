import LiveText.Proofs.Session.Cache
import LiveText.Proofs.Template.Literal

/-!
# Literal text and tokens

Text whose braces are all doubled reads as itself: `format_escape`. In front of a token it can get
in the token's way: by leaving a brace open that takes the token in, by using up the limit, or by
holding the text of the token, which then is filled in there instead. `format_around_iff` says that
it does so in no other way.
-/

namespace LiveText

namespace Template

open Piece
open Binding hiding token

/-- The candidates in literal text are skipped. -/
theorem isSkipped_of_mem_candidates_escape {text : String} {inner : List Char}
    (h : inner ∈ candidates (escape text)) : isSkipped inner = true := by
  have hmem := mem_candidates.mp h
  rw [escape, String.toList_ofList] at hmem
  exact isSkipped_of_head? (head?_of_mem_scan_escapeChars hmem)

private theorem bound_escape (limit : Nat) (text : String) : bound limit (escape text) = [] :=
  filter_of_skipped fun _ h => isSkipped_of_mem_candidates_escape (List.mem_of_mem_take h)

/-- The token of a reference with literal text on both sides. -/
def around (before reference after : String) : String :=
  escape before ++ String.ofList (token reference.toList) ++ escape after

private theorem toList_around (before reference after : String) :
    (around before reference after).toList =
      escapeChars before.toList ++ (token reference.toList ++ escapeChars after.toList) := by
  simp [around, escape]

/-- If the text in front leaves a brace open, nothing is bound. -/
private theorem bound_around_open {before reference : String}
    (hopen : leavesOpen before.toList = true)
    (hreference : IsReference reference.toList) (limit : Nat) (after : String) :
    bound limit (around before reference after) = [] := by
  apply filter_of_skipped
  intro inner htake
  apply isSkipped_of_head?
  have hchars : (around before reference after).toList = escapeChars before.toList ++
      (('{' :: reference.toList) ++ '}' :: escapeChars after.toList) := by
    simp [toList_around, token]
  have hscan := mem_candidates.mp (List.mem_of_mem_take htake)
  rw [hchars] at hscan
  exact head?_of_mem_scan_open hopen (by simp [hreference.close_not_mem])
    (by simp [hreference.newline_not_mem])
    (fun i hi => head?_of_mem_scan_escapeChars hi) hscan

/-- The token of a plain reference is a candidate wherever it is read. -/
theorem scan_token {inner : List Char} (h : IsReference inner) (after : List Char) :
    scan (token inner ++ after) = .braced inner :: scan after := by
  have htoken : token inner ++ after = '{' :: (inner ++ '}' :: after) := by simp [token]
  rw [htoken]
  exact scan_braced h.1 h.newline_not_mem fun hmem => h.close_not_mem (List.mem_of_mem_tail hmem)

/-- If the text in front leaves no brace open, the token comes after the candidates in that text. -/
private theorem candidates_around {before reference : String}
    (hopen : leavesOpen before.toList = false)
    (hreference : IsReference reference.toList) (after : String) :
    candidates (around before reference after) =
      candidates (escape before) ++ reference.toList :: candidates (escape after) := by
  rw [candidates, toList_around, scan_escapeChars_append hopen, scan_token hreference,
    List.filterMap_append]
  simp [candidates, escape, inner?]

/-- If the text in front leaves no brace open, the token alone is bound, unless the candidates in
that text use up the limit. -/
theorem bound_around_closed {before reference : String} (hopen : leavesOpen before.toList = false)
    (hreference : IsReference reference.toList) (limit : Nat) (after : String) :
    bound limit (around before reference after) =
      if (candidates (escape before)).length < limit then [reference.toList] else [] := by
  have hskipped (text : String) (n : Nat) :
      ((candidates (escape text)).take n).filter (!isSkipped ·) = [] :=
    filter_of_skipped fun _ h => isSkipped_of_mem_candidates_escape (List.mem_of_mem_take h)
  rw [bound, candidates_around hopen hreference, List.take_append, List.filter_append, hskipped,
    List.nil_append]
  by_cases hlimit : (candidates (escape before)).length < limit
  · obtain ⟨left, hleft⟩ : ∃ left, limit - (candidates (escape before)).length = left + 1 :=
      ⟨limit - (candidates (escape before)).length - 1, by omega⟩
    rw [if_pos hlimit, hleft, List.take_succ_cons,
      List.filter_cons_of_pos (by simp [hreference.isSkipped_eq_false]), hskipped]
  · have hnone : limit - (candidates (escape before)).length = 0 := by omega
    rw [if_neg hlimit, hnone]
    rfl

end Template

namespace Session

open Text Template Piece
open Binding hiding token

/-- A template in which nothing is bound reads as it is written. -/
theorem format_of_bound_eq_nil {e : Engine} {limit : Nat} (hparse : e.parse = parse limit)
    {template : String} {s : Session} (hs : Uninserted e template s) (r : Request)
    (hbound : bound limit template = []) : (s.format e template r).1 = unescape template := by
  have hparsed : parsed e template = [] := by
    rw [parsed_eq hparse, hbound, List.map_nil]
  rw [format_text, hs.bindings_eq, hparsed]
  rfl

/-- A template in which only a plain reference is bound has the value of its state in the place
where the token first occurs. -/
theorem format_of_bound_reference {e : Engine} {limit : Nat} (hparse : e.parse = parse limit)
    {template : String} {s : Session} (hs : Uninserted e template s) (r : Request)
    {inner : List Char} (hbound : bound limit template = [inner]) (hinner : IsReference inner) :
    (s.format e template r).1 = String.ofList (unescapeChars (replaceFirst (token inner)
      (e.lookup s.states r (Reference.ofChars inner).state).displayChars template.toList)) := by
  have hparsed : parsed e template = [(ofInner template inner).1] := by
    rw [parsed_eq hparse, hbound, List.map_singleton]
  rw [format_text, hs.bindings_eq, hparsed, hinner.ofInner_eq, List.map_singleton,
    String.toList_ofList]
  rfl

/-- Under the default parser no text has bindings when it is written with doubled braces, and it
reads as itself. -/
theorem format_escape {e : Engine} {limit : Nat} (hparse : e.parse = parse limit) (text : String)
    {s : Session} (hs : Uninserted e (escape text) s) (r : Request) :
    (e.parse (escape text)).1 = none ∧ (s.format e (escape text) r).1 = text := by
  have hbound := bound_escape limit text
  constructor
  · rw [hparse]
    exact (parse_eq_none_iff limit (escape text)).mpr hbound
  · rw [format_of_bound_eq_nil hparse hs r hbound, unescape_escape]

/-- Doubled braces in a row, a quote, a semicolon and a line break inside. -/
theorem format_escape_nested :
    (Engine.plain 50).parse = parse 50 ∧
    Uninserted (Engine.plain 50) (escape "\x7b\x7ba\x7d;\"\n\x7d\x7d\x7b") {} ∧
    (Session.format (Engine.plain 50) (escape "\x7b\x7ba\x7d;\"\n\x7d\x7d\x7b") {} {}).1 =
      "\x7b\x7ba\x7d;\"\n\x7d\x7d\x7b" :=
  ⟨rfl, .start rfl, (format_escape rfl "\x7b\x7ba\x7d;\"\n\x7d\x7d\x7b" (.start rfl) {}).2⟩

/-- With nothing bound, the token stays. -/
theorem format_around_unbound {e : Engine} {limit : Nat} (hparse : e.parse = parse limit)
    {before reference after : String} (hreference : IsReference reference.toList) {s : Session}
    (hs : Uninserted e (around before reference after) s) (r : Request)
    (hbound : bound limit (around before reference after) = []) :
    (s.format e (around before reference after) r).1 =
      String.ofList (before.toList ++ (token reference.toList ++ after.toList)) := by
  rw [format_of_bound_eq_nil hparse hs r hbound, unescape, toList_around,
    unescapeChars_escapeChars_append,
    unescapeChars_token_escapeChars hreference.open_not_mem hreference.close_not_mem]

/-- If the text of the bound token does not occur in the text in front, the value takes the token's
place. -/
theorem format_around_filled {e : Engine} {limit : Nat} (hparse : e.parse = parse limit)
    {before reference after : String} (hreference : IsReference reference.toList) {s : Session}
    (hs : Uninserted e (around before reference after) s) (r : Request) {text : List Char}
    (htext : (e.lookup s.states r (Reference.ofString reference).state).displayChars = text)
    (ho : '{' ∉ text) (hc : '}' ∉ text)
    (hbound : bound limit (around before reference after) = [reference.toList])
    (hoccurs : occurs (token reference.toList) before.toList = false) :
    (s.format e (around before reference after) r).1 =
      String.ofList (before.toList ++ (text ++ after.toList)) := by
  rw [Reference.ofString] at htext
  rw [format_of_bound_reference hparse hs r hbound hreference, htext, toList_around,
    replaceFirst_escapeChars hreference.1 hreference.open_not_mem hreference.close_not_mem hoccurs,
    unescapeChars_escapeChars_append, unescapeChars_append_of_not_mem ho hc,
    unescapeChars_escapeChars]

/-- If the text of the bound token occurs in the text in front, the value takes its place there, in
single braces, and the token stays. -/
theorem format_around_misplaced {e : Engine} {limit : Nat} (hparse : e.parse = parse limit)
    {before reference after : String} (hreference : IsReference reference.toList) {s : Session}
    (hs : Uninserted e (around before reference after) s) (r : Request) {text : List Char}
    (htext : (e.lookup s.states r (Reference.ofString reference).state).displayChars = text)
    (ho : '{' ∉ text) (hc : '}' ∉ text)
    (hbound : bound limit (around before reference after) = [reference.toList])
    {first second : List Char} (hbefore : before.toList = first ++ token reference.toList ++ second)
    (hfirst : occurs (token reference.toList) first = false) :
    (s.format e (around before reference after) r).1 = String.ofList (first ++
      (token text ++ (second ++ (token reference.toList ++ after.toList)))) := by
  rw [Reference.ofString] at htext
  rw [format_of_bound_reference hparse hs r hbound hreference, htext, toList_around, hbefore,
    replaceFirst_escapeChars_token hreference.1 hreference.open_not_mem hreference.close_not_mem
      hfirst,
    unescapeChars_escapeChars_append, unescapeChars_token_append ho hc second (by simp [token]),
    unescapeChars_token_escapeChars hreference.open_not_mem hreference.close_not_mem]

/-- Under the default parser, the value of a plain reference takes its place between literal texts,
and these read as themselves, exactly if the text in front leaves no brace open, does not hold the
token's text, and has fewer candidates than the limit. -/
theorem format_around_iff {e : Engine} {limit : Nat} (hparse : e.parse = parse limit)
    {before reference after : String} (hreference : IsReference reference.toList) {s : Session}
    (hs : Uninserted e (around before reference after) s) (r : Request)
    (ho : '{' ∉ (e.lookup s.states r (Reference.ofString reference).state).displayChars)
    (hc : '}' ∉ (e.lookup s.states r (Reference.ofString reference).state).displayChars) :
    (s.format e (around before reference after) r).1 =
        before ++ (e.lookup s.states r (Reference.ofString reference).state).display ++ after ↔
      leavesOpen before.toList = false ∧
        occurs (token reference.toList) before.toList = false ∧
          (candidates (escape before)).length < limit := by
  obtain ⟨text, htext⟩ :
      ∃ text, (e.lookup s.states r (Reference.ofString reference).state).displayChars = text :=
    ⟨_, rfl⟩
  rw [htext] at ho hc
  have hexpected :
      before ++ (e.lookup s.states r (Reference.ofString reference).state).display ++ after =
        String.ofList (before.toList ++ (text ++ after.toList)) := by
    rw [Value.display, htext]
    simp [String.append_assoc]
  rw [hexpected]
  constructor
  · intro hformat
    have htoken : token reference.toList ≠ text := by
      rintro rfl
      exact ho (List.mem_cons_self ..)
    by_cases hbound : bound limit (around before reference after) = []
    · -- the token would have to be its own value
      rw [format_around_unbound hparse hreference hs r hbound] at hformat
      have hsame := List.append_cancel_left (String.ofList_inj.mp hformat)
      exact absurd (List.append_cancel_right hsame) htoken
    · have hopen : leavesOpen before.toList = false :=
        Bool.eq_false_iff.mpr fun hopen => hbound (bound_around_open hopen hreference limit after)
      have hclosed := bound_around_closed hopen hreference limit after
      by_cases hlimit : (candidates (escape before)).length < limit
      · rw [if_pos hlimit] at hclosed
        refine ⟨hopen, Bool.eq_false_iff.mpr fun hoccurs => ?_, hlimit⟩
        obtain ⟨first, second, hbefore, hfirst⟩ := exists_first_of_occurs (by simp [token]) hoccurs
        rw [format_around_misplaced hparse hreference hs r htext ho hc hclosed hbefore hfirst]
          at hformat
        -- single braces around the value are two characters too many
        have hlength := congrArg List.length (String.ofList_inj.mp hformat)
        rw [hbefore] at hlength
        simp [token] at hlength
        omega
      · rw [if_neg hlimit] at hclosed
        exact absurd hclosed hbound
  · rintro ⟨hopen, hoccurs, hlimit⟩
    have hbound := bound_around_closed hopen hreference limit after
    rw [if_pos hlimit] at hbound
    exact format_around_filled hparse hreference hs r htext ho hc hbound hoccurs

/-- A literal text on either side with the name of another state in it. -/
theorem format_around_other :
    IsReference "a".toList ∧
    Uninserted (Engine.plain 50) (around "{b} = " "a" "{}") { states := [("a", .string "5")] } ∧
    '{' ∉ "5".toList ∧ '}' ∉ "5".toList ∧
    (Session.format (Engine.plain 50) (around "{b} = " "a" "{}") {}
      { states := [("a", .string "5")] }).1 = "{b} = 5{}" := by
  have hreference : IsReference "a".toList := isReference_singleton (by decide)
  have hs : Uninserted (Engine.plain 50) (around "{b} = " "a" "{}")
      { states := [("a", .string "5")] } := .start rfl
  have ho : '{' ∉ "5".toList := by decide
  have hc : '}' ∉ "5".toList := by decide
  refine ⟨hreference, hs, ho, hc, ?_⟩
  have hiff := format_around_iff rfl hreference hs {} ho hc
  exact hiff.mpr (by decide +kernel)

/-- A text in front that holds the token's text gets the value, and one that leaves a brace open
keeps it from being filled in at all. -/
theorem format_around_taken :
    (Session.format (Engine.plain 50) (around "{a} = " "a" "") {}
      { states := [("a", .string "5")] }).1 = "{5} = {a}" ∧
    "{5} = {a}" ≠ "{a} = " ++ "5" ++ "" ∧
    (Session.format (Engine.plain 50) (around "\x7bb " "a" "") {}
      { states := [("a", .string "5")] }).1 = "\x7bb {a}" ∧
    "\x7bb {a}" ≠ "\x7bb " ++ "5" ++ "" := by
  decide +kernel

end Session

end LiveText
