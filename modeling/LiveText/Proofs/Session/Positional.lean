import LiveText.Proofs.Session.Cache
import LiveText.Proofs.Template.Substitution

/-!
# Texts in the places of their tokens

Filling in a template looks for each token in what the template has become by then. As long as no
skipped candidate is in front of a bound one and no value brings an opening brace in, what it finds
is the place where the token stands in the template: `format_positional`.
-/

namespace LiveText

namespace Piece

/-- Plain characters hold no candidates. -/
private theorem filterMap_inner?_plain (cs : List Char) : (cs.map plain).filterMap inner? = [] := by
  rw [List.filterMap_map, List.filterMap_eq_nil_iff]
  intro c _
  rfl

end Piece

namespace Session

open Piece Text Template
open Binding hiding token

/-- What a template has become once the texts of its first `k` bindings are in. -/
def textAfter (e : Engine) (template : String) (r : Request) (s : Session) (k : Nat) : List Char :=
  ((((parsed e template).take k).foldlM (e.substitute s.states r) template.toList).run
    { draws := s.draws }).1

private theorem tokens_parsed {e : Engine} {limit : Nat} (hparse : e.parse = parse limit)
    (template : String) :
    (parsed e template).map (fun b => b.token.toList) = (bound limit template).map token := by
  rw [parsed, hparse, tokens_parse]

private theorem length_parsed {e : Engine} {limit : Nat} (hparse : e.parse = parse limit)
    (template : String) : (parsed e template).length = (bound limit template).length := by
  rw [parsed_eq hparse, List.length_map]

/-- Once the candidates in front of a bound one are filled in, its token first occurs in its own
place. -/
theorem textAfter_eq {e : Engine} {limit : Nat} (hparse : e.parse = parse limit)
    {template : String} {s : Session} {r : Request}
    (htexts : ∀ text ∈ e.texts s.states r (parsed e template) s.draws, '{' ∉ text)
    {before after : List Piece} {inner : List Char} {more : List (List Char)}
    (hpieces : scan template.toList = before ++ .braced inner :: after)
    (hbound : bound limit template = before.filterMap inner? ++ inner :: more) :
    textAfter e template r s (before.filterMap inner?).length =
      fillIn before (e.texts s.states r (parsed e template) s.draws) ++
        (token inner ++ after.flatMap chars) ∧
    find? (token inner) (textAfter e template r s (before.filterMap inner?).length) =
      some (fillIn before (e.texts s.states r (parsed e template) s.draws)).length := by
  obtain ⟨hscanned, hchars⟩ := scan_eq_iff.mp hpieces
  have hk : (before.filterMap inner?).length ≤ (parsed e template).length := by
    rw [length_parsed hparse, hbound, List.length_append]
    omega
  have htokens : ((parsed e template).take (before.filterMap inner?).length).map
      (fun b => b.token.toList) = (before.filterMap inner?).map token := by
    rw [List.map_take, tokens_parsed hparse, hbound, ← List.map_take, List.take_left]
  -- the texts of the bindings in front are the first ones
  have hlength : ((e.texts s.states r (parsed e template) s.draws).take
      (before.filterMap inner?).length).length = (before.filterMap inner?).length := by
    rw [List.length_take, Engine.length_texts]
    exact Nat.min_eq_left hk
  have hfill : fillIn before ((e.texts s.states r (parsed e template) s.draws).take
      (before.filterMap inner?).length) =
        fillIn before (e.texts s.states r (parsed e template) s.draws) := by
    have happend := fillIn_append hlength []
      ((e.texts s.states r (parsed e template) s.draws).drop (before.filterMap inner?).length)
    rw [List.append_nil, List.take_append_drop] at happend
    rw [happend, fillIn, List.append_nil]
  obtain ⟨hreplaced, hdormant⟩ := replaceEach_pieces hscanned (Dormant.nil _) hlength
    fun text ht => htexts text (List.mem_of_mem_take ht)
  have htext : textAfter e template r s (before.filterMap inner?).length =
      fillIn before (e.texts s.states r (parsed e template) s.draws) ++
        (token inner ++ after.flatMap chars) := by
    rw [textAfter, Engine.foldlM_substitute_run, htokens, Engine.texts_take, ← hfill]
    rw [hchars] at hreplaced
    exact hreplaced
  rw [hfill] at hdormant
  refine ⟨htext, ?_⟩
  cases hscanned.right with
  | braced hne hline _ _ =>
    have hnone : NoneBegins (token inner)
        (fillIn before (e.texts s.states r (parsed e template) s.draws))
        (token inner ++ after.flatMap chars) := Dormant.noneBegins hdormant hne hline
    rw [htext, find?_append hnone, find?_self_append, Option.map_some, Nat.zero_add]

/-- Under the default parser, if no skipped candidate is in front of a bound one and no value brings
an opening brace in, the bindings of a template are those of its bound candidates, and the text is
the template with the text of each in the candidate's own place and all else kept, with literal
braces written once. Whenever the text of a binding is put in, its token first occurs there. -/
theorem format_positional {e : Engine} {limit : Nat} (hparse : e.parse = parse limit)
    {template : String} {s : Session} (hs : Uninserted e template s) (r : Request)
    (hskipped : ((candidates template).take limit).Pairwise fun a b =>
      isSkipped a = true → isSkipped b = true)
    (htexts : ∀ text ∈ e.texts s.states r (parsed e template) s.draws, '{' ∉ text) :
    (parsed e template = ((boundOnly limit (scan template.toList)).filterMap inner?).map
      fun inner => (ofInner template inner).1) ∧
    (s.format e template r).1 = String.ofList (unescapeChars
      (fillIn (boundOnly limit (scan template.toList))
        (e.texts s.states r (parsed e template) s.draws))) ∧
    ∀ before inner after, scan template.toList = before ++ .braced inner :: after →
      (before.filterMap inner?).length < limit → isSkipped inner = false →
      textAfter e template r s (before.filterMap inner?).length =
        fillIn before (e.texts s.states r (parsed e template) s.draws) ++
          (token inner ++ after.flatMap chars) ∧
      find? (token inner) (textAfter e template r s (before.filterMap inner?).length) =
        some (fillIn before (e.texts s.states r (parsed e template) s.draws)).length := by
  obtain ⟨front, rest, hpieces, hfront, honly⟩ := exists_boundOnly_eq hskipped
  have hbound : front.filterMap inner? = bound limit template := hfront
  have honlyBound : (boundOnly limit (scan template.toList)).filterMap inner? =
      bound limit template := by
    rw [honly, List.filterMap_append, filterMap_inner?_plain, List.append_nil, hbound]
  have hlength : (e.texts s.states r (parsed e template) s.draws).length =
      (front.filterMap inner?).length := by
    rw [Engine.length_texts, length_parsed hparse, hbound]
  refine ⟨?_, ?_, ?_⟩
  · rw [honlyBound, parsed_eq hparse]
  · obtain ⟨hscanned, hchars⟩ := scan_eq_iff.mp hpieces
    have hreplaced :=
      (replaceEach_pieces hscanned (Dormant.nil _) hlength htexts).1
    have hfilled : fillIn (boundOnly limit (scan template.toList))
        (e.texts s.states r (parsed e template) s.draws) =
          fillIn front (e.texts s.states r (parsed e template) s.draws) ++ rest.flatMap chars := by
      have happend := fillIn_append hlength ((rest.flatMap chars).map plain) []
      rw [List.append_nil, fillIn_plain] at happend
      rw [honly, happend]
    rw [hchars, hbound, ← tokens_parsed hparse] at hreplaced
    rw [format_text, hs.bindings_eq, hfilled]
    exact congrArg (fun cs => String.ofList (unescapeChars cs)) hreplaced
  · intro before inner after hplace hlimit hinner
    have hcandidates : candidates template =
        before.filterMap inner? ++ inner :: after.filterMap inner? := by
      rw [candidates, hplace, List.filterMap_append]
      rfl
    obtain ⟨more, hmore⟩ := bound_eq_append hcandidates hlimit hinner hskipped
    exact textAfter_eq hparse htexts hplace hmore

/-- A token repeated, one inside another, and one beyond the limit. -/
theorem format_positional_repeated :
    (((candidates "{b{a}} {a}: {c} {a} {a}").take 4).Pairwise fun a b =>
      isSkipped a = true → isSkipped b = true) ∧
    (∀ text ∈ (Engine.plain 4).texts [("a.val", .string " 1\n")] {}
      (parsed (Engine.plain 4) "{b{a}} {a}: {c} {a} {a}") 0, '{' ∉ text) ∧
    (Session.format (Engine.plain 4) "{b{a}} {a}: {c} {a} {a}" {}
      { states := [("a.val", .string " 1\n")] }).1 = "undefined\x7d  1\n: undefined  1\n {a}" := by
  have hskipped : ((candidates "{b{a}} {a}: {c} {a} {a}").take 4).Pairwise fun a b =>
      isSkipped a = true → isSkipped b = true := by decide +kernel
  have htexts : ∀ text ∈ (Engine.plain 4).texts [("a.val", .string " 1\n")] {}
      (parsed (Engine.plain 4) "{b{a}} {a}: {c} {a} {a}") 0, '{' ∉ text := by decide +kernel
  have hs : Uninserted (Engine.plain 4) "{b{a}} {a}: {c} {a} {a}"
      { states := [("a.val", .string " 1\n")] } := .start rfl
  refine ⟨hskipped, htexts, ?_⟩
  rw [(format_positional rfl hs {} hskipped htexts).2.1]
  decide +kernel

end Session

end LiveText
