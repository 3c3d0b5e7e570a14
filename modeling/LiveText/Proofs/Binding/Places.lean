import LiveText.Proofs.Binding.Tokens
import LiveText.Proofs.Template.Spans

/-!
# Tokens in their places

The tokens of a template's bindings are what stands at the places of its first candidates, in order,
without the literal ones. A larger limit adds bindings at the end only: `tokens_in_place`.
-/

namespace LiveText

/-- Whether a candidate is left as text: a brace or a quote stands behind its opening brace. -/
def Span.isLiteral (cs : List Char) (s : Span) : Bool :=
  (s.cut cs)[1]? = some '{' || (s.cut cs)[1]? = some '"'

namespace Binding

open Piece

/-- The tokens of a template's bindings. -/
def tokens (limit : Nat) (template : String) : List (List Char) :=
  ((parse limit template).1.getD []).map (·.token.toList)

/-- A candidate at a place is skipped exactly if it is literal. -/
private theorem isLiteral_of_cut {cs inner : List Char} {s : Span}
    (h : s.cut cs = Piece.token inner) :
    s.isLiteral cs = isSkipped inner := by
  rw [Span.isLiteral, h]
  cases inner with
  | nil => rfl
  | cons c rest => rfl

/-- Places and the candidates that stand there keep the same ones. -/
private theorem map_cut_filter {cs : List Char} {places : List Span} {found : List (List Char)}
    (h : places.map (·.cut cs) = found.map Piece.token) :
    (places.filter (!·.isLiteral cs)).map (·.cut cs) =
      (found.filter (!isSkipped ·)).map Piece.token := by
  induction places generalizing found with
  | nil =>
    obtain rfl := List.map_eq_nil_iff.mp h.symm
    rfl
  | cons s places ih =>
    cases found with
    | nil => cases h
    | cons inner found =>
      obtain ⟨hcut, hrest⟩ := List.cons.inj h
      have hliteral := isLiteral_of_cut hcut
      cases hskipped : isSkipped inner with
      | true =>
        rw [List.filter_cons_of_neg (by simp [hliteral, hskipped]),
          List.filter_cons_of_neg (by simp [hskipped]), ih hrest]
      | false =>
        rw [List.filter_cons_of_pos (by simp [hliteral, hskipped]),
          List.filter_cons_of_pos (by simp [hskipped]), List.map_cons, List.map_cons, ih hrest]
        exact congrArg (· :: _) hcut

/-- The tokens are the candidates at the first places that are not literal. -/
theorem tokens_eq_map_cut (limit : Nat) (template : String) :
    tokens limit template =
      (((spans template.toList).take limit).filter (!·.isLiteral template.toList)).map
        (·.cut template.toList) := by
  have hcut : ((spans template.toList).take limit).map (·.cut template.toList) =
      ((candidates template).take limit).map Piece.token := by
    rw [List.map_take, map_cut_spans, ← List.map_take]
    rfl
  rw [map_cut_filter hcut]
  exact tokens_parse limit template

/-- A larger limit adds bindings at the end. -/
theorem parse_extends {limit larger : Nat} (h : limit ≤ larger) (template : String) :
    (parse limit template).1.getD [] <+: (parse larger template).1.getD [] := by
  rw [parse_getD, parse_getD]
  exact ((List.take_prefix_take_left h).filter _).map _

/-- There are no more bindings than the limit. -/
theorem length_parse_le (limit : Nat) (template : String) :
    ((parse limit template).1.getD []).length ≤ limit := by
  rw [parse_getD, List.length_map, bound]
  exact Nat.le_trans (List.length_filter_le _ _) (List.length_take_le _ _)

/-- The tokens of a template's bindings stand one behind the other, each from an opening brace to
the first closing one that is at least two characters behind it on the line. They are those of the
first candidates, up to the limit, that are not literal. A larger limit adds bindings at the end,
and a template without bindings has none at all. -/
theorem tokens_in_place {limit larger : Nat} (h : limit ≤ larger) (template : String) :
    (∃ found places : List Span, IsCandidates template.toList found ∧
      places = (found.take limit).filter (!·.isLiteral template.toList) ∧
      places.Pairwise (·.stop < ·.start) ∧ (∀ s ∈ places, s.IsBraced template.toList) ∧
      tokens limit template = places.map (·.cut template.toList)) ∧
    (tokens limit template).length ≤ limit ∧
    tokens limit template <+: tokens larger template ∧
    ((parse limit template).1 = none ↔ tokens limit template = []) := by
  have hfound := isCandidates_spans template.toList
  have hsublist : (((spans template.toList).take limit).filter
      (!·.isLiteral template.toList)).Sublist (spans template.toList) :=
    List.filter_sublist.trans (List.take_sublist _ _)
  have hplaces := hfound.ordered.sublist hsublist
  have hbraced : ∀ s ∈ ((spans template.toList).take limit).filter
      (!·.isLiteral template.toList), s.IsBraced template.toList :=
    fun s hs => hfound.braced s (hsublist.subset hs)
  refine ⟨⟨_, _, hfound, rfl, hplaces, hbraced, tokens_eq_map_cut limit template⟩, ?_, ?_, ?_⟩
  · rw [tokens, List.length_map]
    exact length_parse_le limit template
  · exact (parse_extends h template).map _
  · rw [parse_eq_none_iff, tokens, parse_getD, List.map_eq_nil_iff, List.map_eq_nil_iff]

/-- A template with a literal candidate, a brace that begins none, and a closing brace as the whole
of a candidate. -/
def placedTemplate : String := "\x7b\x7ba\x7d\x7d \x7bb\x7d \x7bc\nd\x7d \x7be\x7d\x7b\x7d\x7d"

theorem tokens_in_place_placed : 3 ≤ 4 ∧
    (tokens 3 placedTemplate).map String.ofList = ["\x7bb\x7d", "\x7be\x7d"] ∧
    (tokens 4 placedTemplate).map String.ofList = ["\x7bb\x7d", "\x7be\x7d", "\x7b\x7d\x7d"] ∧
    (tokens 3 placedTemplate).length ≤ 3 ∧ tokens 3 placedTemplate <+: tokens 4 placedTemplate ∧
    ∃ places : List Span, places.Pairwise (·.stop < ·.start) ∧
      tokens 3 placedTemplate = places.map (·.cut placedTemplate.toList) := by
  have hlimit : 3 ≤ 4 := by decide
  obtain ⟨⟨_, places, -, -, hordered, -, htokens⟩, hlength, hextends, -⟩ :=
    tokens_in_place hlimit placedTemplate
  exact ⟨hlimit, by decide +kernel, by decide +kernel, hlength, hextends, places, hordered, htokens⟩

end Binding

end LiveText
