import Mathlib
import LiveText.Proofs.Formula.Yields
import LiveText.Proofs.Number.Whole
import LiveText.Proofs.Text.Places

/-!
# Positions in texts

The methods that find, cut and replace agree on where things stand in a text: `positions_agree`.
Positions count characters, which all of them do, and are exact as long as they have at most 31
bits.
-/

namespace LiveText

/-- A count is not the number that stands for no position. -/
private theorem Double.ofNat_ne_neg_one {n : Nat} (h : n < 2 ^ 31) : ofNat n ≠ -1 := by
  intro heq
  have hindex : (-1 : Double).toInt32 = -1 := by decide +kernel
  rw [← heq, toInt32_ofNat h] at hindex
  omega

namespace Value

private theorem displayChars_string (s : String) : (string s).displayChars = s.toList := rfl

private theorem display_string (s : String) : (string s).display = s := by
  rw [display, displayChars_string, String.ofList_toList]

/-- Texts are joined where they are added. -/
theorem plus_string (s t : String) : (string s).plus (.string t) = .string (s ++ t) := by
  have htextual : ((string s).isTextual || (string t).isTextual) = true := rfl
  rw [plus, if_pos htextual, display_string, display_string]

end Value

namespace Method

variable {cs : List Char} {i : Nat}

/-- A place in front of the end of a text is itself. -/
theorem place_ofNat {length : Nat} (h : i ≤ length) (hlength : length < 2 ^ 31) :
    place length (Double.ofNat i) = i := by
  have hindex := Double.toInt32_ofNat (n := i) (by omega)
  rw [place, hindex, if_neg (by omega), Int.toNat_natCast, Nat.min_eq_left h]

private theorem slice_one (x : Double) (cs : List Char) :
    slice [.number x] cs = between (place cs.length x) cs.length cs := by
  simp only [slice, sliceEnds, number?, List.getElem?_cons_zero, List.getElem?_cons_succ,
    List.getElem?_nil, Option.map_some, Option.map_none, Option.getD_some, Option.getD_none,
    Value.toStrictNumber]

private theorem slice_two (x y : Double) (cs : List Char) :
    slice [.number x, .number y] cs = between (place cs.length x) (place cs.length y) cs := by
  simp only [slice, sliceEnds, number?, List.getElem?_cons_zero, List.getElem?_cons_succ,
    Option.map_some, Option.getD_some, Value.toStrictNumber]

/-- A slice between two places in a text. -/
theorem slice_between {stop : Nat} (hi : i ≤ cs.length) (hstop : stop ≤ cs.length)
    (hlength : cs.length < 2 ^ 31) :
    slice [.number (Double.ofNat i), .number (Double.ofNat stop)] cs =
      (cs.drop i).take (stop - i) := by
  rw [slice_two, place_ofNat hi hlength, place_ofNat hstop hlength, between]

/-- A slice from a place in a text to its end. -/
theorem slice_from (hi : i ≤ cs.length) (hlength : cs.length < 2 ^ 31) :
    slice [.number (Double.ofNat i)] cs = cs.drop i := by
  have hrest : (cs.drop i).length ≤ cs.length - i := by rw [List.length_drop]
  rw [slice_one, place_ofNat hi hlength, between, List.take_of_length_le hrest]

theorem position_some (i : Nat) : position (some i) = .number (Double.ofNat i) := by
  rw [position, Option.map_some, Option.getD_some]

/-- The items of split texts are the pieces. -/
private theorem map_itemChars_text (pieces : List (List Char)) :
    (pieces.map text).map itemChars = pieces := by
  have hitem : itemChars ∘ text = id := by
    funext piece
    exact String.toList_ofList
  rw [List.map_map, hitem, List.map_id]

end Method

namespace Formula

variable {scope : Members Value} {text needle new separator : Expr} {s n r p : String}

/-! ### Methods of texts -/

theorem calls_includes (s n : String) :
    Calls (.string s) "includes" [.string n] (.bool (Text.occurs n.toList s.toList)) :=
  ⟨_, fun _ => (Budgeted.gives_spend _).bind (Budgeted.gives_pure _)⟩

private theorem calls_indexOf (s n : String) :
    Calls (.string s) "indexOf" [.string n] (Method.position (Text.find? n.toList s.toList)) :=
  ⟨_, fun _ => (Budgeted.gives_spend _).bind (Budgeted.gives_pure _)⟩

theorem calls_slice (s : String) (args : List Value) :
    Calls (.string s) "slice" args (Method.text (Method.slice args s.toList)) :=
  ⟨_, fun _ => (Budgeted.gives_spend _).bind (Budgeted.gives_pure _)⟩

private theorem calls_replace (s n r : String) :
    Calls (.string s) "replace" [.string n, .string r]
      (Method.text (Text.replaceFirst n.toList r.toList s.toList)) :=
  ⟨_, fun _ => (Budgeted.gives_spend _).bind (Budgeted.gives_pure _)⟩

private theorem calls_split (s p : String) :
    Calls (.string s) "split" [.string p]
      (.array ((Method.split p.toList s.toList).map Method.text)) :=
  ⟨_, fun _ => (Budgeted.gives_spend _).bind (Budgeted.gives_pure _)⟩

private theorem calls_join (items : List Value) (p : String) :
    Calls (.array items) "join" [.string p]
      (Method.text (Method.joined p.toList (items.map Method.itemChars))) :=
  ⟨_, fun _ => (Budgeted.gives_spend _).bind (Budgeted.gives_pure _)⟩

/-! ### Agreement -/

/-- A call of a method. -/
def method (target : Expr) (name : String) (args : List Expr) : Expr :=
  .call (.member target name) args

/-- A position as an expression. -/
def placeAt (i : Nat) : Expr := .literal (.number (Double.ofNat i))

/-- The position behind a text that stands at another one. -/
def placeBehind (needle : Expr) (i : Nat) : Expr :=
  .binary .add (placeAt i) (.member needle "length")

/-- The slice that is as long as a text. -/
def sliceLike (text needle : Expr) (i : Nat) : Expr :=
  method text "slice" [placeAt i, placeBehind needle i]

theorem yields_placeBehind (hn : Yields scope needle (.string n)) {i : Nat}
    (h : i + n.toList.length < 2 ^ 53) :
    Yields scope (placeBehind needle i) (.number (Double.ofNat (i + n.toList.length))) := by
  have hlength : Yields scope (.member needle "length") (.number (Double.ofNat n.toList.length)) :=
    hn.member rfl
  rw [← Double.ofNat_add_ofNat h]
  exact Yields.binary .add (yields_literal scope _) hlength

/-- As long as it lies in the text, the slice is cut out at its position. -/
theorem yields_sliceLike (hs : Yields scope text (.string s)) (hn : Yields scope needle (.string n))
    (hlength : s.toList.length < 2 ^ 31) {i : Nat} (hi : i + n.toList.length ≤ s.toList.length) :
    Yields scope (sliceLike text needle i)
      (.string (String.ofList ((s.toList.drop i).take n.toList.length))) := by
  have hcall := calls_slice s
    [.number (Double.ofNat i), .number (Double.ofNat (i + n.toList.length))]
  rw [Method.slice_between (by omega) hi hlength, Nat.add_sub_cancel_left] at hcall
  exact hs.call ((yieldsAll_nil scope).cons (yields_placeBehind hn (by omega))
    |>.cons (yields_literal scope _)) hcall

theorem yields_includes (hs : Yields scope text (.string s))
    (hn : Yields scope needle (.string n)) :
    Yields scope (method text "includes" [needle]) (.bool (Text.occurs n.toList s.toList)) :=
  hs.call ((yieldsAll_nil scope).cons hn) (calls_includes s n)

theorem yields_indexOf (hs : Yields scope text (.string s)) (hn : Yields scope needle (.string n)) :
    Yields scope (method text "indexOf" [needle])
      (Method.position (Text.find? n.toList s.toList)) :=
  hs.call ((yieldsAll_nil scope).cons hn) (calls_indexOf s n)

/-- There is no position exactly if a text is not included. -/
theorem indexOf_neg_one_iff (hs : Yields scope text (.string s))
    (hn : Yields scope needle (.string n)) (hlength : s.toList.length < 2 ^ 31) :
    Yields scope (method text "indexOf" [needle]) (.number (-1)) ↔
      Yields scope (method text "includes" [needle]) (.bool false) := by
  have hindex := yields_indexOf hs hn
  have hincludes := yields_includes hs hn
  cases hfind : Text.find? n.toList s.toList with
  | none =>
    rw [hfind] at hindex
    rw [Text.occurs, hfind] at hincludes
    exact iff_of_true hindex hincludes
  | some i =>
    rw [hfind, Method.position_some] at hindex
    rw [Text.occurs, hfind] at hincludes
    have hi := Text.length_of_find? hfind
    refine iff_of_false (fun hnone => ?_) fun hnone => ?_
    · exact Double.ofNat_ne_neg_one (by omega) (Value.number.inj (hindex.unique hnone))
    · exact Bool.noConfusion (Value.bool.inj (hincludes.unique hnone))

/-- A text is found at the least position at which a slice as long as it is that text. -/
private theorem isLeast_sliceLike (hs : Yields scope text (.string s))
    (hn : Yields scope needle (.string n))
    (hlength : s.toList.length < 2 ^ 31) {i : Nat} (h : Text.find? n.toList s.toList = some i) :
    IsLeast {j | Yields scope (sliceLike text needle j) (.string n)} i := by
  obtain ⟨hfound, hnone⟩ := Text.find?_eq_some_iff.mp h
  have hi := Text.length_of_find? h
  constructor
  · have hslice := yields_sliceLike hs hn hlength hi
    rw [← List.prefix_iff_eq_take.mp hfound, String.ofList_toList] at hslice
    exact hslice
  · intro j hj
    by_contra hlt
    have hslice := yields_sliceLike hs hn hlength (i := j) (by omega)
    have heq := congrArg String.toList (Value.string.inj (hslice.unique hj))
    rw [String.toList_ofList] at heq
    exact hnone j (Nat.lt_of_not_le hlt) (List.prefix_iff_eq_take.mpr heq.symm)

private theorem yields_add (hs : Yields scope text (.string s))
    (hn : Yields scope needle (.string n)) :
    Yields scope (.binary .add text needle) (.string (s ++ n)) := by
  rw [← Value.plus_string]
  exact Yields.binary .add hs hn

/-- The text in front of what is found, the new one and the text behind it. -/
def spliced (text needle new : Expr) (i : Nat) : Expr :=
  .binary .add (.binary .add (method text "slice" [placeAt 0, placeAt i]) new)
    (method text "slice" [placeBehind needle i])

/-- Replacing exchanges what stands at the position. -/
private theorem replace_spliced (hs : Yields scope text (.string s))
    (hn : Yields scope needle (.string n)) (hr : Yields scope new (.string r))
    (hlength : s.toList.length < 2 ^ 31) {i : Nat} (h : Text.find? n.toList s.toList = some i) :
    ∃ t : String, Yields scope (method text "replace" [needle, new]) (.string t) ∧
      Yields scope (spliced text needle new i) (.string t) := by
  have hi := Text.length_of_find? h
  have hreplace := hs.call (((yieldsAll_nil scope).cons hr).cons hn) (calls_replace s n r)
  rw [Text.replaceFirst_of_find? r.toList h] at hreplace
  refine ⟨_, hreplace, ?_⟩
  have hfront := calls_slice s [.number (Double.ofNat 0), .number (Double.ofNat i)]
  rw [Method.slice_between (Nat.zero_le _) (by omega) hlength, List.drop_zero, Nat.sub_zero]
    at hfront
  have hbehind := calls_slice s [.number (Double.ofNat (i + n.toList.length))]
  rw [Method.slice_from hi hlength] at hbehind
  have hsum := yields_add (yields_add
    (hs.call (((yieldsAll_nil scope).cons (yields_literal scope _)).cons (yields_literal scope _))
      hfront) hr)
    (hs.call ((yieldsAll_nil scope).cons (yields_placeBehind hn (by omega))) hbehind)
  rw [String.ofList_append, String.ofList_append, String.ofList_toList]
  exact hsum

/-- Splitting and joining by one text are inverse. -/
private theorem join_split (hs : Yields scope text (.string s))
    (hp : Yields scope separator (.string p)) :
    Yields scope (method (method text "split" [separator]) "join" [separator]) (.string s) := by
  have hsplit := hs.call ((yieldsAll_nil scope).cons hp) (calls_split s p)
  have hjoin := hsplit.call ((yieldsAll_nil scope).cons hp) (calls_join _ p)
  rw [Method.map_itemChars_text, Method.joined_split, Method.text, String.ofList_toList] at hjoin
  exact hjoin

/-- The methods of texts agree on positions: a position is missing exactly if a text is not
included; else it is the least one at which a slice as long as that text is that text, and replacing
exchanges this slice. Splitting and joining by any text are inverse. -/
theorem positions_agree (hs : Yields scope text (.string s)) (hn : Yields scope needle (.string n))
    (hr : Yields scope new (.string r)) (hp : Yields scope separator (.string p))
    (hlength : s.toList.length < 2 ^ 31) :
    (∃ included, Yields scope (method text "includes" [needle]) (.bool included)) ∧
    (Yields scope (method text "indexOf" [needle]) (.number (-1)) ↔
      Yields scope (method text "includes" [needle]) (.bool false)) ∧
    (Yields scope (method text "includes" [needle]) (.bool true) → ∃ i : Nat,
      Yields scope (method text "indexOf" [needle]) (.number (Double.ofNat i)) ∧
      IsLeast {j | Yields scope (sliceLike text needle j) (.string n)} i ∧
      ∃ t : String, Yields scope (method text "replace" [needle, new]) (.string t) ∧
        Yields scope (spliced text needle new i) (.string t)) ∧
    Yields scope (method (method text "split" [separator]) "join" [separator]) (.string s) := by
  have hincludes := yields_includes hs hn
  refine ⟨⟨_, hincludes⟩, indexOf_neg_one_iff hs hn hlength, fun htrue => ?_, join_split hs hp⟩
  have hfound := Value.bool.inj (hincludes.unique htrue)
  obtain ⟨i, hi⟩ := Option.isSome_iff_exists.mp hfound
  have hindex := yields_indexOf hs hn
  rw [hi, Method.position_some] at hindex
  exact ⟨i, hindex, isLeast_sliceLike hs hn hlength hi, replace_spliced hs hn hr hlength hi⟩

/-- Occurrences that overlap, behind a character of more than one byte, in a text with a name. -/
theorem positions_agree_overlapping :
    let scope : Members Value := [("s", .string "ébanana")]
    let needle : Expr := .literal (.string "ana")
    let empty : Expr := .literal (.string "")
    Yields scope (.name "s") (.string "ébanana") ∧ Yields scope needle (.string "ana") ∧
    Yields scope empty (.string "") ∧ "ébanana".toList.length < 2 ^ 31 ∧
    Yields scope (method (.name "s") "includes" [needle]) (.bool true) ∧
    (∃ i : Nat, IsLeast {j | Yields scope (sliceLike (.name "s") needle j) (.string "ana")} i) ∧
    Yields scope (method (method (.name "s") "split" [empty]) "join" [empty])
      (.string "ébanana") := by
  intro scope needle empty
  have htext : Yields scope (.name "s") (.string "ébanana") := yields_name rfl
  have hneedle : Yields scope needle (.string "ana") := yields_literal scope _
  have hempty : Yields scope empty (.string "") := yields_literal scope _
  have hincludes := yields_includes htext hneedle
  have hoccurs : Text.occurs "ana".toList "ébanana".toList = true := by decide
  rw [hoccurs] at hincludes
  obtain ⟨-, -, hfound, hjoin⟩ := positions_agree htext hneedle hempty hempty (by decide)
  obtain ⟨i, -, hleast, -⟩ := hfound hincludes
  exact ⟨htext, hneedle, hempty, by decide, hincludes, ⟨i, hleast⟩, hjoin⟩

end Formula

end LiveText
