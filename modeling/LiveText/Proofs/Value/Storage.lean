import Mathlib
import LiveText.Engine.Pipeline
import LiveText.Proofs.Engine.Filling
import LiveText.Proofs.Json.Writing
import LiveText.Proofs.Number.Fixed
import LiveText.Proofs.Value.Members

/-!
# Values stored as text

A value that is stored as its JSON text and read again is the value without what JSON lacks
(`ofJsonText_jsonText`): missing values and numbers that are not finite are `null`, and a zero has
no sign. Formulas meet such a text in three places, and all of them agree
(`stored_text_reads_back`).
-/

namespace LiveText

open Number

/-! ## Numbers -/

namespace Double

private theorem toInt_of_eq {negative : Bool} {units q : Nat} (h : Representable units)
    (hunits : units = q * unity) :
    (Double.finite negative units h).toInt = if negative then -(q : Int) else q := by
  have hquotient : units / unity = q := by rw [hunits, Nat.mul_div_cancel q unity_pos]
  rw [toInt, hquotient]

/-- An integral number is read off the integer that it is; a zero loses its sign. -/
private theorem ofInt_toInt {x : Double} (h : x.isIntegral = true) :
    ofInt x.toInt = if x.isZero then 0 else x := by
  cases x with
  | nan => cases h
  | infinity negative => cases h
  | finite negative units hrepr =>
    obtain ⟨q, hunits⟩ : ∃ q, units = q * unity :=
      ⟨_, (Nat.div_mul_cancel (Nat.dvd_of_mod_eq_zero (beq_iff_eq.mp h))).symm⟩
    have habs : (if negative then -(q : Int) else q).natAbs = q := by split_ifs <;> omega
    rw [toInt_of_eq hrepr hunits, ofInt, habs, ← hunits, ofUnits_of_representable _ hrepr]
    by_cases hzero : units = 0
    · have hq : q = 0 := (Nat.mul_eq_zero.mp (hunits ▸ hzero)).resolve_right unity_pos.ne'
      have hsign : ¬ (if negative then -(q : Int) else q) < 0 := by split_ifs <;> omega
      have hisZero : (Double.finite negative units hrepr).isZero = true := beq_iff_eq.mpr hzero
      rw [if_pos hisZero, zero_eq, decide_eq_false hsign]
      simp only [hzero]
    · have hq : q ≠ 0 := fun hq => hzero (by rw [hunits, hq, Nat.zero_mul])
      have hsign : decide ((if negative then -(q : Int) else q) < 0) = negative := by
        cases negative with
        | false => simp
        | true => simp [Nat.pos_of_ne_zero hq]
      have hisZero : ¬ (Double.finite negative units hrepr).isZero = true := fun hisZero =>
        hzero (beq_iff_eq.mp hisZero)
      rw [if_neg hisZero, hsign]

/-- A zero is the integer zero. -/
private theorem toInt_of_isZero {x : Double} (h : x.isZero = true) :
    x.isIntegral = true ∧ x.toInt = 0 := by
  cases x with
  | nan => cases h
  | infinity negative => cases h
  | finite negative units hrepr =>
    obtain rfl : units = 0 := beq_iff_eq.mp h
    have hquotient : 0 / unity = 0 := Nat.zero_div unity
    refine ⟨beq_iff_eq.mpr (Nat.zero_mod unity), ?_⟩
    rw [toInt, hquotient]
    split_ifs <;> rfl

private theorem isFinite_of_isIntegral {x : Double} (h : x.isIntegral = true) :
    x.isFinite = true := by
  cases x with
  | finite => rfl
  | nan => cases h
  | infinity negative => cases h

end Double

namespace Value

/-! ## Normal values -/

/-- A number as it is stored: `null` if it is not finite, and a zero without sign. -/
def normalizedNumber (x : Double) : Value :=
  if x.isFinite then number (if x.isZero then 0 else x) else null

mutual

/-- The value without what JSON lacks. -/
def normalized : Value → Value
  | undefined | null => null
  | bool b => bool b
  | number x => normalizedNumber x
  | string s => string s
  | array items => array (itemsNormalized items)
  | object members => object (membersNormalized members)

/-- The items without what JSON lacks. -/
def itemsNormalized : List Value → List Value
  | [] => []
  | item :: rest => normalized item :: itemsNormalized rest

/-- The members without what JSON lacks. -/
def membersNormalized : List (String × Value) → List (String × Value)
  | [] => []
  | (key, value) :: rest => (key, normalized value) :: membersNormalized rest

end

/-- The document of a number is that of the number as it is stored. -/
theorem ofJson_numberJson (x : Double) : ofJson (numberJson x) = normalizedNumber x := by
  rw [numberJson, normalizedNumber]
  by_cases hinteger : (x.isIntegral && decide (x.toInt.natAbs < Nat.pow 2 53)) = true
  · have hintegral := (Bool.and_eq_true_iff.mp hinteger).1
    rw [if_pos hinteger, ofJson, Double.ofInt_toInt hintegral,
      if_pos (Double.isFinite_of_isIntegral hintegral)]
  · have hzero : ¬ x.isZero = true := fun hzero => hinteger (by
      obtain ⟨hintegral, hnone⟩ := Double.toInt_of_isZero hzero
      rw [hintegral, hnone]
      decide)
    rw [if_neg hinteger, if_neg hzero, Json.ofDouble]
    split_ifs <;> rfl

mutual

/-- The document of a value is that of the value without what JSON lacks. -/
theorem ofJson_toJson : (v : Value) → ofJson v.toJson = v.normalized
  | undefined | null | bool _ | string _ => rfl
  | number x => ofJson_numberJson x
  | array items => by rw [toJson, ofJson, ofItems_itemsJson items, normalized]
  | object members => by rw [toJson, ofJson, ofMembers_membersJson members, normalized]

private theorem ofItems_itemsJson :
    (items : List Value) → ofItems (itemsJson items) = itemsNormalized items
  | [] => rfl
  | item :: rest => by
    rw [itemsJson, ofItems, ofJson_toJson item, ofItems_itemsJson rest, itemsNormalized]

private theorem ofMembers_membersJson : (members : List (String × Value)) →
    ofMembers (membersJson members) = membersNormalized members
  | [] => rfl
  | (key, value) :: rest => by
    rw [membersJson, ofMembers, ofJson_toJson value, ofMembers_membersJson rest, membersNormalized]

end

theorem itemsJson_eq_map (items : List Value) : itemsJson items = items.map toJson := by
  induction items with
  | nil => rfl
  | cons item rest ih => rw [itemsJson, ih, List.map_cons]

theorem membersJson_eq_map (members : List (String × Value)) :
    membersJson members = members.map fun m => (m.1, m.2.toJson) := by
  induction members with
  | nil => rfl
  | cons m rest ih => rw [membersJson, ih, List.map_cons]

/-! ## Storable values -/

/-- A value that is nested at most so many levels deep, with members in key order, and whose finite
numbers are read back from their JSON text. -/
def Storable : Nat → Value → Prop
  | _, number x => x.isFinite = true → Json.read (numberJson x).compact = some (numberJson x)
  | depth + 1, array items => ∀ item ∈ items, Storable depth item
  | depth + 1, object members => Members.Ascending members ∧ ∀ m ∈ members, Storable depth m.2
  | 0, array _ | 0, object _ => False
  | _, undefined | _, null | _, bool _ | _, string _ => True

/-- A number is written as the integer it is, or as any number is. -/
theorem numberJson_cases (x : Double) :
    (∃ n : Int, n.natAbs < Nat.pow 2 53 ∧ numberJson x = .integer n) ∨
      numberJson x = Json.ofDouble x := by
  rw [numberJson]
  split_ifs with hinteger
  · simp only [Bool.and_eq_true, decide_eq_true_eq] at hinteger
    exact Or.inl ⟨_, hinteger.2, rfl⟩
  · exact Or.inr rfl

private theorem faithful_integer {n : Int} (h : n.natAbs < Nat.pow 2 53) (depth : Nat) :
    Json.Faithful depth (.integer n) := by
  have hle : n.natAbs ≤ Json.maxSignificand := h.le.trans (by decide)
  cases depth <;> exact hle

/-- An integer below `2^53` is always read back. -/
theorem storable_of_integer {x : Double} (hintegral : x.isIntegral = true)
    (hsize : x.toInt.natAbs < Nat.pow 2 53) (depth : Nat) : Storable depth (number x) := by
  have hjson : numberJson x = .integer x.toInt := by
    rw [numberJson, if_pos (by simp [hintegral, hsize])]
  have hread : Json.read (numberJson x).compact = some (numberJson x) := by
    rw [hjson]
    exact Json.read_compact (faithful_integer hsize _)
  cases depth <;> exact fun _ => hread

private theorem faithful_numberJson {x : Double}
    (h : x.isFinite = true → Json.read (numberJson x).compact = some (numberJson x)) (depth : Nat) :
    Json.Faithful depth (numberJson x) := by
  rcases numberJson_cases x with ⟨n, hn, hjson⟩ | hjson
  · rw [hjson]
    exact faithful_integer hn depth
  · rw [hjson] at h ⊢
    refine Json.faithful_ofDouble (fun hfinite => ?_) depth
    have hread := h hfinite
    rwa [Json.ofDouble, if_pos hfinite] at hread

/-- The document of a storable value is read back. -/
theorem faithful_toJson {depth : Nat} {v : Value} (h : Storable depth v) :
    Json.Faithful depth v.toJson := by
  induction depth generalizing v with
  | zero =>
    cases v with
    | number x => exact faithful_numberJson h 0
    | array items => cases h
    | object members => cases h
    | _ => trivial
  | succ depth ih =>
    cases v with
    | number x => exact faithful_numberJson h _
    | array items =>
      rw [toJson, itemsJson_eq_map]
      exact List.forall_mem_map.mpr fun item hitem => ih (h item hitem)
    | object members =>
      rw [toJson, membersJson_eq_map]
      exact List.forall_mem_map.mpr fun m hm => ih (h.2 m hm)
    | _ => trivial

/-- There is nothing to put in order in the document of a storable value. -/
theorem inOrder_toJson {depth : Nat} {v : Value} (h : Storable depth v) :
    v.toJson.inOrder = v.toJson := by
  have hnumber : ∀ x, (numberJson x).inOrder = numberJson x := fun x => by
    rcases numberJson_cases x with ⟨n, -, hjson⟩ | hjson
    · rw [hjson]
      rfl
    · rw [hjson, Json.ofDouble]
      split_ifs <;> rfl
  induction depth generalizing v with
  | zero =>
    cases v with
    | number x => exact hnumber x
    | array items => cases h
    | object members => cases h
    | _ => rfl
  | succ depth ih =>
    cases v with
    | number x => exact hnumber x
    | array items =>
      have hitems : ∀ item ∈ items, (Json.inOrder ∘ toJson) item = toJson item :=
        fun item hitem => ih (h item hitem)
      rw [toJson, Json.inOrder, Json.itemsInOrder_eq_map, itemsJson_eq_map, List.map_map,
        List.map_congr_left hitems]
    | object members =>
      have hmembers : ∀ m ∈ members, ((fun m : String × Json => (m.1, m.2.inOrder)) ∘
          fun m : String × Value => (m.1, m.2.toJson)) m = (m.1, m.2.toJson) :=
        fun m hm => congrArg (Prod.mk m.1) (ih (h.2 m hm))
      have hascending : Members.Ascending (members.map fun m => (m.1, m.2.toJson)) :=
        List.pairwise_map.mpr h.1
      rw [toJson, Json.inOrder, Json.membersInOrder_eq_map, membersJson_eq_map, List.map_map,
        List.map_congr_left hmembers, Members.ofList_eq_self hascending]
    | _ => rfl

/-- A storable value is read from its JSON text, without what JSON lacks. -/
theorem ofJsonText_jsonText {v : Value} (h : Storable Json.maxNesting v) :
    ofJsonText v.jsonText = some v.normalized := by
  rw [ofJsonText, jsonText, Json.read_compact (faithful_toJson h), Option.map_some,
    inOrder_toJson h, ofJson_toJson]

end Value

/-! ## Formulas -/

/-- Whether a value is an array or an object. -/
def Value.isCompound : Value → Bool
  | array _ | object _ => true
  | _ => false

/-- The text of a document is parsed as what it is read as. -/
theorem Namespace.callJson_parse {text : String} {v : Value} (h : Value.ofJsonText text = some v) :
    callJson "parse" [.string text] = .ok v := by
  have hdisplay : (firstOf [.string text]).display = text := String.ofList_toList ..
  unfold callJson
  simp only [hdisplay, h]

namespace Pipeline

open Text

/-- The text of an array or an object is taken for what it is read as. -/
private theorem structured_jsonText {v : Value} (hv : v.isCompound = true) :
    structured (.string v.jsonText) = (Value.ofJsonText v.jsonText).getD (.string v.jsonText) := by
  have htext : v.jsonText.toList = v.toJson.chars := String.toList_ofList ..
  cases v with
  | array items =>
    have htrim : trimStart (Value.array items).jsonText.toList =
        '[' :: (Json.itemsChars (Value.itemsJson items) ++ [']']) := by
      rw [htext]
      exact List.dropWhile_cons_of_neg (by decide)
    rw [structured]
    split
    · rfl
    · rfl
    · rename_i hbrace hbracket
      exact absurd htrim (hbracket _)
  | object members =>
    have htrim : trimStart (Value.object members).jsonText.toList =
        '{' :: (Json.membersChars (Value.membersJson members) ++ ['}']) := by
      rw [htext]
      exact List.dropWhile_cons_of_neg (by decide)
    rw [structured]
    split
    · rfl
    · rfl
    · rename_i hbrace hbracket
      exact absurd htrim (hbrace _)
  | _ => cases hv

/-- What a formula sees under the name of an argument: the last of that name, unless the formula
speaks of the widget by it. -/
theorem get?_scopeOf (s : Setting) (before after : List FormulaArg) (a : FormulaArg)
    (formula : String) (hlast : ∀ later ∈ after, later.name ≠ a.name)
    (hwidget : a.name = "widget" → occurs widgetMark formula.toList = false) :
    (scopeOf s (before ++ a :: after) formula).get? a.name =
      some (structured (argumentValue s a.state)) := by
  have hnamed : (Members.ofList ((before ++ a :: after).map fun b =>
      (b.name, structured (argumentValue s b.state)))).get? a.name =
      some (structured (argumentValue s a.state)) := by
    rw [List.map_append, List.map_cons]
    refine Members.get?_ofList_of_last _ _ _ fun later hlater => ?_
    obtain ⟨b, hb, rfl⟩ := List.mem_map.mp hlater
    exact hlast b hb
  rw [scopeOf]
  split_ifs with hoccurs
  · have hname : a.name ≠ "widget" := fun hname => by
      rw [hwidget hname] at hoccurs
      exact Bool.false_ne_true hoccurs
    rw [Members.get?_insert_of_ne hname, hnamed]
  · exact hnamed

/-- A formula whose value is an array or an object yields its text. -/
theorem eval_run_of_compound (s : Setting) (args : List FormulaArg) (formula : String) (w : Value)
    (t : Trail) {v : Value} (hv : v.isCompound = true)
    (heval : (Formula.evaluate ⟨scopeOf s args formula, s.engine.settings.limits, s.engine.draw⟩
      t.draws formula).1 = .ok v) :
    ((eval s args formula w).run t).1 = .string v.jsonText := by
  obtain ⟨draws, hresult⟩ : ∃ draws, Formula.evaluate
      ⟨scopeOf s args formula, s.engine.settings.limits, s.engine.draw⟩ t.draws formula =
        (.ok v, draws) := ⟨_, Prod.ext heval rfl⟩
  have hrun : (eval s args formula w).run t =
      pure (.string v.jsonText, { t with draws := draws }) := by
    cases v with
    | array items => simp [eval, hresult]
    | object members => simp [eval, hresult]
    | _ => cases hv
  rw [hrun]
  rfl

/-- An array or an object that a formula yields is stored as text. Where the text is bound to an
argument of a formula, or read in a formula, it is the value again, without what JSON lacks. Its
numbers may be any that are read back, and integers below `2^53` are. -/
theorem stored_text_reads_back {v : Value} (hv : v.isCompound = true) (h : v.Storable 127) :
    (∀ (s : Setting) (args : List FormulaArg) (formula : String) (w : Value) (t : Trail),
      (Formula.evaluate ⟨scopeOf s args formula, s.engine.settings.limits, s.engine.draw⟩
        t.draws formula).1 = .ok v →
      ((apply s (.eval args (some formula)) w).run t).1 = .string v.jsonText) ∧
    (∀ (s : Setting) (before after : List FormulaArg) (a : FormulaArg) (formula : String),
      argumentValue s a.state = .string v.jsonText →
      (∀ later ∈ after, later.name ≠ a.name) →
      (a.name = "widget" → occurs widgetMark formula.toList = false) →
      (scopeOf s (before ++ a :: after) formula).get? a.name = some v.normalized) ∧
    Namespace.callJson "stringify" [v] = .ok (.string v.jsonText) ∧
    Namespace.callJson "parse" [.string v.jsonText] = .ok v.normalized ∧
    ∀ (x : Double) (depth : Nat), x.isIntegral = true → x.toInt.natAbs < Nat.pow 2 53 →
      (Value.number x).Storable depth := by
  have hread : Value.ofJsonText v.jsonText = some v.normalized := Value.ofJsonText_jsonText h
  refine ⟨?_, ?_, ?_, Namespace.callJson_parse hread,
    fun x depth hintegral hsize => Value.storable_of_integer hintegral hsize depth⟩
  · intro s args formula w t heval
    exact eval_run_of_compound s args formula w t hv heval
  · intro s before after a formula hstate hlast hwidget
    rw [get?_scopeOf s before after a formula hlast hwidget, hstate, structured_jsonText hv, hread,
      Option.getD_some]
  · cases v with
    | array items => rfl
    | object members => rfl
    | _ => cases hv

/-- What a formula gives, if it is a list of three numbers. -/
def triple? : Except FormulaError Value → Option (Double × Double × Double)
  | .ok (.array [.number x, .number y, .number z]) => some (x, y, z)
  | _ => none

private theorem eq_of_triple? {result : Except FormulaError Value} {x y z : Double}
    (h : triple? result = some (x, y, z)) :
    result = .ok (.array [.number x, .number y, .number z]) := by
  unfold triple? at h
  split at h
  · cases h
    rfl
  · cases h

/-- An engine, and states of which one holds the text that the formula `[0.1, 0 / 0, -0]` yields. -/
def storingSetting : Setting where
  engine :=
    { settings := {}, zone := .fixed .zero, parse := fun _ => (none, []), draw := fun _ => 0 }
  states := [("stored", .string "[0.1,null,0]")]
  request := {}
  isSeconds := false

/-- The value of that formula; it has a number that is not finite and a zero with a sign. -/
def storedList : Value :=
  .array [.number (Double.ofDecimal false 1 (-1)), .number .nan, .number (Double.zero true)]

private theorem storable_storedList : storedList.Storable 127 := by
  have htenth :
      (Json.read (Value.numberJson (Double.ofDecimal false 1 (-1))).compact).bind Json.real? =
      some (Double.ofDecimal false 1 (-1)) := by decide +kernel
  have hjson : Value.numberJson (Double.ofDecimal false 1 (-1)) =
      .real (Double.ofDecimal false 1 (-1)) := by
    rw [Value.numberJson, if_neg (by decide +kernel), Json.ofDouble, if_pos (by decide +kernel)]
  have hzero : (Value.number (Double.zero true)).Storable 126 :=
    Value.storable_of_integer (by decide +kernel) (by decide +kernel) 126
  refine List.forall_mem_cons.mpr ⟨fun _ => ?_, List.forall_mem_cons.mpr ⟨?_,
    List.forall_mem_singleton.mpr hzero⟩⟩
  · rw [Json.eq_real_of_real? htenth, hjson]
  · exact fun hfinite => nomatch hfinite

/-- The formula `[0.1, 0 / 0, -0]` yields the text that the state holds, and another formula sees
under the name of the state the list without what JSON lacks. -/
theorem stored_text_reads_back_list :
    storedList.isCompound = true ∧ storedList.Storable 127 ∧
    ((apply storingSetting (.eval [] (some "[0.1, 0 / 0, -0]")) .null).run {}).1 =
      .string "[0.1,null,0]" ∧
    (scopeOf storingSetting [⟨"x", "other", "other"⟩, ⟨"x", "stored", "stored"⟩] "x").get? "x" =
      some (.array [.number (Double.ofDecimal false 1 (-1)), .null, .number 0]) := by
  have htext : storedList.jsonText = "[0.1,null,0]" := by decide +kernel
  have heval : (Formula.evaluate ⟨scopeOf storingSetting [] "[0.1, 0 / 0, -0]",
      storingSetting.engine.settings.limits, storingSetting.engine.draw⟩ 0 "[0.1, 0 / 0, -0]").1 =
      .ok storedList := eq_of_triple? (by decide +kernel)
  have hstate : argumentValue storingSetting "stored" = .string "[0.1,null,0]" := by
    have hprefix : widgetObject.isPrefixOf? "stored".toList = none := by decide
    have hreserved : Reserved.ofState? "stored" = none := by decide
    rw [argumentValue, hprefix]
    change Engine.lookup _ _ _ "stored" = _
    rw [Engine.lookup, hreserved]
    rfl
  have hnormalized : storedList.normalized =
      .array [.number (Double.ofDecimal false 1 (-1)), .null, .number 0] := by
    have htenth : Value.normalizedNumber (Double.ofDecimal false 1 (-1)) =
        .number (Double.ofDecimal false 1 (-1)) := by
      rw [Value.normalizedNumber, if_pos (by decide +kernel), if_neg (by decide +kernel)]
    have hzero : Value.normalizedNumber (Double.zero true) = .number 0 := by
      rw [Value.normalizedNumber, if_pos (by decide), if_pos (by decide)]
    rw [storedList, Value.normalized]
    simp only [Value.itemsNormalized, Value.normalized, htenth, hzero]
    rfl
  obtain ⟨hyields, hbound, -⟩ := stored_text_reads_back rfl storable_storedList
  refine ⟨rfl, storable_storedList, ?_, ?_⟩
  · rw [← htext]
    exact hyields storingSetting [] "[0.1, 0 / 0, -0]" .null {} heval
  · rw [← hnormalized]
    exact hbound storingSetting [⟨"x", "other", "other"⟩] [] ⟨"x", "stored", "stored"⟩ "x"
      (htext ▸ hstate) (fun _ h => nomatch h) (fun h => absurd h (by decide))

end Pipeline

end LiveText
