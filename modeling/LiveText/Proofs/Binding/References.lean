import LiveText.Binding.Parser

/-!
# References and the arguments of formulas

A text that ends in a channel refers to that channel, any other text to the value of a state. The
name with its channel says what the name without it is: `Reference.OnChannel.ofString_eq`. The
arguments of a formula token are such references, and every formula of the token knows the first
ones of them.
-/

namespace LiveText

open Text

namespace Reference

/-- Whether a name with a channel is another name with the given channel. -/
def OnChannel (channel : List Char) (state system : String) : Prop :=
  channel ∈ channels ∧ state = system ++ "." ++ String.ofList channel

private theorem point_not_mem_channel : ∀ channel ∈ channels, '.' ∉ channel := by decide

private theorem onChannel_ofList {base channel : List Char} (h : channel ∈ channels) :
    OnChannel channel (String.ofList (base ++ '.' :: channel)) (String.ofList base) := by
  refine ⟨h, ?_⟩
  have hpoint : "." = String.ofList ['.'] := rfl
  rw [hpoint, ← String.ofList_append, ← String.ofList_append, List.append_assoc,
    List.singleton_append]

/-- A text that ends in a channel refers to it. -/
theorem ofChars_append_channel {base channel : List Char} (h : channel ∈ channels) :
    ofChars (base ++ '.' :: channel) = ⟨String.ofList (base ++ '.' :: channel), String.ofList base,
      decide (channel ∈ timeChannels)⟩ := by
  have hcut : cutLast? '.' (base ++ '.' :: channel) = some (base, channel) :=
    cutLast?_eq_some_iff.mpr ⟨rfl, point_not_mem_channel channel h⟩
  rw [ofChars, hcut]
  exact if_pos h

/-- A text that ends in no channel refers to the value. -/
private theorem ofChars_of_ne {cs : List Char}
    (h : ∀ base, ∀ channel ∈ channels, cs ≠ base ++ '.' :: channel) :
    ofChars cs = ⟨String.ofList (cs ++ ".val".toList), String.ofList cs, false⟩ := by
  unfold ofChars
  split
  · rename_i base channel hcut
    have hcs := (cutLast?_eq_some_iff.mp hcut).1
    exact if_neg fun hchannel => h base channel hchannel hcs
  · rfl

/-- What a text spells is on a channel, and in seconds if that holds a time. -/
theorem onChannel_ofChars (cs : List Char) :
    ∃ channel, OnChannel channel (ofChars cs).state (ofChars cs).system ∧
      ((ofChars cs).isSeconds = true ↔ channel ∈ timeChannels) := by
  by_cases h : ∃ base, ∃ channel ∈ channels, cs = base ++ '.' :: channel
  · obtain ⟨base, channel, hchannel, rfl⟩ := h
    rw [ofChars_append_channel hchannel]
    exact ⟨channel, onChannel_ofList hchannel, decide_eq_true_iff⟩
  · have hvalue : "val".toList ∈ channels := by decide
    rw [ofChars_of_ne fun base channel hchannel hcs => h ⟨base, channel, hchannel, hcs⟩]
    have htime : "val".toList ∉ timeChannels := by decide
    exact ⟨"val".toList, onChannel_ofList hvalue, iff_of_false Bool.false_ne_true htime⟩

/-- A name with a channel refers to the name without it. -/
theorem OnChannel.ofString_eq {channel : List Char} {state system : String}
    (h : OnChannel channel state system) :
    ofString state = ⟨state, system, decide (channel ∈ timeChannels)⟩ := by
  have hstate : state.toList = system.toList ++ '.' :: channel := by simp [h.2]
  rw [ofString, hstate, ofChars_append_channel h.1, ← hstate, String.ofList_toList,
    String.ofList_toList]

/-- Splitting a name with a channel gives back itself and the name without it. -/
theorem OnChannel.split {channel : List Char} {state system : String}
    (h : OnChannel channel state system) :
    (ofString state).state = state ∧ (ofString state).system = system := by
  rw [h.ofString_eq]
  exact ⟨rfl, rfl⟩

end Reference

namespace FormulaArg

/-- Whether an argument refers to a channel of a state. -/
def OnChannel (arg : FormulaArg) : Prop :=
  ∃ channel, Reference.OnChannel channel arg.state arg.system

/-- The argument that a text spells refers to a channel. -/
theorem onChannel_ofChars? {cs : List Char} {arg : FormulaArg} (h : ofChars? cs = some arg) :
    arg.OnChannel := by
  obtain ⟨⟨name, reference⟩, -, rfl⟩ := Option.map_eq_some_iff.mp h
  obtain ⟨channel, hchannel, -⟩ := Reference.onChannel_ofChars (trim reference)
  exact ⟨channel, hchannel⟩

end FormulaArg

namespace Binding

/-- The arguments read so far are the first ones of the token. -/
private theorem prefix_readFormulaParts (known : List FormulaArg) (parts : List (List Char)) :
    known <+: (readFormulaParts known parts).1 := by
  fun_induction readFormulaParts known parts with
  | case1 known => exact List.prefix_rfl
  | case2 known part rest _ ih => exact (List.prefix_append known _).trans ih
  | case3 known part rest _ args formulas hrest ih =>
    rw [hrest] at ih
    exact ih

/-- The arguments that a formula knows are the first ones of the token. -/
theorem prefix_of_mem_readFormulaParts {known : List FormulaArg} {parts : List (List Char)}
    {entry : List FormulaArg × String} (h : entry ∈ (readFormulaParts known parts).2) :
    entry.1 <+: (readFormulaParts known parts).1 := by
  fun_induction readFormulaParts known parts with
  | case1 known => cases h
  | case2 known part rest _ ih => exact ih h
  | case3 known part rest _ args formulas hrest ih =>
    rw [hrest] at ih
    rcases List.mem_cons.mp h with rfl | hlater
    · have hknown := prefix_readFormulaParts known rest
      rwa [hrest] at hknown
    · exact ih hlater

/-- The arguments of a token refer to channels if those read so far do. -/
theorem onChannel_readFormulaParts {known : List FormulaArg} {parts : List (List Char)}
    (h : ∀ arg ∈ known, arg.OnChannel) :
    ∀ arg ∈ (readFormulaParts known parts).1, arg.OnChannel := by
  fun_induction readFormulaParts known parts with
  | case1 known => exact h
  | case2 known part rest _ ih =>
    apply ih
    intro arg harg
    rcases List.mem_append.mp harg with hknown | hpart
    · exact h arg hknown
    · exact FormulaArg.onChannel_ofChars? (Option.mem_toList.mp hpart)
  | case3 known part rest _ args formulas hrest ih =>
    rw [hrest] at ih
    exact ih h

/-- The first formula has all arguments. -/
theorem exists_eval_mem_formulaOperations (args : List FormulaArg)
    (formulas : List (List FormulaArg × String)) :
    ∃ formula, .eval args formula ∈ formulaOperations args formulas := by
  cases formulas with
  | nil => exact ⟨none, List.mem_cons_self ..⟩
  | cons entry later => exact ⟨some entry.2, List.mem_cons_self ..⟩

/-- Every operation of a formula token is a formula with the first arguments. -/
theorem exists_of_mem_formulaOperations {args : List FormulaArg}
    {formulas : List (List FormulaArg × String)} {op : Operation}
    (hknown : ∀ entry ∈ formulas, entry.1 <+: args) (h : op ∈ formulaOperations args formulas) :
    ∃ known formula, op = .eval known formula ∧ known <+: args := by
  cases formulas with
  | nil =>
    obtain rfl := List.mem_singleton.mp h
    exact ⟨args, none, rfl, List.prefix_rfl⟩
  | cons entry later =>
    rcases List.mem_cons.mp h with rfl | hlater
    · exact ⟨args, some entry.2, rfl, List.prefix_rfl⟩
    · obtain ⟨other, hmem, rfl⟩ := List.mem_map.mp hlater
      exact ⟨other.1, some other.2, rfl, hknown other (List.mem_cons_of_mem entry hmem)⟩

end Binding

end LiveText
