import Mathlib.Data.List.Induction
import Mathlib.Data.String.Basic
import LiveText.Value.Members

/-!
# Entries collected in key order

Entries that stand in ascending order of their keys are collected as they are (`ofList_eq_self`).
In any order, the entry of a key is the last one given for it (`get?_ofList`).
-/

namespace LiveText.Members

variable {α : Type}

/-- Entries in ascending order of their keys, each key at most once. -/
def Ascending (ms : Members α) : Prop := ms.Pairwise fun a b => a.1 < b.1

/-- An entry with a greater key than all others is put at the end. -/
theorem insert_eq_append {ms : Members α} {key : String} (h : ∀ m ∈ ms, m.1 < key) (value : α) :
    ms.insert key value = ms ++ [(key, value)] := by
  induction ms with
  | nil => rfl
  | cons m rest ih =>
    have hlt : m.1 < key := h m (List.mem_cons_self ..)
    rw [insert, if_neg hlt.ne, if_neg hlt.asymm,
      ih fun other hm => h other (List.mem_cons_of_mem m hm), List.cons_append]

/-- Ascending entries are put behind the ones before them. -/
private theorem foldl_insert_eq_append (ms entries : Members α) (h : Ascending (ms ++ entries)) :
    entries.foldl (fun ms (k, v) => ms.insert k v) ms = ms ++ entries := by
  induction entries generalizing ms with
  | nil => rw [List.foldl_nil, List.append_nil]
  | cons m rest ih =>
    have hlast : ∀ other ∈ ms, other.1 < m.1 := fun other ho =>
      (List.pairwise_append.mp h).2.2 other ho m (List.mem_cons_self ..)
    rw [List.append_cons] at h ⊢
    have hinsert : ms.insert m.1 m.2 = ms ++ [m] := insert_eq_append hlast m.2
    rw [← ih (ms ++ [m]) h, ← hinsert, List.foldl_cons]

/-- Ascending entries are collected as they are. -/
theorem ofList_eq_self {ms : Members α} (h : Ascending ms) : ofList ms = ms :=
  foldl_insert_eq_append [] ms h

private theorem ofList_append_singleton (entries : List (String × α)) (m : String × α) :
    ofList (entries ++ [m]) = (ofList entries).insert m.1 m.2 := by
  rw [ofList, List.foldl_append]
  rfl

/-- The entry of a key is the last one that is given for it. -/
theorem get?_ofList (entries : List (String × α)) (key : String) :
    (ofList entries).get? key = entries.reverse.lookup key := by
  induction entries using List.reverseRecOn with
  | nil => rfl
  | append_singleton entries m ih =>
    rw [ofList_append_singleton, List.reverse_append, List.reverse_singleton, List.singleton_append,
      List.lookup_cons]
    by_cases hkey : key = m.1
    · rw [hkey, get?_insert_self, beq_self_eq_true]
    · rw [get?_insert_of_ne hkey, ih, beq_eq_false_iff_ne.mpr hkey]

/-- An entry with no other of its key behind it is found. -/
theorem get?_ofList_of_last (before after : List (String × α)) {key : String} (value : α)
    (h : ∀ later ∈ after, later.1 ≠ key) :
    (ofList (before ++ (key, value) :: after)).get? key = some value := by
  have hnone : after.reverse.lookup key = none := by
    rw [List.lookup_eq_none_iff]
    intro later hlater
    exact bne_iff_ne.mpr (h later (List.mem_reverse.mp hlater)).symm
  rw [get?_ofList, List.reverse_append, List.reverse_cons, List.append_assoc, List.lookup_append,
    hnone, Option.none_or, List.singleton_append, List.lookup_cons, beq_self_eq_true]

/-- Where no key is given twice, the order of the entries does not matter to what is found. -/
theorem get?_ofList_of_nodup {entries : List (String × α)} (h : (entries.map Prod.fst).Nodup)
    (key : String) : (ofList entries).get? key = entries.lookup key := by
  induction entries with
  | nil => rfl
  | cons m rest ih =>
    obtain ⟨hnot, hrest⟩ := List.nodup_cons.mp (List.map_cons .. ▸ h)
    by_cases hkey : key = m.1
    · have hlast : ∀ later ∈ rest, later.1 ≠ m.1 := fun later hlater heq =>
        hnot (heq ▸ List.mem_map_of_mem hlater)
      rw [hkey, List.lookup_cons, beq_self_eq_true]
      exact get?_ofList_of_last [] rest m.2 hlast
    · rw [List.lookup_cons, beq_eq_false_iff_ne.mpr hkey, ← ih hrest, get?_ofList, get?_ofList,
        List.reverse_cons, List.lookup_append, List.lookup_cons, beq_eq_false_iff_ne.mpr hkey,
        List.lookup_nil, Option.or_none]

end LiveText.Members
