/-!
# Members in key order

The members of an object, and the names that a formula sees, are pairs in ascending order of their
keys, each key at most once. Strings are ordered by code points.
-/

namespace LiveText

/-- Keyed entries in ascending order of their keys. -/
abbrev Members (α : Type) := List (String × α)

namespace Members

variable {α : Type}

/-- The entry of a key. -/
def get? (key : String) (ms : Members α) : Option α := ms.lookup key

/-- The members with the entry of a key set. -/
def insert (key : String) (value : α) : Members α → Members α
  | [] => [(key, value)]
  | (k, v) :: rest =>
    if k = key then (key, value) :: rest
    else if key < k then (key, value) :: (k, v) :: rest
    else (k, v) :: insert key value rest

/-- The members without the entry of a key. -/
def erase (key : String) (ms : Members α) : Members α := ms.filter fun m => m.1 ≠ key

/-- The members with the given entries; of two with one key the later counts. -/
def ofList (entries : List (String × α)) : Members α :=
  entries.foldl (fun ms (k, v) => ms.insert k v) []

/-- An inserted entry is found. -/
theorem get?_insert_self (key : String) (value : α) (ms : Members α) :
    (ms.insert key value).get? key = some value := by
  induction ms with
  | nil => simp [insert, get?]
  | cons m rest ih =>
    obtain ⟨k, v⟩ := m
    simp only [insert]
    split
    · simp [get?]
    · split
      · simp [get?]
      · have hk : (key == k) = false := by simpa using Ne.symm ‹¬k = key›
        simpa [get?, List.lookup_cons, hk] using ih

/-- Other entries are kept. -/
theorem get?_insert_of_ne {key other : String} (h : other ≠ key) (value : α) (ms : Members α) :
    (ms.insert key value).get? other = ms.get? other := by
  induction ms with
  | nil =>
    have ho : (other == key) = false := by simpa using h
    simp [insert, get?, List.lookup_cons, ho]
  | cons m rest ih =>
    obtain ⟨k, v⟩ := m
    have ho : (other == key) = false := by simpa using h
    simp only [insert]
    split
    · subst_vars; simp [get?, List.lookup_cons, ho]
    · split
      · simp [get?, List.lookup_cons, ho]
      · simp only [get?] at ih; simp [get?, List.lookup_cons, ih]

end Members

end LiveText
