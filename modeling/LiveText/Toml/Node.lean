import LiveText.Toml.Basic

/-!
# Tables while they are read

A table is opened at most once, and a key is set at most once. Headers may pass through tables that
other headers or pairs have made; a pair may extend a table only if no header has opened it, and
only at the end of keys that pairs have made.
-/

namespace LiveText.Toml

/-- How a table has come into being. -/
inductive Origin where
  /-- A header has opened it. -/
  | opened
  /-- A header has passed through it. -/
  | implied
  /-- The key of a pair has passed through it. -/
  | dotted
deriving DecidableEq, Repr

/-- What a key stands for while a document is read. -/
inductive Node where
  | closed (v : Toml)
  | table (origin : Origin) (entries : List (String × Node))
  /-- An array of tables, of which the last one is open, and comes first here. -/
  | tables (last : List (String × Node)) (before : List (List (String × Node)))

namespace Node

/-- Entries in the order of writing. -/
abbrev Entries := List (String × Node)

/-- The entries with one entry set; a new one stands last. -/
def put (key : String) (n : Node) : Entries → Entries
  | [] => [(key, n)]
  | (k, e) :: rest => if k = key then (k, n) :: rest else (k, e) :: put key n rest

/-- A change of a table that may be refused, given the table's origin. -/
abbrev Change := Origin → Entries → Option Entries

/-- Changes the table that a header's key leads to from a table; tables on the way are made where
they are missing. -/
def descend (change : Change) : List String → Change
  | [] => change
  | key :: rest => fun _ entries =>
    match entries.lookup key with
    | none =>
      (descend change rest .implied []).map fun inner => put key (.table .implied inner) entries
    | some (.table origin inner) =>
      (descend change rest origin inner).map fun inner => put key (.table origin inner) entries
    | some (.tables last before) =>
      (descend change rest .opened last).map fun last => put key (.tables last before) entries
    | some (.closed _) => none

/-- Changes the table that the front of a pair's key leads to from a table. An opened table ends the
way, and so does one in an array. -/
def extend (change : Change) : List String → Change
  | [] => change
  | key :: rest => fun _ entries =>
    match entries.lookup key with
    | none =>
      (extend change rest .dotted []).map fun inner => put key (.table .dotted inner) entries
    | some (.table origin inner) =>
      if origin = .opened then none
      else (extend change rest origin inner).map fun inner => put key (.table origin inner) entries
    | some (.tables last before) =>
      (extend change rest .opened last).map fun last => put key (.tables last before) entries
    | some (.closed _) => none

/-- Opens a table under a key, unless it has been opened or made by pairs. -/
def openTable (key : String) : Change := fun _ entries =>
  match entries.lookup key with
  | none => some (put key (.table .opened []) entries)
  | some (.table .implied inner) => some (put key (.table .opened inner) entries)
  | some _ => none

/-- Opens a further table of an array under a key. -/
def openItem (key : String) : Change := fun _ entries =>
  match entries.lookup key with
  | none => some (put key (.tables [] []) entries)
  | some (.tables last before) => some (put key (.tables [] (last :: before)) entries)
  | some _ => none

/-- Sets a key that is not taken. A key with points has to end in a table that pairs have made. -/
def setKey (pointed : Bool) (key : String) (v : Toml) : Change := fun origin entries =>
  if pointed && origin ≠ .dotted then none
  else if (entries.lookup key).isSome then none
  else some (entries ++ [(key, .closed v)])

mutual

/-- The value that a node becomes. -/
def toToml : Node → Toml
  | closed v => v
  | table _ entries => .table (entriesToml entries)
  | tables last before => .array (itemsToml before ++ [.table (entriesToml last)])

/-- The entries that nodes become. -/
def entriesToml : Entries → List (String × Toml)
  | [] => []
  | (key, n) :: rest => (key, toToml n) :: entriesToml rest

/-- The tables of an array in the order of writing, from the last to the first. -/
def itemsToml : List Entries → List Toml
  | [] => []
  | entries :: rest => itemsToml rest ++ [.table (entriesToml entries)]

end

end Node

/-- The entries with a pair added under the key of an open table. -/
def Node.setPair? (path : List String) (key : List String) (v : Toml) (entries : Node.Entries) :
    Option Node.Entries :=
  match key.getLast? with
  | none => none
  | some last =>
    let front := key.dropLast
    let change := Node.extend (Node.setKey (!front.isEmpty) last v) front
    Node.descend change path .opened entries

/-- The entries with a table opened by the header of a key. -/
def Node.openHeader? (change : String → Node.Change) (key : List String) (entries : Node.Entries) :
    Option Node.Entries :=
  match key.getLast? with
  | none => none
  | some last => Node.descend (change last) key.dropLast .opened entries

end LiveText.Toml
