import LiveText.Proofs.Number.Digits
import LiveText.Proofs.Text.Trim
import LiveText.Value.Members
import LiveText.Value.Path

/-!
# Paths one behind the other, and keys as paths

A path and a second one behind a dot are read together exactly if each is read, and the second is
followed from where the first ends: `resolve_join`. A key of an object is a path to its member as it
is written, unless it is an index with a plus or a zero in front of its digits: `resolve_key_iff`.
-/

namespace LiveText.Path

open Text

/-! ### Reading -/

/-- Parts are read one by one. -/
private theorem readParts_append (parts more : List (List Char)) :
    readParts (parts ++ more) =
      (readParts parts).bind fun front => (readParts more).map (front ++ ·) := by
  induction parts with
  | nil => simp [readParts]
  | cons part parts ih =>
    rw [List.cons_append, readParts, readParts, ih]
    cases readPart part with
    | none => rfl
    | some segments =>
      cases readParts parts with
      | none => rfl
      | some front => cases readParts more <;> simp

private theorem withoutRoot_mark (cs : List Char) : withoutRoot ('$' :: '.' :: cs) = some cs := rfl

/-- Other texts have no mark of the root. -/
theorem withoutRoot_other {cs : List Char} (hroot : cs ≠ ['$']) (hmark : ¬ ['$', '.'] <+: cs) :
    withoutRoot cs = some cs := by
  rw [withoutRoot.eq_def]
  split
  · exact absurd ⟨_, rfl⟩ hmark
  · exact absurd rfl hroot
  · rfl

/-- The segments of a path are those of its parts. -/
theorem readChars_eq_ok_iff {cs path : List Char} {segments : List Segment}
    (htrim : trim cs = cs) (hroot : withoutRoot cs = some path) (hne : path ≠ []) :
    readChars cs = .ok segments ↔ readParts (path.splitOn '.') = some segments := by
  obtain ⟨c, rest, rfl⟩ := List.exists_cons_of_ne_nil hne
  rw [readChars, htrim]
  simp only [hroot]
  cases readParts ((c :: rest).splitOn '.') with
  | none => exact ⟨nofun, nofun⟩
  | some found => rw [Except.ok.injEq, Option.some.injEq]

/-- The parts of two texts with a dot between them are those of the one and those of the other. -/
theorem splitOn_append_dot (front back : List Char) :
    (front ++ '.' :: back).splitOn '.' = front.splitOn '.' ++ back.splitOn '.' :=
  List.splitOnP_append_cons front back (beq_self_eq_true '.')

/-- Whether a text is not empty and has no blanks at its ends. -/
structure IsBare (path : String) : Prop where
  ne_empty : path ≠ ""
  trim_eq : trim path.toList = path.toList

instance : DecidablePred IsBare := fun path =>
  decidable_of_iff (path ≠ "" ∧ trim path.toList = path.toList)
    ⟨fun ⟨hne, htrim⟩ => ⟨hne, htrim⟩, fun h => ⟨h.ne_empty, h.trim_eq⟩⟩

theorem IsBare.ne_nil {path : String} (h : IsBare path) : path.toList ≠ [] :=
  fun hnil => h.ne_empty (String.toList_eq_nil_iff.mp hnil)

/-- A text whose front is no mark of the root has none with a dot and more behind it. -/
private theorem not_mark_append {front : List Char} (hne : front ≠ []) (hroot : front ≠ ['$'])
    (hmark : ¬ ['$', '.'] <+: front) (back : List Char) :
    ¬ ['$', '.'] <+: front ++ '.' :: back := by
  intro h
  match front, hne with
  | [c], _ =>
    obtain ⟨rfl, -⟩ := List.cons_prefix_cons.mp h
    exact hroot rfl
  | c :: d :: rest, _ =>
    obtain ⟨rfl, hrest⟩ := List.cons_prefix_cons.mp h
    obtain ⟨rfl, -⟩ := List.cons_prefix_cons.mp hrest
    exact hmark ⟨rest, rfl⟩

/-- The parts in front of the dot and those behind it are read apart. -/
theorem readParts_join_iff {front back : List Char} {segments : List Segment} :
    readParts ((front ++ '.' :: back).splitOn '.') = some segments ↔
      ∃ fore aft, readParts (front.splitOn '.') = some fore ∧
        readParts (back.splitOn '.') = some aft ∧ segments = fore ++ aft := by
  rw [splitOn_append_dot, readParts_append, Option.bind_eq_some_iff]
  constructor
  · rintro ⟨fore, hfore, hmap⟩
    obtain ⟨aft, haft, rfl⟩ := Option.map_eq_some_iff.mp hmap
    exact ⟨fore, aft, hfore, haft, rfl⟩
  · rintro ⟨fore, aft, hfore, haft, rfl⟩
    exact ⟨fore, hfore, Option.map_eq_some_iff.mpr ⟨aft, haft, rfl⟩⟩

/-- A path and a second one behind a dot are read together exactly if each is read. The second one
has no mark of the root, and the first one is not the mark alone. -/
theorem readChars_join_iff {front back : List Char} {segments : List Segment}
    (hfront : trim front = front) (hne : front ≠ []) (halone : front ≠ ['$', '.'])
    (hback : trim back = back) (hne' : back ≠ []) (hroot : back ≠ ['$'])
    (hmark : ¬ ['$', '.'] <+: back) :
    readChars (front ++ '.' :: back) = .ok segments ↔
      ∃ fore aft, readChars front = .ok fore ∧ readChars back = .ok aft ∧
        segments = fore ++ aft := by
  have htrim : trim (front ++ '.' :: back) = front ++ '.' :: back :=
    trim_append_append hfront hne hback hne' ['.']
  have hreadBack (aft : List Segment) :
      readChars back = .ok aft ↔ readParts (back.splitOn '.') = some aft :=
    readChars_eq_ok_iff hback (withoutRoot_other hroot hmark) hne'
  simp only [hreadBack]
  by_cases hdollar : front = ['$']
  · subst hdollar
    rw [List.singleton_append] at htrim ⊢
    rw [readChars_eq_ok_iff htrim (withoutRoot_mark back) hne']
    have hwhole : readChars ['$'] = .ok [] := rfl
    simp [hwhole, eq_comm]
  · by_cases hbegins : ['$', '.'] <+: front
    · obtain ⟨rest, rfl⟩ := hbegins
      have hrest : rest ≠ [] := by
        rintro rfl
        exact halone rfl
      have hroot' : withoutRoot (['$', '.'] ++ rest ++ '.' :: back) = some (rest ++ '.' :: back) :=
        withoutRoot_mark _
      rw [readChars_eq_ok_iff htrim hroot' (by simp), readParts_join_iff]
      simp only [readChars_eq_ok_iff hfront (withoutRoot_mark rest) hrest]
    · have hlong : front ++ '.' :: back ≠ ['$'] := by
        obtain ⟨c, rest, rfl⟩ := List.exists_cons_of_ne_nil hne
        simp
      have hroot' := withoutRoot_other hlong (not_mark_append hne hdollar hbegins back)
      rw [readChars_eq_ok_iff htrim hroot' (by simp), readParts_join_iff]
      simp only [readChars_eq_ok_iff hfront (withoutRoot_other hdollar hbegins) hne]

/-! ### Following -/

/-- Steps behind others go on from where those end. -/
theorem follow?_append (v : Value) (front back : List Segment) :
    follow? v (front ++ back) = (follow? v front).bind fun w => follow? w back :=
  List.foldlM_append

theorem resolve_of_read {path : String} {segments : List Segment} (h : read path = .ok segments)
    (v : Value) : resolve v path = .ok (follow? v segments) := by
  rw [resolve, h]
  rfl

/-- A path and a second one behind a dot are read together exactly if each is read, as the segments
of the first and then those of the second. What they address is what the second addresses in what
the first does, and nothing if the first addresses nothing. -/
theorem resolve_join {p q : String} (hp : IsBare p) (halone : p ≠ "$.") (hq : IsBare q)
    (hroot : q ≠ "$") (hmark : ¬ "$.".toList <+: q.toList) :
    ((∃ segments, read (p ++ "." ++ q) = .ok segments) ↔
      (∃ front, read p = .ok front) ∧ ∃ back, read q = .ok back) ∧
    ∀ front back, read p = .ok front → read q = .ok back →
      read (p ++ "." ++ q) = .ok (front ++ back) ∧
      ∀ v, (∀ w, resolve v p = .ok (some w) → resolve v (p ++ "." ++ q) = resolve w q) ∧
        (resolve v p = .ok none → resolve v (p ++ "." ++ q) = .ok none) := by
  have hjoin (segments : List Segment) : read (p ++ "." ++ q) = .ok segments ↔
      ∃ front back, read p = .ok front ∧ read q = .ok back ∧ segments = front ++ back := by
    have hchars : (p ++ "." ++ q).toList = p.toList ++ '.' :: q.toList := by simp
    have halone' : p.toList ≠ "$.".toList := fun h => halone (String.toList_inj.mp h)
    have hroot' : q.toList ≠ "$".toList := fun h => hroot (String.toList_inj.mp h)
    rw [read, hchars]
    exact readChars_join_iff hp.trim_eq hp.ne_nil halone' hq.trim_eq hq.ne_nil hroot' hmark
  refine ⟨⟨?_, ?_⟩, fun front back hfront hback => ?_⟩
  · rintro ⟨segments, h⟩
    obtain ⟨front, back, hfront, hback, -⟩ := (hjoin segments).mp h
    exact ⟨⟨front, hfront⟩, back, hback⟩
  · rintro ⟨⟨front, hfront⟩, back, hback⟩
    exact ⟨front ++ back, (hjoin _).mpr ⟨front, back, hfront, hback, rfl⟩⟩
  · have hread := (hjoin (front ++ back)).mpr ⟨front, back, hfront, hback, rfl⟩
    refine ⟨hread, fun v => ⟨fun w hw => ?_, fun hnone => ?_⟩⟩
    · rw [resolve_of_read hfront, Except.ok.injEq] at hw
      rw [resolve_of_read hread, resolve_of_read hback, follow?_append, hw, Option.bind_some]
    · rw [resolve_of_read hfront, Except.ok.injEq] at hnone
      rw [resolve_of_read hread, follow?_append, hnone, Option.bind_none]

/-- A list of two users with their names. -/
def users : Value :=
  .object [("users", .array [.object [("name", .string "Alice")],
    .object [("name", .string "Bob")]])]

theorem resolve_join_users :
    IsBare "$.users[1]" ∧ IsBare "name" ∧
      read "$.users[1]" = .ok [.name "users", .index 1] ∧ read "name" = .ok [.name "name"] ∧
      read "$.users[1].name" = .ok [.name "users", .index 1, .name "name"] ∧
      resolve users "$.users[1].name" = .ok (some (.string "Bob")) := by
  have hfront : IsBare "$.users[1]" := by decide
  have hback : IsBare "name" := by decide
  have hreadFront : read "$.users[1]" = .ok [.name "users", .index 1] := by decide +kernel
  have hreadBack : read "name" = .ok [.name "name"] := by decide
  obtain ⟨hread, hresolve⟩ := (resolve_join hfront (by decide) hback (by decide) (by decide)).2
    [.name "users", .index 1] [.name "name"] hreadFront hreadBack
  have hbob : resolve users "$.users[1]" = .ok (some (.object [("name", .string "Bob")])) := by
    rw [resolve_of_read hreadFront]
    rfl
  refine ⟨hfront, hback, hreadFront, hreadBack, hread, ?_⟩
  have hname := (hresolve users).1 _ hbob
  rw [resolve_of_read hreadBack] at hname
  exact hname

/-! ### Keys -/

/-- Whether a text is a key that a path may be: it has neither dots nor brackets and is not the mark
of the root. -/
structure IsKey (key : String) : Prop extends IsBare key where
  dot_not_mem : '.' ∉ key.toList
  bracket_not_mem : '[' ∉ key.toList
  ne_root : key ≠ "$"

instance : DecidablePred IsKey := fun key =>
  decidable_of_iff (IsBare key ∧ '.' ∉ key.toList ∧ '[' ∉ key.toList ∧ key ≠ "$")
    ⟨fun ⟨hbare, hdot, hbracket, hroot⟩ => ⟨hbare, hdot, hbracket, hroot⟩,
      fun h => ⟨h.toIsBare, h.dot_not_mem, h.bracket_not_mem, h.ne_root⟩⟩

/-- Whether a text is an index that begins with a plus or with a zero in front of the given
digits. -/
def IsRespelled (cs digits : List Char) : Prop :=
  ∃ mark, (mark = '+' ∨ mark = '0') ∧ cs = mark :: digits ∧ Digits.IsIndex digits

/-- The name of the member that a key leads to: an index is written without what it does not
need. -/
def memberName (key : String) : String :=
  match Digits.readIndex? key.toList with
  | some n => String.ofList (Digits.ofNat 10 n)
  | none => key

/-- The segment of a key is an index or a name. -/
theorem IsKey.read_eq {key : String} (h : IsKey key) :
    read key = .ok (match Digits.readIndex? key.toList with
      | some n => [.index n]
      | none => [.name key]) := by
  have hroot : withoutRoot key.toList = some key.toList := by
    refine withoutRoot_other (fun heq => h.ne_root (String.toList_inj.mp heq)) fun hmark => ?_
    exact h.dot_not_mem (hmark.subset (by simp))
  have hdrop : key.toList.dropWhile (· ≠ '[') = [] :=
    List.dropWhile_eq_nil_iff.mpr fun c hc => by
      simpa using ne_of_mem_of_not_mem hc h.bracket_not_mem
  have hsome : key.toList.isEmpty = false := List.isEmpty_eq_false_iff.mpr h.ne_nil
  rw [read, readChars_eq_ok_iff h.trim_eq hroot h.ne_nil,
    List.splitOn_eq_singleton h.dot_not_mem, readParts, readParts, readPart, hsome, hdrop]
  cases Digits.readIndex? key.toList with
  | none => simp
  | some n => simp

/-- A key leads to the member of its name. -/
theorem IsKey.resolve_eq {key : String} (h : IsKey key) (members : Members Value) :
    resolve (.object members) key = .ok (members.get? (memberName key)) := by
  rw [resolve_of_read h.read_eq, memberName]
  cases Digits.readIndex? key.toList with
  | none => simp [follow?, step?, Members.get?]
  | some n => simp [follow?, step?, Members.get?]

/-- A zero in front of the digits of an index does not count. -/
theorem isIndex_zero_cons_iff {digits : List Char} (hne : digits ≠ []) :
    Digits.IsIndex ('0' :: digits) ↔ Digits.IsIndex digits := by
  have hvalue : Digits.value 10 ('0' :: digits) = Digits.value 10 digits :=
    Digits.value_replicate_append 10 1 digits
  constructor
  · exact fun h => ⟨hne, fun c hc => h.isDigit c (List.mem_cons_of_mem _ hc), hvalue ▸ h.fits⟩
  · refine fun h => ⟨List.cons_ne_nil _ _, fun c hc => ?_, hvalue.symm ▸ h.fits⟩
    rcases List.mem_cons.mp hc with rfl | hc
    · decide
    · exact h.isDigit c hc

/-- A respelled index is read as what its digits denote. -/
theorem IsRespelled.readIndex?_eq {cs digits : List Char} (h : IsRespelled cs digits) :
    Digits.readIndex? cs = some (Digits.value 10 digits) := by
  obtain ⟨mark, rfl | rfl, rfl, hindex⟩ := h
  · exact Digits.readIndex?_plus.mpr ⟨hindex, rfl⟩
  · have hzero := (isIndex_zero_cons_iff hindex.ne_nil).mpr hindex
    exact Digits.readIndex?_eq_some_iff.mpr
      ⟨_, .inl rfl, hzero, Digits.value_replicate_append 10 1 digits⟩

/-- No number is written as a respelled index. -/
private theorem IsRespelled.ne_ofNat {cs digits : List Char} (h : IsRespelled cs digits) (n : Nat) :
    Digits.ofNat 10 n ≠ cs := by
  obtain ⟨mark, rfl | rfl, rfl, hindex⟩ := h
  · intro heq
    have hplus : '+' ∈ Digits.ofNat 10 n := heq ▸ List.mem_cons_self ..
    exact Digits.ne_of_isDigit (Digits.isDigit_of_mem_ofNat hplus) (by decide) rfl
  · intro heq
    by_cases hn : n = 0
    · rw [hn, Digits.ofNat_of_lt (by decide)] at heq
      exact hindex.ne_nil (List.cons.inj heq).2.symm
    · have hhead : (Digits.ofNat 10 n).head? = some '0' := by rw [heq, List.head?_cons]
      exact Digits.ofNat_head (by decide) (Nat.pos_of_ne_zero hn) hhead

/-- An index that is not respelled is written as its number is. -/
private theorem ofNat_of_not_isRespelled {cs : List Char} {n : Nat}
    (hread : Digits.readIndex? cs = some n)
    (h : ∀ digits, ¬ IsRespelled cs digits) : Digits.ofNat 10 n = cs := by
  obtain ⟨digits, rfl | rfl, hindex, rfl⟩ := Digits.readIndex?_eq_some_iff.mp hread
  · refine Digits.ofNat_value hindex.ne_nil hindex.isDigit fun rest heq => ?_
    by_contra hrest
    subst heq
    exact h rest ⟨'0', .inr rfl, rfl, (isIndex_zero_cons_iff hrest).mp hindex⟩
  · exact absurd ⟨'+', .inl rfl, rfl, hindex⟩ (h digits)

/-- A key leads to the member of another name exactly if it is a respelled index. -/
theorem memberName_eq_self_iff {key : String} :
    memberName key = key ↔ ∀ digits, ¬ IsRespelled key.toList digits := by
  rw [memberName]
  constructor
  · intro heq digits hrespelled
    rw [hrespelled.readIndex?_eq] at heq
    refine hrespelled.ne_ofNat (Digits.value 10 digits) ?_
    rw [← heq, String.toList_ofList]
  · intro h
    cases hread : Digits.readIndex? key.toList with
    | none => rfl
    | some n =>
      show String.ofList (Digits.ofNat 10 n) = key
      rw [ofNat_of_not_isRespelled hread h, String.ofList_toList]

/-- A key is a path to the member of that name in every object, exactly if it is no index with a
plus or a zero in front of its digits. Such a one leads to the member named by its number. -/
theorem resolve_key_iff {key : String} (h : IsKey key) :
    ((∀ members : Members Value, resolve (.object members) key = .ok (members.get? key)) ↔
      ∀ digits, ¬ IsRespelled key.toList digits) ∧
    ∀ digits, IsRespelled key.toList digits → ∀ members : Members Value,
      resolve (.object members) key =
        .ok (members.get? (String.ofList (Digits.ofNat 10 (Digits.value 10 digits)))) := by
  simp only [h.resolve_eq, Except.ok.injEq]
  refine ⟨?_, fun digits hrespelled members => ?_⟩
  · rw [← memberName_eq_self_iff]
    refine ⟨fun hall => ?_, fun heq members => by rw [heq]⟩
    have hsingle := hall [(key, .null)]
    by_contra hne
    have hfound : Members.get? key [(key, Value.null)] = some .null := by simp [Members.get?]
    have hnone : Members.get? (memberName key) [(key, Value.null)] = none := by
      simp [Members.get?, List.lookup_cons, beq_eq_false_iff_ne.mpr hne]
    rw [hfound, hnone] at hsingle
    cases hsingle
  · rw [memberName, hrespelled.readIndex?_eq]

theorem resolve_key_signed : IsKey "+7" ∧ IsRespelled "+7".toList ['7'] ∧
    resolve (.object [("+7", .null), ("7", .bool true)]) "+7" = .ok (some (.bool true)) := by
  have hkey : IsKey "+7" := by decide
  have hindex : Digits.IsIndex ['7'] :=
    { ne_nil := by decide
      isDigit := List.forall_mem_singleton.mpr (by decide)
      fits := by decide }
  have hrespelled : IsRespelled "+7".toList ['7'] := ⟨'+', .inl rfl, rfl, hindex⟩
  have hname : String.ofList (Digits.ofNat 10 (Digits.value 10 ['7'])) = "7" := by decide +kernel
  have hfound := (resolve_key_iff hkey).2 ['7'] hrespelled [("+7", .null), ("7", .bool true)]
  rw [hname] at hfound
  exact ⟨hkey, hrespelled, hfound⟩

/-- The member `07` of an object is not found by its key. -/
theorem key_not_found_zero : IsKey "07" ∧
    resolve (.object [("07", .bool true)]) "07" = .ok none ∧
    Members.get? "07" [("07", Value.bool true)] = some (.bool true) := by
  have hkey : IsKey "07" := by decide
  have hname : memberName "07" = "7" := by decide +kernel
  refine ⟨hkey, ?_, rfl⟩
  rw [hkey.resolve_eq, hname]
  rfl

end LiveText.Path
