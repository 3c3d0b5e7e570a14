import LiveText.Proofs.Session.Cache

/-!
# Calls of the parser

A use has the parser called once if it asks for a template that is being edited or has no entry in
the cache, and no other use has. `Frame` says this of one use, with what the use may do to the
cache, and `frame_step` that it holds of every use. A template with an entry keeps one until the
cache is cleared; so between two clears the parser is called at most once for each template that is
not being edited, and never for one that the host has inserted: `parser_called_once`.
-/

namespace LiveText

namespace Action

/-- The template whose bindings a use asks for. -/
def asked? : Action → Option String
  | .format template _ | .bindings template => some template
  | _ => none

end Action

namespace Session

/-- Whether the cache has an entry for a template. -/
def Cached (s : Session) (template : String) : Prop := (s.cache.get? template).isSome = true

/-- What a use may do to the count of the parser's calls and to the cache. -/
structure Frame (e : Engine) (a : Action) (s s' : Session) : Prop where
  /-- While templates are edited, or if it has no entry, a template is parsed once. -/
  parsed : ∀ t, a.asked? = some t → s.editing = true ∨ ¬ s.Cached t → s'.parses = s.parses + 1
  /-- Otherwise it is not parsed. -/
  found : ∀ t, a.asked? = some t → s.editing = false → s.Cached t → s'.parses = s.parses
  /-- No other use has anything parsed. -/
  unasked : a.asked? = none → s'.parses = s.parses
  /-- While templates are edited, asking for them leaves the cache as it is. -/
  editing : ∀ t, a.asked? = some t → s.editing = true → s'.cache = s.cache
  /-- So does asking for a template that has an entry. -/
  kept : ∀ t, a.asked? = some t → s.Cached t → s'.cache = s.cache
  /-- Any other template gets an entry: what the parser has just found, or nothing. -/
  entered : ∀ t, a.asked? = some t → s.editing = false → ¬ s.Cached t →
    s'.cache = s.cache.insert t ((e.parse t).1.getD [])
  /-- Asking for a template overwrites no entry. -/
  entries : ∀ t, a.asked? = some t → ∀ other found, s.cache.get? other = some found →
    s'.cache.get? other = some found
  /-- Editing, looking up and changes of states leave the cache as it is. -/
  untouched : (∃ on, a = .edit on) ∨ (∃ state r, a = .lookup state r) ∨
    (∃ state v, a = .set state v) ∨ (∃ state, a = .remove state) → s'.cache = s.cache
  /-- Only clearing takes entries away. -/
  cached : a ≠ .clear → ∀ t, s.Cached t → s'.Cached t

variable {e : Engine} {a : Action} {s : Session} {t : String}

/-- A template that has an entry and is not edited is not parsed. -/
theorem bindings_found (hediting : s.editing = false) (h : s.Cached t) :
    (s.bindings e t).2.2 = s := by
  obtain ⟨found, hfound⟩ := Option.isSome_iff_exists.mp h
  simp [bindings, hediting, hfound]

/-- Any other template is parsed, and entered unless it is edited. -/
theorem bindings_parsed (h : s.editing = true ∨ ¬ s.Cached t) :
    (s.bindings e t).2.2 = { s with
      cache := if s.editing then s.cache else s.cache.insert t (Session.parsed e t)
      parses := s.parses + 1 } := by
  have hnone : (if s.editing then none else s.cache.get? t) = none := by
    rcases h with hediting | hnone
    · rw [if_pos hediting]
    · simpa [Cached] using fun _ => hnone
  unfold bindings
  rw [hnone]
  rfl

/-- What a use does that asks for a template is to look for its bindings. -/
theorem step_asked (h : a.asked? = some t) :
    (s.step e a).2.parses = (s.bindings e t).2.2.parses ∧
      (s.step e a).2.cache = (s.bindings e t).2.2.cache := by
  cases a with
  | format template r =>
    cases h
    exact ⟨rfl, rfl⟩
  | bindings template =>
    cases h
    exact ⟨rfl, rfl⟩
  | _ => cases h

/-- A template that has an entry leaves the cache as it is, whether it is edited or not. -/
theorem cache_of_cached (ha : a.asked? = some t) (h : s.Cached t) :
    (s.step e a).2.cache = s.cache := by
  rw [(step_asked ha).2]
  by_cases hediting : s.editing = true
  · rw [bindings_parsed (Or.inl hediting), if_pos hediting]
  · rw [bindings_found (Bool.eq_false_iff.mpr hediting) h]

/-- Any other template is entered unless it is edited. -/
theorem cache_of_not_cached (ha : a.asked? = some t) (h : ¬ s.Cached t) :
    (s.step e a).2.cache =
      if s.editing then s.cache else s.cache.insert t (Session.parsed e t) := by
  rw [(step_asked ha).2, bindings_parsed (Or.inr h)]

/-- Asking for a template overwrites no entry. -/
theorem get?_cache_asked (ha : a.asked? = some t) {other : String} (h : s.Cached other) :
    (s.step e a).2.cache.get? other = s.cache.get? other := by
  by_cases ht : s.Cached t
  · rw [cache_of_cached ha ht]
  · rw [cache_of_not_cached ha ht]
    split
    · rfl
    · have hne : other ≠ t := by
        rintro rfl
        exact ht h
      exact Members.get?_insert_of_ne hne ..

/-- Every use that does not clear the cache leaves an entry for each template that has one. -/
theorem cached_step (ha : a ≠ .clear) (h : s.Cached t) : (s.step e a).2.Cached t := by
  cases hasked : a.asked? with
  | some other =>
    rw [Cached, get?_cache_asked hasked h]
    exact h
  | none =>
    cases a with
    | insert other found =>
      by_cases ht : t = other
      · subst ht
        exact Option.isSome_iff_exists.mpr ⟨found, Members.get?_insert_self ..⟩
      · have hkept : (s.step e (.insert other found)).2.cache.get? t = s.cache.get? t :=
          Members.get?_insert_of_ne ht ..
        rw [Cached, hkept]
        exact h
    | clear => exact absurd rfl ha
    | format template r => cases hasked
    | bindings template => cases hasked
    | lookup state r | edit on | set state v | remove state => exact h

/-- Every use keeps to its frame. -/
theorem frame_step (e : Engine) (a : Action) (s : Session) : Frame e a s (s.step e a).2 where
  parsed t ha h := by rw [(step_asked ha).1, bindings_parsed h]
  found t ha hediting h := by rw [(step_asked ha).1, bindings_found hediting h]
  unasked ha := by
    cases a with
    | format template r | bindings template => cases ha
    | _ => rfl
  editing t ha hediting := by
    rw [(step_asked ha).2, bindings_parsed (Or.inl hediting), if_pos hediting]
  kept t ha h := cache_of_cached ha h
  entered t ha hediting h := by
    rw [cache_of_not_cached ha h, hediting]
    rfl
  entries t ha other found h := by
    rw [get?_cache_asked ha (Option.isSome_iff_exists.mpr ⟨found, h⟩), h]
  untouched h := by
    rcases h with ⟨on, rfl⟩ | ⟨state, r, rfl⟩ | ⟨state, v, rfl⟩ | ⟨state, rfl⟩ <;> rfl
  cached ha t h := cached_step ha h

/-! ### Uses one after another -/

/-- A use, with the engine as it is at the time: a parser need not answer the same each time. -/
abbrev Use := Engine × Action

/-- The session after uses in order. -/
def after (s : Session) (uses : List Use) : Session := uses.foldl (fun s u => (s.step u.1 u.2).2) s

/-- A run of one engine leads where its uses do. -/
theorem run_eq_after (e : Engine) (actions : List Action) (s : Session) :
    (run e actions s).2 = s.after (actions.map (e, ·)) := by
  induction actions generalizing s with
  | nil => rfl
  | cons a actions ih => exact ih (s.step e a).2

/-- The call of the parser in a use: the template, and whether templates are edited. -/
def call? (e : Engine) (a : Action) (s : Session) : Option (String × Bool) :=
  if (s.step e a).2.parses = s.parses then none else a.asked?.map (·, s.editing)

/-- The calls of the parser along uses. -/
def parserCalls (s : Session) : List Use → List (String × Bool)
  | [] => []
  | (e, a) :: rest => (call? e a s).toList ++ parserCalls (s.step e a).2 rest

/-- A call is one for the template that is asked for, if that is edited or has no entry. -/
theorem call?_eq_some_iff {editing : Bool} :
    call? e a s = some (t, editing) ↔
      a.asked? = some t ∧ s.editing = editing ∧ (s.editing = true ∨ ¬ s.Cached t) := by
  have frame := frame_step e a s
  cases hasked : a.asked? with
  | none => simp [call?, frame.unasked hasked]
  | some asked =>
    by_cases hparsed : s.editing = true ∨ ¬ s.Cached asked
    · have hcall : call? e a s = some (asked, s.editing) := by
        rw [call?, frame.parsed asked hasked hparsed, if_neg (Nat.succ_ne_self _), hasked]
        rfl
      rw [hcall]
      constructor
      · rintro ⟨⟩
        exact ⟨rfl, rfl, hparsed⟩
      · rintro ⟨⟨⟩, rfl, -⟩
        rfl
    · have hfound : s.editing = false ∧ s.Cached asked := by
        simpa only [not_or, Classical.not_not, Bool.not_eq_true] using hparsed
      have hcall : call? e a s = none := if_pos (frame.found asked hasked hfound.1 hfound.2)
      rw [hcall]
      constructor
      · nofun
      · rintro ⟨⟨⟩, -, h⟩
        exact absurd h hparsed

/-- The parser is called as often as the session counts. -/
theorem parses_after (s : Session) (uses : List Use) :
    (s.after uses).parses = s.parses + (s.parserCalls uses).length := by
  induction uses generalizing s with
  | nil => rfl
  | cons u uses ih =>
    obtain ⟨e, a⟩ := u
    have hrest : (s.after ((e, a) :: uses)).parses =
        (s.step e a).2.parses + ((s.step e a).2.parserCalls uses).length := ih _
    have hstep : (s.step e a).2.parses = s.parses + (call? e a s).toList.length := by
      cases hcall : call? e a s with
      | some call =>
        obtain ⟨hasked, -, hparsed⟩ := call?_eq_some_iff.mp hcall
        exact (frame_step e a s).parsed _ hasked hparsed
      | none =>
        by_cases heq : (s.step e a).2.parses = s.parses
        · exact heq
        · rw [call?, if_neg heq, Option.map_eq_none_iff] at hcall
          exact absurd ((frame_step e a s).unasked hcall) heq
    rw [hrest, hstep, parserCalls, List.length_append, Nat.add_assoc]

/-- A template that has an entry is not parsed outside editing until the cache is cleared. -/
theorem not_mem_parserCalls {uses : List Use} (hclear : ∀ u ∈ uses, u.2 ≠ .clear)
    (h : s.Cached t) : (t, false) ∉ s.parserCalls uses := by
  induction uses generalizing s with
  | nil => exact List.not_mem_nil
  | cons u uses ih =>
    obtain ⟨e, a⟩ := u
    obtain ⟨ha, huses⟩ := List.forall_mem_cons.mp hclear
    rw [parserCalls, List.mem_append, Option.mem_toList]
    rintro (hcall | hrest)
    · obtain ⟨-, hediting, hparsed⟩ := call?_eq_some_iff.mp hcall
      rw [hediting] at hparsed
      exact hparsed.elim Bool.false_ne_true fun hnone => hnone h
    · exact ih huses (cached_step ha h) hrest

/-- Until the cache is cleared, a template is parsed at most once outside editing. -/
theorem count_parserCalls_le {uses : List Use} (hclear : ∀ u ∈ uses, u.2 ≠ .clear) (t : String) :
    (s.parserCalls uses).count (t, false) ≤ 1 := by
  induction uses generalizing s with
  | nil => exact Nat.zero_le 1
  | cons u uses ih =>
    obtain ⟨e, a⟩ := u
    obtain ⟨ha, huses⟩ := List.forall_mem_cons.mp hclear
    rw [parserCalls, List.count_append]
    by_cases hcall : call? e a s = some (t, false)
    · -- the call enters the template, so there is none after it
      obtain ⟨hasked, hediting, hparsed⟩ := call?_eq_some_iff.mp hcall
      have hnone : ¬ s.Cached t := hparsed.resolve_left (by rw [hediting]; decide)
      have hcached : (s.step e a).2.Cached t := by
        rw [Cached, (frame_step e a s).entered t hasked hediting hnone, Members.get?_insert_self]
        rfl
      have hrest := List.count_eq_zero.mpr (not_mem_parserCalls huses hcached)
      rw [hcall, hrest]
      simp
    · have hfirst : (call? e a s).toList.count (t, false) = 0 := by
        rw [List.count_eq_zero, Option.mem_toList]
        exact hcall
      rw [hfirst, Nat.zero_add]
      exact ih huses

/-- Along uses in any order, each use keeps to its frame, and the parser is called as often as the
session counts. Between two clears, outside editing, it is called at most once for each template,
and not at all for one that has an entry before or that the host has inserted. -/
theorem parser_called_once (s : Session) (uses : List Use) :
    (∀ before e a rest, uses = before ++ (e, a) :: rest →
      Frame e a (s.after before) (s.after (before ++ [(e, a)]))) ∧
    (s.after uses).parses = s.parses + (s.parserCalls uses).length ∧
    (∀ before stretch rest, uses = before ++ stretch ++ rest →
      (∀ u ∈ stretch, u.2 ≠ .clear) → ∀ t,
        ((s.after before).parserCalls stretch).count (t, false) ≤ 1 ∧
        ((s.after before).Cached t → (t, false) ∉ (s.after before).parserCalls stretch)) ∧
    ∀ before e t found stretch rest, uses = before ++ (e, .insert t found) :: stretch ++ rest →
      (∀ u ∈ stretch, u.2 ≠ .clear) →
        (t, false) ∉ (s.after (before ++ [(e, .insert t found)])).parserCalls stretch := by
  have hnext (before : List Use) (e : Engine) (a : Action) :
      s.after (before ++ [(e, a)]) = ((s.after before).step e a).2 := List.foldl_append ..
  refine ⟨?_, parses_after s uses, ?_, ?_⟩
  · intro before e a rest _
    rw [hnext]
    exact frame_step e a _
  · intro before stretch rest _ hclear t
    exact ⟨count_parserCalls_le hclear t, not_mem_parserCalls hclear⟩
  · intro before e t found stretch rest _ hclear
    apply not_mem_parserCalls hclear
    rw [hnext]
    exact Option.isSome_iff_exists.mpr ⟨found, Members.get?_insert_self ..⟩

/-- Uses with entries that a host inserts and that editing leaves behind: only `{a}`, before and
while it is edited, and the template without bindings are parsed. -/
def hostedUses : List Use :=
  [.insert "{b}" [], .format "{a}" {}, .edit true, .bindings "{a}", .edit false, .bindings "{a}",
    .format "{b}" {}, .set "a" (.string "1"), .format "plain" {}, .bindings "plain"].map
      (Engine.plain 50, ·)

theorem parser_called_once_hosted :
    (∀ u ∈ hostedUses, u.2 ≠ .clear) ∧
    Session.parserCalls {} hostedUses = [("{a}", false), ("{a}", true), ("plain", false)] ∧
    (Session.after {} hostedUses).parses = 3 ∧
    ("{b}", false) ∉ (Session.after {} (hostedUses.take 1)).parserCalls (hostedUses.drop 1) := by
  have hclear : ∀ u ∈ hostedUses, u.2 ≠ .clear := by simp [hostedUses]
  have hcalls : Session.parserCalls {} hostedUses =
      [("{a}", false), ("{a}", true), ("plain", false)] := by decide
  have honce := parser_called_once {} hostedUses
  refine ⟨hclear, hcalls, ?_, ?_⟩
  · rw [honce.2.1, hcalls]
    rfl
  · exact honce.2.2.2 [] (Engine.plain 50) "{b}" [] (hostedUses.drop 1) [] rfl
      fun u hu => hclear u (List.mem_of_mem_drop hu)

end Session

end LiveText
