import LiveText.Engine.Session
import LiveText.Proofs.Binding.Tokens
import LiveText.Proofs.Engine.Filling

/-!
# The cache of a session

Whatever a session has in its cache for a template, unless a caller put it there, is what the parser
says of the template: `Uninserted.entry_eq`. So the cache shows in no text: every text of a session
is that of a session without a cache at the same states and random draws, `cache_transparent`.
-/

namespace LiveText

namespace Action

/-- Whether a use puts bindings of the caller's own into the cache for a template. -/
def Inserts (template : String) : Action → Prop
  | .insert t _ => t = template
  | _ => False

end Action

namespace Session

/-- The bindings that the parser finds in a template. -/
def parsed (e : Engine) (template : String) : List Binding := (e.parse template).1.getD []

/-- Under the default parser, these are the bindings of the bound candidates. -/
theorem parsed_eq {e : Engine} {limit : Nat} (hparse : e.parse = Binding.parse limit)
    (template : String) : parsed e template =
      (Binding.bound limit template).map fun inner => (Binding.ofInner template inner).1 := by
  rw [parsed, hparse, Binding.parse_getD]

/-- The sessions whose cache has nothing for a template that a caller put there: those reached from
one without an entry for it by uses that insert none. -/
inductive Uninserted (e : Engine) (template : String) : Session → Prop where
  | start {s : Session} (h : s.cache.get? template = none) : Uninserted e template s
  | step {s : Session} {a : Action} (h : Uninserted e template s) (ha : ¬ a.Inserts template) :
      Uninserted e template (s.step e a).2

/-- A session without a cache, with the states and the draws of another: whatever is asked of it is
parsed anew. -/
def fresh (s : Session) : Session := { states := s.states, editing := true, draws := s.draws }

/-- Bindings are taken from the cache or parsed, and only parsing enters them. -/
theorem bindings_cases (e : Engine) (template : String) (s : Session) :
    (s.cache.get? template = some (s.bindings e template).1 ∧
      (s.bindings e template).2.2 = s) ∨
    ((s.bindings e template).1 = parsed e template ∧
      (s.bindings e template).2.2 = { s with
        cache := if s.editing then s.cache else s.cache.insert template (parsed e template)
        parses := s.parses + 1 }) := by
  unfold bindings
  split
  · rename_i found h
    left
    by_cases hediting : s.editing = true
    · simp [hediting] at h
    · simp only [hediting, Bool.false_eq_true, ite_false] at h
      exact ⟨h, rfl⟩
  · exact Or.inr ⟨rfl, rfl⟩

/-- Looking for bindings changes at most the entry of their template, to what is parsed. -/
theorem get?_cache_bindings (e : Engine) (template other : String) (s : Session) :
    (s.bindings e template).2.2.cache.get? other = s.cache.get? other ∨
    (other = template ∧
      (s.bindings e template).2.2.cache.get? other = some (parsed e template)) := by
  rcases bindings_cases e template s with ⟨-, hs⟩ | ⟨-, hs⟩
  · rw [hs]
    exact Or.inl rfl
  · rw [hs]
    by_cases hediting : s.editing = true
    · left
      simp only [hediting, ite_true]
    · simp only [hediting, Bool.false_eq_true, ite_false]
      by_cases hother : other = template
      · subst hother
        exact Or.inr ⟨rfl, Members.get?_insert_self ..⟩
      · exact Or.inl (Members.get?_insert_of_ne hother ..)

/-- A use that inserts nothing for a template leaves its entry, removes it or makes it the parsed
one. -/
theorem get?_cache_step {e : Engine} {template : String} {a : Action}
    (ha : ¬ a.Inserts template) (s : Session) :
    (s.step e a).2.cache.get? template = s.cache.get? template ∨
    (s.step e a).2.cache.get? template = none ∨
    (s.step e a).2.cache.get? template = some (parsed e template) := by
  cases a with
  | format t r =>
    rcases get?_cache_bindings e t template s with h | ⟨rfl, h⟩
    · exact Or.inl h
    · exact Or.inr (Or.inr h)
  | bindings t =>
    rcases get?_cache_bindings e t template s with h | ⟨rfl, h⟩
    · exact Or.inl h
    · exact Or.inr (Or.inr h)
  | insert t found => exact Or.inl (Members.get?_insert_of_ne (fun h => ha h.symm) ..)
  | clear => exact Or.inr (Or.inl rfl)
  | lookup state r => exact Or.inl rfl
  | edit on => exact Or.inl rfl
  | set state v => exact Or.inl rfl
  | remove state => exact Or.inl rfl

/-- An entry that no caller put there is the parsed one. -/
theorem Uninserted.entry_eq {e : Engine} {template : String} {s : Session}
    (h : Uninserted e template s) {found : List Binding}
    (hfound : s.cache.get? template = some found) : found = parsed e template := by
  induction h with
  | start hnone =>
    rw [hnone] at hfound
    cases hfound
  | @step s a _ ha ih =>
    rcases get?_cache_step ha s with hkept | hnone | hparsed
    · exact ih (hkept.symm.trans hfound)
    · rw [hnone] at hfound
      cases hfound
    · rw [hparsed] at hfound
      exact (Option.some.inj hfound).symm

/-- Uses that insert nothing for a template lead on to sessions of the same kind. -/
theorem Uninserted.run {e : Engine} {template : String} {s : Session}
    (h : Uninserted e template s) {actions : List Action}
    (hactions : ∀ a ∈ actions, ¬ a.Inserts template) :
    Uninserted e template (Session.run e actions s).2 := by
  induction actions generalizing s with
  | nil => exact h
  | cons a actions ih =>
    have hstep := h.step (hactions a (List.mem_cons_self ..))
    exact ih hstep fun b hb => hactions b (List.mem_cons_of_mem a hb)

/-- The bindings of a template are the parsed ones unless a caller put others into the cache. -/
theorem Uninserted.bindings_eq {e : Engine} {template : String} {s : Session}
    (h : Uninserted e template s) : (s.bindings e template).1 = parsed e template := by
  rcases bindings_cases e template s with ⟨hcached, -⟩ | ⟨hparsed, -⟩
  · exact h.entry_eq hcached
  · exact hparsed

/-- The text of a template: its bindings' tokens replaced by their texts, one after another, and
literal braces written once. -/
theorem format_text (e : Engine) (template : String) (r : Request) (s : Session) :
    (s.format e template r).1 = String.ofList (Template.unescapeChars (Text.replaceEach
      (((s.bindings e template).1.map fun b => b.token.toList).zip
        (e.texts s.states r (s.bindings e template).1 s.draws)) template.toList)) := by
  have hframe : (s.bindings e template).2.2.states = s.states ∧
      (s.bindings e template).2.2.draws = s.draws := by
    rcases bindings_cases e template s with ⟨-, hs⟩ | ⟨-, hs⟩ <;> rw [hs] <;> exact ⟨rfl, rfl⟩
  have hfill := Engine.fill_run e (s.bindings e template).2.2.states r template
    (s.bindings e template).1 (s.bindings e template).2.1 (s.bindings e template).2.2.draws
  rw [hframe.1, hframe.2] at hfill
  rw [← hfill]
  unfold format
  simp only [hframe.1, hframe.2]
  rfl

/-- The text of a template is the same in a fresh session unless a caller put bindings for it into
the cache. -/
theorem Uninserted.format_eq_fresh {e : Engine} {template : String} {s : Session}
    (h : Uninserted e template s) (r : Request) :
    (s.format e template r).1 = (s.fresh.format e template r).1 := by
  have hfresh : Uninserted e template s.fresh := .start rfl
  rw [format_text, format_text, h.bindings_eq, hfresh.bindings_eq]
  rfl

/-- A run answers its first use and goes on from there. -/
theorem run_cons (e : Engine) (a : Action) (rest : List Action) (s : Session) :
    run e (a :: rest) s =
      ((s.step e a).1 :: (run e rest (s.step e a).2).1, (run e rest (s.step e a).2).2) := rfl

/-- What a run answers to a use is what the session reached by then answers. -/
theorem run_answer (e : Engine) (before after : List Action) (a : Action) (s : Session) :
    (run e (before ++ a :: after) s).1[before.length]? =
      some ((run e before s).2.step e a).1 := by
  induction before generalizing s with
  | nil => rw [List.nil_append, run_cons]; rfl
  | cons b before ih =>
    rw [List.cons_append, run_cons, List.length_cons, List.getElem?_cons_succ, ih]
    rfl

/-- Along every run from an empty cache without insertions, each entry of the cache is what the
parser says of its template, and each text is that of a fresh session with the states and draws of
the moment, both for the templates that are asked for in the run and for any asked for after it. -/
theorem cache_transparent (e : Engine) {s₀ : Session} (h₀ : s₀.cache = [])
    {actions : List Action} (hactions : ∀ a ∈ actions, ∀ template, ¬ a.Inserts template) :
    (∀ template found, (run e actions s₀).2.cache.get? template = some found →
      found = (e.parse template).1.getD []) ∧
    (∀ template r, ((run e actions s₀).2.format e template r).1 =
      ((run e actions s₀).2.fresh.format e template r).1) ∧
    ∀ before template r after, actions = before ++ .format template r :: after →
      ∃ notices, (run e actions s₀).1[before.length]? =
        some (.text ((run e before s₀).2.fresh.format e template r).1 notices) := by
  have hstart (template : String) : Uninserted e template s₀ := .start (by rw [h₀]; rfl)
  refine ⟨?_, ?_, ?_⟩
  · intro template found hfound
    exact ((hstart template).run fun a ha => hactions a ha template).entry_eq hfound
  · intro template r
    exact ((hstart template).run fun a ha => hactions a ha template).format_eq_fresh r
  · rintro before template r after rfl
    have hbefore : ∀ a ∈ before, ¬ a.Inserts template :=
      fun a ha => hactions a (List.mem_append_left _ ha) template
    refine ⟨((run e before s₀).2.format e template r).2.1, ?_⟩
    rw [run_answer, ← ((hstart template).run hbefore).format_eq_fresh r]
    rfl

/-- Uses that ask for a template before, while and after it is edited, with a cleared cache between,
and change its state each time. -/
def mixedUses : List Action :=
  [.set "a" (.string "1"), .format "{a}" {}, .edit true, .set "a" (.string "2"), .bindings "{a}",
    .format "{a}" {}, .clear, .edit false, .format "{a}" {}, .set "a" (.string "3")]

theorem cache_transparent_mixedUses :
    ({} : Session).cache = [] ∧
    (∀ a ∈ mixedUses, ∀ template, ¬ a.Inserts template) ∧
    ((run (Engine.plain 50) mixedUses {}).2.cache.get? "{a}").isSome = true ∧
    ((run (Engine.plain 50) mixedUses {}).2.format (Engine.plain 50) "{a}" {}).1 = "3" := by
  have hempty : ({} : Session).cache = [] := rfl
  have hactions : ∀ a ∈ mixedUses, ∀ template, ¬ a.Inserts template := by
    simp [mixedUses, Action.Inserts]
  refine ⟨hempty, hactions, by decide, ?_⟩
  rw [(cache_transparent (Engine.plain 50) hempty hactions).2.1]
  decide +kernel

end Session

end LiveText
