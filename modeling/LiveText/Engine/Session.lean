import LiveText.Engine.Format

/-!
# Sessions

A session keeps what changes while an engine is in use: the live states, the cache of parsed
templates, and whether templates are being edited. While they are, the cache is neither read nor
written. Nothing but clearing takes entries out of the cache.
-/

namespace LiveText

/-- What changes while an engine is in use. -/
structure Session where
  states : States := []
  /-- The bindings of the templates parsed so far. -/
  cache : Members (List Binding) := []
  editing : Bool := false
  /-- How many times a template was parsed. -/
  parses : Nat := 0
  /-- The random draws taken. -/
  draws : Nat := 0

/-- A use of an engine. -/
inductive Action where
  | format (template : String) (request : Request)
  | bindings (template : String)
  | lookup (state : String) (request : Request)
  | insert (template : String) (bindings : List Binding)
  | clear
  | edit (on : Bool)
  | set (state : String) (value : Value)
  | remove (state : String)

/-- What a use of an engine answers. -/
inductive Answer where
  | text (text : String) (notices : List Notice)
  | bindings (bindings : List Binding) (notices : List Notice)
  | value (value : Value)
  | done

namespace Session

/-- The bindings of a template, from the cache if it may be used and has them. -/
def bindings (e : Engine) (template : String) (s : Session) :
    List Binding × List Notice × Session :=
  match if s.editing then none else s.cache.get? template with
  | some found => (found, [], s)
  | none =>
    let (parsed, notices) := e.parse template
    let found := parsed.getD []
    let cache := if s.editing then s.cache else s.cache.insert template found
    (found, notices, { s with cache := cache, parses := s.parses + 1 })

/-- The text of a template. -/
def format (e : Engine) (template : String) (r : Request) (s : Session) :
    String × List Notice × Session :=
  let (found, notices, s) := s.bindings e template
  let (text, trail) := (e.fill s.states r template found).run { notices, draws := s.draws }
  (text, trail.notices, { s with draws := trail.draws })

/-- One use of an engine. -/
def step (e : Engine) (a : Action) (s : Session) : Answer × Session :=
  match a with
  | .format template r =>
    let (text, notices, s) := s.format e template r
    (.text text notices, s)
  | .bindings template =>
    let (found, notices, s) := s.bindings e template
    (.bindings found notices, s)
  | .lookup state r => (.value (e.lookup s.states r state), s)
  | .insert template found => (.done, { s with cache := s.cache.insert template found })
  | .clear => (.done, { s with cache := [] })
  | .edit on => (.done, { s with editing := on })
  | .set state v => (.done, { s with states := s.states.insert state v })
  | .remove state => (.done, { s with states := s.states.erase state })

/-- Uses of an engine in order. -/
def run (e : Engine) : List Action → Session → List Answer × Session
  | [], s => ([], s)
  | a :: rest, s =>
    let (answer, s) := s.step e a
    let (answers, s) := run e rest s
    (answer :: answers, s)

end Session

end LiveText
