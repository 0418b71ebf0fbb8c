import MarkupQuery.Selector.Cache
import MarkupQuery.Settings.Basic

/-!
# Sessions

A session is everything that one call can leave behind for the next: the sightings of the caller's
functions, the selector caches, the settings and the journal. Every session has one shared cache;
others are opened as needed.
-/

namespace MarkupQuery

/-- Which cache a call goes through. -/
inductive CacheId where
  | shared
  | opened (index : Nat)
  deriving DecidableEq, Repr, Inhabited

structure Session where
  trace : Trace := {}
  shared : Cache := {}
  opened : List Cache := []
  settings : Settings := {}
  journal : Journal := default
  deriving Inhabited

/-- A computation in a session. What it did before failing stays done. -/
abbrev Action := ExceptT Failure (StateM Session)

namespace Session

/-- The cache with the given id. -/
def cache (s : Session) : CacheId → Cache
  | .shared => s.shared
  | .opened i => s.opened[i]?.getD {}

/-- Puts a cache in the place of the given id. -/
def setCache (s : Session) (id : CacheId) (c : Cache) : Session :=
  match id with
  | .shared => { s with shared := c }
  | .opened i => { s with opened := s.opened.set i c }

/-- Opens a further cache with a flag of its own. -/
def openCache (s : Session) (flag : Option Bool) : CacheId × Session :=
  (.opened s.opened.length, { s with opened := s.opened ++ [{ flag }] })

/-- The statistics of a cache. -/
def cacheStats (s : Session) (id : CacheId) : CacheStats :=
  (s.cache id).stats s.settings.cacheEnabled

end Session

namespace Action

/-- Runs a caller's function; its sightings go to the session. -/
def ofProbe {α : Type} (p : Probe α) : Action α :=
  ExceptT.mk fun s =>
    let (result, trace) := p.run s.trace
    (result, { s with trace })

/-- A result that is already known. -/
def ofExcept {α : Type} (e : Except Failure α) : Action α :=
  match e with
  | .ok a => pure a
  | .error f => throw f

/-- Makes a journal event. -/
def log (level : Level) (logger text : String) (fields : Fields) : Action Unit :=
  modify fun s => { s with journal := s.journal.record level logger text fields }

/-- Compiles a query through a cache. A new entry is noted in the journal. -/
def compile (id : CacheId) (q : Query) : Action Selector := do
  let s ← get
  let answer := (s.cache id).compile s.settings.cacheEnabled q
  set (s.setCache id answer.cache)
  match answer.added with
  | some key =>
    log .debug "chisel.selectors.compiler" "Compiled selector"
      [("chain", .text (String.intercalate " " key)), ("cache_size", .whole answer.cache.size)]
  | none => pure ()
  ofExcept answer.result

/-- The outcome of an action as a value; the action's failure is no failure here. -/
def outcome {α : Type} (a : Action α) : Action (Except Failure α) :=
  ExceptT.mk fun s =>
    let (result, s') := a.run s
    (.ok result, s')

/-- The outcome of an action as a value, unless it asks for the program to end. -/
def attempt {α : Type} (a : Action α) : Action (Except Failure α) :=
  ExceptT.mk fun s =>
    let (result, s') := a.run s
    (Failure.caught result, s')

/-- Runs an action with fields bound for its events. Afterwards, also after a failure, the fields
are bound as they were. This is the documented behaviour of the journal's package, which is assumed
here. -/
def withBound {α : Type} (fields : Fields) (a : Action α) : Action α := do
  let before := (← get).journal.bound
  let saved := before.filter fun p => (fields.find? p.1).isSome
  modify fun s => { s with journal := s.journal.bind fields }
  let result ← outcome a
  modify fun s => { s with journal := (s.journal.unbind (fields.map Prod.fst)).bind saved }
  ofExcept result

end Action
end MarkupQuery
