import MarkupQuery.Extraction.Pipeline
import MarkupQuery.Markup.Parsing

/-!
# Engines

An engine has settings, a selector cache and counters of its own, so that engines with different
caches never notice each other. It counts parses and extractions when they are asked for, and
selections with their matches when they have succeeded.
-/

namespace MarkupQuery

/-- What an engine has counted since it was made or reset. -/
structure Metrics where
  parses : Nat := 0
  selections : Nat := 0
  matchCount : Nat := 0
  extractions : Nat := 0
  deriving DecidableEq, Repr, Inhabited

/-- Settings, a cache and counters. Without settings of its own, an engine follows the session's. -/
structure Engine where
  settings : Option Settings
  cache : CacheId
  metrics : Metrics := {}
  deriving Inhabited

/-- A computation that may also count. What it counted before failing stays counted. -/
abbrev EngineAction := StateT Engine (StateM Session)

namespace Engine

/-- An engine with a fresh cache, enabled as its settings say, or with the cache that is given. -/
def make (settings : Option Settings) (shared : Option CacheId) : StateM Session Engine := do
  let session ← get
  match shared with
  | some cache => pure { settings, cache }
  | none =>
    let (cache, session) := session.openCache (some (settings.getD session.settings).cacheEnabled)
    set session
    pure { settings, cache }

/-- Changes the counters. -/
def count (change : Metrics → Metrics) : EngineAction Unit :=
  modify fun e => { e with metrics := change e.metrics }

/-- Runs an action of the session; its outcome is the answer. -/
def perform {α : Type} (a : Action α) : EngineAction (Except Failure α) :=
  StateT.lift a.run

/-- The session that the engine works in. -/
def session : EngineAction Session := StateT.lift get

/-- The name of the parser in the engine's settings. -/
def parserName : EngineAction String := do
  pure ((← get).settings.getD (← session).settings).backend.name

def parse (markup : Option String) : EngineAction (Except Failure Value) := do
  count fun m => { m with parses := m.parses + 1 }
  perform (Markup.parse markup (some (← parserName)))

def parseFragment (markup : Option String) : EngineAction (Except Failure Value) := do
  count fun m => { m with parses := m.parses + 1 }
  perform (Markup.parseFragment markup (some (← parserName)))

def select (q : Query) (source : Value) : EngineAction (Except Failure (List Value)) := do
  let result ← perform (MarkupQuery.select (← get).cache q source)
  match result with
  | .ok found =>
    count fun m =>
      { m with selections := m.selections + 1, matchCount := m.matchCount + found.length }
  | .error _ => pure ()
  pure result

def runOn (source : Value) (x : Extraction) : EngineAction (Except Failure Value) := do
  count fun m => { m with extractions := m.extractions + 1 }
  perform (x.run (← get).cache source)

def extract (source : Value) (keys : List Key) (arguments : List Argument) :
    EngineAction (Except Failure Value) := do
  count fun m => { m with extractions := m.extractions + 1 }
  perform (MarkupQuery.extract (← get).cache source keys arguments)

def extractFrom (source : Value) (q : Query) (keys : List Key) (arguments : List Argument) :
    EngineAction (Except Failure (List Value)) := do
  count fun m => { m with extractions := m.extractions + 1 }
  let cache := (← get).cache
  perform do
    let records ← MarkupQuery.extractFrom cache source q keys arguments
    Action.log .debug "chisel.engine" "Extracted records"
      [("component", .text "Engine"), ("selector", q.toValue), ("records", .whole records.length)]
    pure records

/-- Clears the cache and the counters. -/
def reset : EngineAction Unit := do
  let cache := (← get).cache
  StateT.lift (modify fun s => s.setCache cache (s.cache cache).clear)
  count fun _ => {}

/-- Whether the engine's cache has an entry for a query, and whether the shared cache has. -/
def contains (q : Query) : EngineAction (Bool × Bool) := do
  let s ← session
  pure ((s.cache (← get).cache).contains q, s.shared.contains q)

/-- The statistics of the engine's cache. -/
def cacheStats : EngineAction CacheStats := do
  pure ((← session).cacheStats (← get).cache)

end Engine
end MarkupQuery
