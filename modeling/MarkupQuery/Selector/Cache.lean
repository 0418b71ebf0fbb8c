import MarkupQuery.Selector.Query

/-!
# Selector caches

A cache keeps the selectors that it compiled from queries made of text alone, under the list of
their tokens, so that queries which differ in blanks or in grouping share an entry. It counts the
look-ups that found an entry and those that did not; a query that does not compile is counted among
the latter and leaves no entry. Queries with selectors or tests in them, and all queries while the
cache is disabled, are compiled without touching it.
-/

namespace MarkupQuery

/-- A memo of compiled queries. Without a flag of its own it is enabled as the settings say. -/
structure Cache where
  flag : Option Bool := none
  entries : Mapping (List String) Selector := []
  hits : Nat := 0
  misses : Nat := 0
  deriving Inhabited

/-- The statistics of a cache. -/
structure CacheStats where
  size : Nat
  hits : Nat
  misses : Nat
  enabled : Bool
  deriving DecidableEq, Repr

/-- The share of look-ups that were hits. -/
def CacheStats.hitRate (s : CacheStats) : String :=
  Binary64.sixPlaces s.hits (max 1 (s.hits + s.misses))

/-- The key under which a query is kept, if it is made of text alone. -/
def Query.key? (q : Query) : Option (List String) :=
  match q with
  | .selector _ => none
  | q => match q.normalise with
    | .ok elements => Query.tokens? elements
    | .error _ => none

namespace Cache

/-- Whether a cache is enabled, given what the settings say. -/
def isEnabled (c : Cache) (bySettings : Bool) : Bool := c.flag.getD bySettings

/-- The outcome of a look-up: the selector or the failure, the cache afterwards, and the key of a
new entry. -/
structure Answer where
  result : Except Failure Selector
  cache : Cache
  added : Option (List String) := none

/-- Compiles the tokens of a chain, or finds their entry. -/
def compileTokens (c : Cache) (key : List String) : Answer :=
  match c.entries.find? key with
  | some s => { result := .ok s, cache := { c with hits := c.hits + 1 } }
  | none =>
    let missed := { c with misses := c.misses + 1 }
    match Query.compileElements (key.map .token) with
    | .ok s => ⟨.ok s, { missed with entries := c.entries ++ [(key, s)] }, some key⟩
    | .error f => ⟨.error f, missed, none⟩

/-- Compiles a query. -/
def compile (c : Cache) (bySettings : Bool) (q : Query) : Answer :=
  match q with
  | .selector s => ⟨.ok s, c, none⟩
  | q => match q.normalise with
    | .error f => ⟨.error f, c, none⟩
    | .ok elements =>
      match Query.tokens? elements with
      | some key =>
        if c.isEnabled bySettings then c.compileTokens key
        else ⟨Query.compileElements elements, c, none⟩
      | none => ⟨Query.compileElements elements, c, none⟩

/-- Forgets every entry and the counts. -/
def clear (c : Cache) : Cache := { flag := c.flag }

/-- The number of entries. -/
def size (c : Cache) : Nat := c.entries.length

/-- Whether there is an entry for a query. -/
def contains (c : Cache) (q : Query) : Bool := q.key?.any fun key => (c.entries.find? key).isSome

def stats (c : Cache) (bySettings : Bool) : CacheStats :=
  ⟨c.size, c.hits, c.misses, c.isEnabled bySettings⟩

end Cache
end MarkupQuery
