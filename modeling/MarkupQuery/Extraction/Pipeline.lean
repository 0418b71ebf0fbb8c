import MarkupQuery.Extraction.Extractor
import MarkupQuery.Selection

/-!
# Extractions

An extraction is a query with an extractor. It runs on a source as the number of matches demands:
nothing is extracted from no match, a single match is handed over by itself, several as a list.

A call with several extractions runs every one of them, whatever became of the others, and fails as
a whole if any failed; only what asks for the program to end is not held up. Record keys, when given,
are paired with the answers. A narrowed call does the same once for each match of a further query.
-/

namespace MarkupQuery

/-- A query and what is done with its matches. -/
structure Extraction where
  query : Query
  extractor : Extractor

/-- One argument of a flat call. -/
inductive Argument where
  | query (q : Query)
  | extractor (e : Extractor)

namespace Extraction

/-- Runs an extraction on a source. -/
def run (cache : CacheId) (source : Value) (x : Extraction) : Action Value := do
  match ← select cache x.query source with
  | [] => pure .absent
  | [only] => x.extractor.apply only
  | many => x.extractor.apply (.list many)

/-- Runs every extraction and notes each failure in the journal, with the index of its pair. What asks
for the program to end is no such failure, and ends the call. -/
def runEach (cache : CacheId) (source : Value) :
    Nat → List Extraction → Action (List (Except Failure Value))
  | _, [] => pure []
  | index, x :: xs => do
    let result ← Action.attempt (x.run cache source)
    match result with
    | .ok _ => pure ()
    | .error f =>
      Action.log .warning "chisel.extraction.pipeline" "Extraction pair failed"
        [("pair", .whole index), ("selector", x.query.toValue), ("error", .text f.message),
         ("error_type", .text f.className)]
    let rest ← runEach cache source (index + 1) xs
    pure (result :: rest)

/-- The failures among results, each with its index. -/
def failuresFrom : Nat → List (Except Failure Value) → List (Nat × Failure)
  | _, [] => []
  | index, .ok _ :: rest => failuresFrom (index + 1) rest
  | index, .error f :: rest => (index, f) :: failuresFrom (index + 1) rest

/-- The values among results. -/
def valuesOf : List (Except Failure Value) → List Value
  | [] => []
  | .ok v :: rest => v :: valuesOf rest
  | .error _ :: rest => valuesOf rest

/-- Runs extractions on the same source. None at all give the source back, a single one its bare
answer, several a list of answers. -/
def runAll (cache : CacheId) (source : Value) (xs : List Extraction) : Action Value :=
  match xs with
  | [] => pure source
  | xs => do
    let results ← runEach cache source 0 xs
    match failuresFrom 0 results, valuesOf results with
    | [], [only] => pure only
    | [], values => pure (.list values)
    | failures, _ => throw (.extractionsFailed xs.length failures)

/-! ## Flat calls -/

/-- Compiles the query of each pair of arguments, in order. -/
def compilePairs (cache : CacheId) : List Argument → Action (List Extraction)
  | .query q :: .extractor e :: rest => do
    let p ← Action.compile cache q
    let more ← compilePairs cache rest
    pure (⟨.selector p, e⟩ :: more)
  | _ => pure []

/-- Reads flat arguments as pairs of a query and an extractor and compiles every query. -/
def ofArguments (cache : CacheId) (arguments : List Argument) : Action (List Extraction) :=
  if arguments.length % 2 = 1 then throw (.unpairedArguments arguments.length)
  else compilePairs cache arguments

/-- Runs compiled extractions and puts the answers under the keys, if there are any: the only
answer under the first key, several answers under as many keys as there are. -/
def runKeyed (cache : CacheId) (source : Value) (keys : List Key) (xs : List Extraction) :
    Action Value := do
  let extracted ← runAll cache source xs
  match keys, xs, extracted with
  | [], _, _ => pure extracted
  | key :: _, [], _ | key :: _, [_], _ => pure (Key.record [(key, extracted)])
  | keys, _, .list values => pure (Key.record (Mapping.ofPairs (keys.zip values)))
  | _, _, _ => pure extracted

end Extraction

/-- Extracts from a source. -/
def extract (cache : CacheId) (source : Value) (keys : List Key) (arguments : List Argument) :
    Action Value := do
  Extraction.runKeyed cache source keys (← Extraction.ofArguments cache arguments)

/-- Runs compiled extractions on each source in turn, up to the first that fails. The journal events
of each run carry the index of its source. -/
def extractEach (cache : CacheId) (keys : List Key) (xs : List Extraction) :
    Nat → List Value → Action (List Value)
  | _, [] => pure []
  | index, source :: sources => do
    let here ← Action.withBound [("record", .whole index)]
      (Extraction.runKeyed cache source keys xs)
    let rest ← extractEach cache keys xs (index + 1) sources
    pure (here :: rest)

/-- Narrows a source with a query and extracts from each match. -/
def extractFrom (cache : CacheId) (source : Value) (q : Query) (keys : List Key)
    (arguments : List Argument) : Action (List Value) := do
  let xs ← Extraction.ofArguments cache arguments
  let sources ← select cache q source
  extractEach cache keys xs 0 sources

end MarkupQuery
