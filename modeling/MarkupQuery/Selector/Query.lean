import MarkupQuery.Selector.Token
import MarkupQuery.Text.Blank

/-!
# Queries

A query is what a caller passes to say what to select: text, a selector, a test of its own, or a
list or tuple of these. Normalising a query gives the elements of its chain: the blank-separated
tokens of its texts and the selectors and tests in between. Compiling gives one selector.
-/

namespace MarkupQuery

inductive Query where
  | text (s : String)
  | selector (s : Selector)
  | callback (c : Callback)
  | list (items : List Query)
  | tuple (items : List Query)
  | other (v : Value)
  deriving Inhabited

/-- A link of a chain before it is compiled. -/
inductive ChainElement where
  | token (s : String)
  | selector (s : Selector)
  | callback (c : Callback)

namespace ChainElement

/-- The text of an element that is a token. -/
def token? : ChainElement → Option String
  | .token s => some s
  | _ => none

/-- The selector that an element stands for. -/
def compile : ChainElement → Except Failure Selector
  | .token s => Selector.ofToken s
  | .selector s => .ok s
  | .callback c => .ok (Selector.ofCallback c)

end ChainElement

namespace Query

mutual
/-- A query as a value; selectors and tests are present by name. -/
def toValue : Query → Value
  | .text s => .text s
  | .selector s => .selector s.name
  | .callback c => .selector c.name
  | .list items => .list (toValues items)
  | .tuple items => .tuple (toValues items)
  | .other v => v

def toValues : List Query → List Value
  | [] => []
  | q :: qs => q.toValue :: toValues qs
end

/-- The chain elements of one member of a sequence. -/
def memberElements : Query → Except Failure (List ChainElement)
  | .text s => .ok ((Text.words s).map .token)
  | .selector s => .ok [.selector s]
  | .callback c => .ok [.callback c]
  | q => .error (.unsupportedElement q.toValue.printed)

/-- The chain elements of all members in turn, up to the first that cannot be read. -/
def sequenceElements : List Query → Except Failure (List ChainElement)
  | [] => .ok []
  | q :: qs => do
    let here ← memberElements q
    let rest ← sequenceElements qs
    pure (here ++ rest)

/-- The chain elements of a query. -/
def normalise : Query → Except Failure (List ChainElement)
  | .text s => .ok ((Text.words s).map .token)
  | .selector s => .ok [.selector s]
  | .callback c => .ok [.callback c]
  | .list items => sequenceElements items
  | .tuple items => sequenceElements items
  | .other v => .error (.unsupportedQuery v.printed)

/-- The texts of elements that are all tokens. -/
def tokens? (elements : List ChainElement) : Option (List String) :=
  elements.mapM ChainElement.token?

/-- Compiles every element, then chains them. -/
def compileElements (elements : List ChainElement) : Except Failure Selector := do
  let links ← elements.mapM ChainElement.compile
  pure (Selector.chain links)

/-- The selector that a query stands for. -/
def compile (q : Query) : Except Failure Selector := do
  compileElements (← q.normalise)

/-- A query as a part of a combination: a selector or a test, and nothing else. -/
def asSelector : Query → Except Failure Selector
  | .selector s => .ok s
  | .callback c => .ok (Selector.ofCallback c)
  | q => .error (.notASelector q.toValue.typeName)

/-- Makes one selector from parts that must each be a selector or a test. -/
def combine (join : List Selector → Selector) (parts : List Query) : Except Failure Selector := do
  pure (join (← parts.mapM asSelector))

end Query
end MarkupQuery
