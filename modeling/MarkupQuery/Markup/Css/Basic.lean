/-!
# Style sheet selectors

A selector is a chain of compounds, each related to the one after it; a compound is a list of
conditions on one tag. Conditions may themselves ask whether one of several selectors matches.

The selectors, their reading and their matching are those of the engine that comes with the parser's
package. It is assumed to follow the standard for style sheets in what is modelled here, and to fail for
the parts that it does not support.
-/

namespace MarkupQuery.Markup.Css

/-- How the value of an attribute is compared with a given text. -/
inductive Comparison where
  | equals
  | startsWith
  | endsWith
  | contains
  | hasWord
  | hasDashedStart
  deriving DecidableEq, Repr

/-- A condition on an attribute: that it is there, or how its value compares. -/
structure AttributeTest where
  name : List Char
  value : Option (Comparison × List Char)
  ignoresCase : Bool
  deriving DecidableEq, Repr

/-- A position among siblings: the first, second, ... of those that a progression runs through. -/
structure Position where
  step : Int
  start : Int
  fromEnd : Bool
  sameType : Bool
  deriving DecidableEq, Repr

/-- How a compound is related to the one after it. -/
inductive Combinator where
  | descendant
  | child
  | nextSibling
  | laterSibling
  deriving DecidableEq, Repr

mutual
/-- One condition on a tag. -/
inductive Condition where
  | type (space : Option (List Char)) (name : List Char)
  | idIs (id : List Char)
  | inClass (name : List Char)
  | attribute (test : AttributeTest)
  | position (place : Position)
  | root
  | scope
  | empty
  | never
  | oneOf (alternatives : List Complex)
  | noneOf (alternatives : List Complex)

/-- A compound, with what stands before it, if anything does, and how that is related to it. -/
inductive Complex where
  | compound (conditions : List Condition)
  | related (before : Complex) (how : Combinator) (conditions : List Condition)
end

/-- Whether a number is among `start`, `start + step`, `start + 2 * step`, ... -/
def Position.includes (p : Position) (n : Nat) : Bool :=
  if p.step = 0 then p.start == n
  else (n - p.start) % p.step == 0 && (n - p.start) / p.step ≥ 0

end MarkupQuery.Markup.Css
