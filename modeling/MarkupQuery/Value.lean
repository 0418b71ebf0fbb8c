import MarkupQuery.Number.Notation
import MarkupQuery.Tree.Label

/-!
# Values

What a caller hands in as a source or a selection, what an extraction answers, and what a journal
event carries: nodes and locations, plain data, and sequences and records of such values. A
selector is present in a value by its name only, and a feed, which delivers one tree after the other
and can be gone through only once, by its number.
-/

namespace MarkupQuery

inductive Value where
  | absent
  | truth (b : Bool)
  | whole (i : Int)
  | fraction (x : Binary64)
  | text (s : String)
  | list (items : List Value)
  | tuple (items : List Value)
  | record (fields : List (Value × Value))
  | node (n : Node)
  | location (l : Location)
  | selector (name : String)
  | feed (id : Nat)
  deriving Inhabited

namespace Value

/-- The name of a value's type in messages. -/
def typeName : Value → String
  | .absent => "NoneType"
  | .truth _ => "bool"
  | .whole _ => "int"
  | .fraction _ => "float"
  | .text _ => "str"
  | .list _ => "list"
  | .tuple _ => "tuple"
  | .record _ => "dict"
  | .node n => n.kind.noun
  | .location _ => "Location"
  | .selector _ => "Selector"
  | .feed _ => "generator"

/-- Whether a value counts as true where only yes or no is asked: nothing, zero and whatever is
empty do not. -/
def isTruthy : Value → Bool
  | .absent => false
  | .truth b => b
  | .whole i => i != 0
  | .fraction x => !x.isZero
  | .text s => !s.isEmpty
  | .list items => !items.isEmpty
  | .tuple items => !items.isEmpty
  | .record fields => !fields.isEmpty
  | .node _ => true
  | .location _ => true
  | .selector _ => true
  | .feed _ => true

mutual
/-- The printed form of a value: quoted text, bracketed lists, parenthesised tuples, braced
records. -/
def printed : Value → String
  | .absent => "None"
  | .truth b => if b then "True" else "False"
  | .whole i => toString i
  | .fraction x => x.text
  | .text s => Text.quoted s
  | .list items => "[" ++ String.intercalate ", " (printedItems items) ++ "]"
  | .tuple [item] => "(" ++ item.printed ++ ",)"
  | .tuple items => "(" ++ String.intercalate ", " (printedItems items) ++ ")"
  | .record fields => "\x7b" ++ String.intercalate ", " (printedFields fields) ++ "\x7d"
  | .node n => n.printed
  | .location l => l.printed
  | .selector name => "Selector(" ++ name ++ ")"
  | .feed _ => "<generator object>"

def printedItems : List Value → List String
  | [] => []
  | item :: items => item.printed :: printedItems items

def printedFields : List (Value × Value) → List String
  | [] => []
  | (k, v) :: fields => (k.printed ++ ": " ++ v.printed) :: printedFields fields
end

/-- The bare form of a value: text as it is, anything else printed. -/
def bare : Value → String
  | .text s => s
  | v => v.printed

/-- The number that a value counts as when values are compared, as an exact ratio: truth values are
one and zero. -/
def ratio? : Value → Option (Int × Nat)
  | .truth b => some (if b then 1 else 0, 1)
  | .whole i => some (i, 1)
  | .fraction x => x.ratio?
  | _ => none

mutual
/-- Whether two values are equal as record keys: equal numbers, equal texts, the same nodes, or tuples
of such values. Objects that are equal only to themselves are not told apart here. -/
def sameKey (a b : Value) : Bool :=
  match a, b with
  | .absent, .absent => true
  | .text s, .text t => s == t
  | .fraction x, .fraction y => x != .nan && (x == y || (x.isZero && y.isZero))
  | .node m, .node n => m.same n
  | .tuple xs, .tuple ys => sameKeys xs ys
  | a, b => match a.ratio?, b.ratio? with
    | some x, some y => x.1 * y.2 == y.1 * x.2
    | _, _ => false

def sameKeys : List Value → List Value → Bool
  | [], [] => true
  | x :: xs, y :: ys => sameKey x y && sameKeys xs ys
  | _, _ => false
end

/-- Record fields are compared by `sameKey` of their keys. -/
instance : BEq Value := ⟨sameKey⟩

/-- A tree, or nothing. -/
def ofNode? : Option Node → Value
  | some n => .node n
  | none => .absent

/-- An attribute set as a record. -/
def ofAttributes (a : Attributes) : Value := .record (a.map fun p => (.text p.1, .text p.2))

/-- An optional text. -/
def ofText? : Option String → Value
  | some s => .text s
  | none => .absent

/-- The characters of a text, each as a text of its own. -/
def characters (s : String) : List Value := s.toList.map fun c => .text (String.singleton c)

end Value

/-! ## Record keys -/

/-- A record key as a caller gives it: a value, an object that is equal only to itself, such as a
location, a selector or a number that is none, or a tuple of keys. -/
inductive Key where
  | value (v : Value)
  | object (id : Nat) (v : Value)
  | tuple (members : List Key)
  deriving Inhabited

namespace Key

mutual
/-- The value that stands for a key in a record. -/
def toValue : Key → Value
  | .value v => v
  | .object _ v => v
  | .tuple members => .tuple (toValues members)

def toValues : List Key → List Value
  | [] => []
  | k :: ks => k.toValue :: toValues ks
end

mutual
/-- Whether two keys are the same. -/
def same : Key → Key → Bool
  | .value a, .value b => a.sameKey b
  | .object i _, .object j _ => i == j
  | .tuple as, .tuple bs => sameAll as bs
  | _, _ => false

def sameAll : List Key → List Key → Bool
  | [], [] => true
  | a :: as, b :: bs => same a b && sameAll as bs
  | _, _ => false
end

instance : BEq Key := ⟨same⟩

/-- A mapping from keys as a record. -/
def record (fields : Mapping Key Value) : Value :=
  .record (fields.map fun p => (p.1.toValue, p.2))

end Key
end MarkupQuery
