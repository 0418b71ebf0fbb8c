import MarkupQuery.Probe
import MarkupQuery.Text.LowerCase
import MarkupQuery.Tree.Order

/-!
# Selectors

A selector is a named predicate. It is asked about a subject: a position in a tree, or a value that
is no node and has neither tag nor attributes nor relatives.

The combinations ask their parts from left to right and stop as soon as the answer is settled, so a
part that is not asked neither fails nor leaves a sighting. "All" and "any" are told one answer after
the other, so a part that says there is no more to deliver fails in another way there. A chain asks its last link about the
subject itself, and then each earlier link, last first, about the ancestors from the nearest one
up; a link that has found its ancestor hands the rest of the way to the link before it.
-/

namespace MarkupQuery

/-- What a selector is asked about. -/
inductive Subject where
  | position (l : Location)
  | bare (v : Value)
  deriving Inhabited

namespace Subject

/-- The node at a position. -/
def node? : Subject → Option Node
  | .position l => some l.node
  | .bare _ => none

/-- The value that a selection yields for a subject. -/
def value : Subject → Value
  | .position l => .node l.node
  | .bare v => v

def kind? (s : Subject) : Option Kind := s.node?.map Node.kind

def tag? (s : Subject) : Option String := s.node?.bind Node.tag?

def attribute? (s : Subject) (name : String) : Option String := s.node?.bind (·.attribute? name)

def isRoot : Subject → Bool
  | .position l => l.isRoot
  | .bare _ => true

def depth : Subject → Nat
  | .position l => l.depth
  | .bare _ => 0

/-- The strict ancestors, nearest first. -/
def ancestors : Subject → List Subject
  | .position l => l.ancestors.map .position
  | .bare _ => []

end Subject

/-- A named predicate. -/
structure Selector where
  holds : Subject → Probe Bool
  name : String

instance : Inhabited Selector := ⟨⟨fun _ => pure false, ""⟩⟩

/-- A caller's own test: any value for an answer, of which only its truth counts. -/
structure Callback where
  answer : Subject → Probe Value
  name : String

namespace Selector

/-- The printed form of a selector. -/
def printed (s : Selector) : String := "Selector(" ++ s.name ++ ")"

/-- The selector that a caller's test amounts to. -/
def ofCallback (c : Callback) : Selector := ⟨fun s => Value.isTruthy <$> c.answer s, c.name⟩

/-- A selector as it is asked by something that delivers one match after the other. -/
def inGenerator (p : Selector) : Selector := { p with holds := fun s => (p.holds s).inGenerator }

/-- A selector that only looks: it neither fails nor leaves a sighting. -/
def looking (test : Subject → Bool) (name : String) : Selector := ⟨fun s => pure (test s), name⟩

/-! ## Tests of a single subject -/

/-- Holds everywhere. -/
def anyNode : Selector := looking (fun _ => true) "any"

/-- Holds at the root of the tree that is scanned. -/
def atRoot : Selector := looking Subject.isRoot "root"

/-- Holds at nodes of the given kinds. -/
def ofKind (kinds : List Kind) : Selector :=
  looking (fun s => s.kind?.any (kinds.contains ·))
    ("type(" ++ String.intercalate ", " (kinds.map Kind.label) ++ ")")

/-- Holds at elements with the given tag, in lower case. -/
def tagIs (tag : String) : Selector :=
  let wanted := Text.lower tag
  looking (fun s => s.tag? == some wanted) ("tag=" ++ wanted)

/-- Holds where the attribute, its name in lower case, has exactly the given value. -/
def attributeIs (name value : String) : Selector :=
  let key := Text.lower name
  looking (fun s => s.attribute? key == some value) ("[" ++ key ++ "=" ++ Text.quoted value ++ "]")

/-- Holds where the attribute, its name in lower case, is present. -/
def hasAttribute (name : String) : Selector :=
  let key := Text.lower name
  looking (fun s => (s.attribute? key).isSome) ("[" ++ key ++ "]")

/-- Holds where the id is exactly the given one. -/
def idIs (id : String) : Selector := { attributeIs "id" id with name := "#" ++ id }

/-- The words of a subject's class attribute. -/
def classWords (s : Subject) : List String := Text.words ((s.attribute? "class").getD "")

/-- Holds where every given class is among the words of the class attribute. -/
def classesInclude (classes : List String) : Selector :=
  looking (fun s => classes.all ((classWords s).contains ·))
    (if classes.isEmpty then ".*" else String.join (classes.map ("." ++ ·)))

/-! ## Combinations -/

/-- Asks each part until one does not hold. -/
def allHold : List Selector → Subject → Probe Bool
  | [], _ => pure true
  | p :: ps, s => do
    if ← p.holds s then allHold ps s else pure false

/-- Asks each part until one holds. -/
def anyHolds : List Selector → Subject → Probe Bool
  | [], _ => pure false
  | p :: ps, s => do
    if ← p.holds s then pure true else anyHolds ps s

def joinedNames (parts : List Selector) (separator : String) : String :=
  String.intercalate separator (parts.map Selector.name)

/-- Holds where the given selector does not. -/
def negate (p : Selector) : Selector := ⟨fun s => (!·) <$> p.holds s, "not(" ++ p.name ++ ")"⟩

/-- Holds where every part does. -/
def all (parts : List Selector) : Selector :=
  ⟨fun s => (allHold parts s).inGenerator, "all(" ++ joinedNames parts ", " ++ ")"⟩

/-- Holds where some part does. -/
def any (parts : List Selector) : Selector :=
  ⟨fun s => (anyHolds parts s).inGenerator, "any(" ++ joinedNames parts ", " ++ ")"⟩

/-- Asks links about ancestors, both nearest first: each ancestor is asked about once, and a link
that holds leaves the ancestors above to the next link. -/
def linksHold : List Selector → List Subject → Probe Bool
  | [], _ => pure true
  | _ :: _, [] => pure false
  | link :: links, s :: above => do
    if ← link.holds s then linksHold links above else linksHold (link :: links) above

/-- Holds where the last link does, below ancestors at which the others hold in order. -/
def chain (links : List Selector) : Selector :=
  match links.reverse with
  | [] => anyNode
  | [only] => only
  | last :: outer =>
    ⟨fun s => do if ← last.holds s then linksHold outer s.ancestors else pure false,
      joinedNames links " "⟩

end Selector
end MarkupQuery
