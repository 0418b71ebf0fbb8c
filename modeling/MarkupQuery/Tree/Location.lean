import MarkupQuery.Tree.Node

/-!
# Locations in a tree

A location is a node together with the way back to the root. Each crumb of that way holds the
parent as it was when it was left, the siblings on either side of the position, and whether the
parent had been changed by then. Siblings before the position are kept nearest first, so that a
step to the side moves one node across.

An edit only marks the location as changed. The edited tree is built on the way up: leaving a
changed position rebuilds one parent from the siblings around it, and leaving an unchanged one
takes the parent from the crumb.

A walk that has run past the last node stands at an end location, which holds the root.
-/

namespace MarkupQuery

/-- One step of the way back to the root. -/
structure Crumb where
  parent : Node
  /-- Siblings before the position, nearest first. -/
  before : List Node
  /-- Siblings after the position, nearest first. -/
  after : List Node
  parentChanged : Bool

/-- A position in a tree. -/
structure Location where
  node : Node
  /-- The way back to the root, nearest crumb first. -/
  trail : List Crumb
  changed : Bool
  atEnd : Bool

/-- The position's index among its siblings. -/
def Crumb.index (c : Crumb) : Nat := c.before.length

/-- All siblings in order, with the given node at the position. -/
def Crumb.siblings (c : Crumb) (n : Node) : List Node := c.before.reverse ++ n :: c.after

namespace Location

/-- The root location of a tree. -/
def ofRoot (n : Node) : Location := ⟨n, [], false, false⟩

/-! ## Inspection -/

def isRoot (l : Location) : Bool := l.trail.isEmpty

def isBranch (l : Location) : Bool := l.node.isBranch

/-- The number of steps from the root. -/
def depth (l : Location) : Nat := l.trail.length

/-- Child indices on the way from the root. -/
def path (l : Location) : List Nat := (l.trail.map Crumb.index).reverse

/-- The parents on the way from the root, as they were when they were left. -/
def enclosing (l : Location) : List Node := (l.trail.map Crumb.parent).reverse

/-! ## Moves -/

/-- The first child. -/
def down? (l : Location) : Option Location :=
  match l.node.children with
  | [] => none
  | c :: cs => some ⟨c, ⟨l.node, [], cs, l.changed⟩ :: l.trail, false, false⟩

/-- The next sibling. -/
def right? (l : Location) : Option Location :=
  match l.trail with
  | [] => none
  | crumb :: trail =>
    match crumb.after with
    | [] => none
    | n :: ns =>
      some ⟨n, { crumb with before := l.node :: crumb.before, after := ns } :: trail, l.changed, false⟩

/-- The previous sibling. -/
def left? (l : Location) : Option Location :=
  match l.trail with
  | [] => none
  | crumb :: trail =>
    match crumb.before with
    | [] => none
    | n :: ns =>
      some ⟨n, { crumb with before := ns, after := l.node :: crumb.after } :: trail, l.changed, false⟩

/-- The parent, rebuilt when something below it changed. -/
def up? (l : Location) : Option Location :=
  match l.trail with
  | [] => none
  | crumb :: trail =>
    if l.changed then some ⟨crumb.parent.refill (crumb.siblings l.node), trail, true, false⟩
    else some ⟨crumb.parent, trail, crumb.parentChanged, false⟩

theorem up?_trail {l p : Location} (h : l.up? = some p) : p.trail.length < l.trail.length := by
  unfold up? at h
  split at h
  · simp at h
  · rename_i hd
    split at h <;> simp at h <;> simp [← h, hd]

/-- The next sibling of the nearest ancestor that has one, or the end location. -/
def climb (l : Location) : Location :=
  match _h : l.up? with
  | none => ⟨l.node, [], l.changed, true⟩
  | some p => match p.right? with
    | some s => s
    | none => p.climb
termination_by l.trail.length
decreasing_by exact up?_trail _h

/-- The next location in document order: parents before children, children left to right. Past the
last node it is the end location, and the end location stays where it is. -/
def next (l : Location) : Location :=
  if l.atEnd then l
  else match l.down? with
    | some c => c
    | none => match l.right? with
      | some s => s
      | none => l.climb

/-- The strict ancestors, nearest first. -/
def ancestors (l : Location) : List Location :=
  match _h : l.up? with
  | none => []
  | some p => p :: p.ancestors
termination_by l.trail.length
decreasing_by exact up?_trail _h

/-- The root location above a location. -/
def top (l : Location) : Location :=
  match _h : l.up? with
  | none => l
  | some p => p.top
termination_by l.trail.length
decreasing_by exact up?_trail _h

/-- The whole tree, with every edit made so far. -/
def root (l : Location) : Node := if l.atEnd then l.node else l.top.node

/-- The child at an index. -/
def child? (l : Location) : Nat → Option Location
  | 0 => l.down?
  | i + 1 => (l.child? i).bind right?

/-- The location at the end of a path of child indices. -/
def descend? (l : Location) : List Nat → Option Location
  | [] => some l
  | i :: is => (l.child? i).bind (·.descend? is)

/-! ## Edits -/

/-- The same position with another node in it. -/
def replace (l : Location) (n : Node) : Location := ⟨n, l.trail, true, false⟩

/-- The same position with its node put through a function. -/
def edit (l : Location) (f : Node → Node) : Location := l.replace (f l.node)

end Location
end MarkupQuery
