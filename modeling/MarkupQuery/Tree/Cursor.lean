import MarkupQuery.Tree.Location

/-!
# Cursors

A cursor is a location as it is stored. A crumb has all siblings of the position in one sequence and
the index of the position in it, so that a step to the side takes a node and moves no other. After an
edit the sequence is out of date at the index, and a new one is made when the position is left.

The moves take for granted that the parts of a crumb belong together: that there is a sibling at the
index to which they go, and that a parent which they rebuild takes children. Where this is not so they
end with a mishap.
-/

namespace MarkupQuery

/-- What a move may find amiss in a crumb. -/
inductive Mishap where
  /-- A parent of a kind that takes no children. -/
  | leafWithChildren (kind : Kind)
  /-- An index at which there is no sibling. -/
  | noSibling (index : Int) (count : Nat)

/-- One step of the way back to the root. -/
structure Cursor.Crumb where
  parent : Node
  /-- The siblings in order, with the node at the position as it was before any edit there. -/
  siblings : List Node
  index : Int
  parentChanged : Bool

/-- A position in a tree. -/
structure Cursor where
  node : Node
  /-- The way back to the root, nearest crumb first. -/
  trail : List Cursor.Crumb
  changed : Bool
  atEnd : Bool

namespace Cursor

/-- The root cursor of a tree. -/
def ofRoot (n : Node) : Cursor := ⟨n, [], false, false⟩

/-! ## Indices -/

/-- How many members of a sequence with this length come before an index. A negative one is counted
from the end. -/
def place (length : Nat) (i : Int) : Nat := (if i < 0 then length + i else i).toNat

/-- The member at an index. -/
def member? (ns : List Node) (i : Int) : Option Node :=
  if i < -(ns.length : Int) then none else ns[place ns.length i]?

/-! ## Moves -/

/-- The siblings in order. Only after an edit they are another sequence than the one that is stored. -/
def siblings (l : Cursor) (c : Crumb) : List Node :=
  if l.changed then
    c.siblings.take (place c.siblings.length c.index) ++
      l.node :: c.siblings.drop (place c.siblings.length (c.index + 1))
  else c.siblings

/-- The sibling at an index. -/
def sibling (l : Cursor) (c : Crumb) (trail : List Crumb) (i : Int) : Except Mishap Cursor :=
  match member? (l.siblings c) i with
  | none => .error (.noSibling i (l.siblings c).length)
  | some n => .ok ⟨n, ⟨c.parent, l.siblings c, i, c.parentChanged⟩ :: trail, l.changed, false⟩

/-- The first child. -/
def down? (l : Cursor) : Option Cursor :=
  match l.node.children with
  | [] => none
  | n :: ns => some ⟨n, ⟨l.node, n :: ns, 0, l.changed⟩ :: l.trail, false, false⟩

/-- The next sibling. -/
def right (l : Cursor) : Except Mishap (Option Cursor) :=
  match l.trail with
  | [] => .ok none
  | c :: trail =>
    if c.siblings.length ≤ c.index + 1 then .ok none
    else (l.sibling c trail (c.index + 1)).map some

/-- The previous sibling. -/
def left (l : Cursor) : Except Mishap (Option Cursor) :=
  match l.trail with
  | [] => .ok none
  | c :: trail => if c.index = 0 then .ok none else (l.sibling c trail (c.index - 1)).map some

/-- The parent, rebuilt when something below it changed. -/
def up (l : Cursor) : Except Mishap (Option Cursor) :=
  match l.trail with
  | [] => .ok none
  | c :: trail =>
    if l.changed then
      match c.parent.withChildren? (l.siblings c) with
      | none => .error (.leafWithChildren c.parent.kind)
      | some n => .ok (some ⟨n, trail, true, false⟩)
    else .ok (some ⟨c.parent, trail, c.parentChanged, false⟩)

theorem up_trail {l p : Cursor} (h : l.up = .ok (some p)) : p.trail.length < l.trail.length := by
  unfold up at h
  split at h
  · cases h
  · next c trail ht =>
    rw [ht]
    split at h
    · split at h
      · cases h
      · cases h
        exact Nat.lt_succ_self _
    · cases h
      exact Nat.lt_succ_self _

/-- The next sibling of the nearest ancestor that has one, or the end. -/
def climb (l : Cursor) : Except Mishap Cursor :=
  match _h : l.up with
  | .error e => .error e
  | .ok none => .ok ⟨l.node, [], l.changed, true⟩
  | .ok (some p) =>
    match p.right with
    | .error e => .error e
    | .ok (some s) => .ok s
    | .ok none => p.climb
termination_by l.trail.length
decreasing_by exact up_trail _h

/-- The next position in document order. -/
def next (l : Cursor) : Except Mishap Cursor :=
  if l.atEnd then .ok l
  else match if l.node.isBranch then l.down? else none with
    | some d => .ok d
    | none =>
      match l.right with
      | .error e => .error e
      | .ok (some s) => .ok s
      | .ok none => l.climb

/-- The strict ancestors, nearest first. -/
def ancestors (l : Cursor) : Except Mishap (List Cursor) :=
  match _h : l.up with
  | .error e => .error e
  | .ok none => .ok []
  | .ok (some p) => p.ancestors.map (p :: ·)
termination_by l.trail.length
decreasing_by exact up_trail _h

/-- The root cursor above a cursor. -/
def top (l : Cursor) : Except Mishap Cursor :=
  match _h : l.up with
  | .error e => .error e
  | .ok none => .ok l
  | .ok (some p) => p.top
termination_by l.trail.length
decreasing_by exact up_trail _h

/-- The whole tree, with every edit made so far. -/
def root (l : Cursor) : Except Mishap Node := if l.atEnd then .ok l.node else l.top.map node

/-! ## Edits -/

/-- The same position with another node in it. -/
def replace (l : Cursor) (n : Node) : Cursor := ⟨n, l.trail, true, false⟩

/-- The same position with its node put through a function. -/
def edit (l : Cursor) (f : Node → Node) : Cursor := l.replace (f l.node)

/-! ## Locations -/

/-- The crumb with its siblings cut at the index. -/
def Crumb.cut (c : Crumb) : MarkupQuery.Crumb where
  parent := c.parent
  before := (c.siblings.take c.index.toNat).reverse
  after := c.siblings.drop (c.index.toNat + 1)
  parentChanged := c.parentChanged

/-- The location that a cursor stores. -/
def location (l : Cursor) : Location := ⟨l.node, l.trail.map Crumb.cut, l.changed, l.atEnd⟩

end Cursor
end MarkupQuery
