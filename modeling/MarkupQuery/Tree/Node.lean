import MarkupQuery.Mapping

/-!
# Nodes of a markup tree

A tree has five kinds of node. Documents and elements are branches and hold children; doctypes,
comments and texts are leaves. Elements and doctypes carry attributes, and no attributes at all is
told apart from an empty set of them, although no look-up can tell the two apart.
-/

namespace MarkupQuery

/-- Attribute names with their values. -/
abbrev Attributes := Mapping String String

/-- The kinds of node. -/
inductive Kind where
  | document
  | element
  | doctype
  | comment
  | text
  deriving DecidableEq, Repr

/-- The word for a kind in labels and selector names. -/
def Kind.label : Kind → String
  | .document => "document"
  | .element => "element"
  | .doctype => "document-type"
  | .comment => "comment"
  | .text => "text"

/-- The kind whose label is given. -/
def Kind.ofLabel? : String → Option Kind
  | "document" => some .document
  | "element" => some .element
  | "document-type" => some .doctype
  | "comment" => some .comment
  | "text" => some .text
  | _ => none

/-- The noun for a kind in messages. -/
def Kind.noun : Kind → String
  | .document => "Document"
  | .element => "Element"
  | .doctype => "DocumentType"
  | .comment => "Comment"
  | .text => "Text"

/-- A markup tree, given by its topmost node. -/
inductive Node where
  | document (children : List Node)
  | element (tag : String) (attributes : Option Attributes) (children : List Node)
  | doctype (attributes : Option Attributes)
  | comment (content : String)
  | text (content : String)
  deriving Inhabited

namespace Node

def kind : Node → Kind
  | .document _ => .document
  | .element _ _ _ => .element
  | .doctype _ => .doctype
  | .comment _ => .comment
  | .text _ => .text

/-- Whether a node is of a kind that may hold children. -/
def isBranch : Node → Bool
  | .document _ => true
  | .element _ _ _ => true
  | _ => false

/-- The children of a branch; a leaf has none. -/
def children : Node → List Node
  | .document cs => cs
  | .element _ _ cs => cs
  | _ => []

/-- The tag of an element. -/
def tag? : Node → Option String
  | .element tag _ _ => some tag
  | _ => none

/-- The attribute set of an element or doctype that has one. -/
def attributes? : Node → Option Attributes
  | .element _ attributes _ => attributes
  | .doctype attributes => attributes
  | _ => none

/-- The value of an attribute, looked up by its exact name. -/
def attribute? (n : Node) (name : String) : Option String :=
  n.attributes?.bind (·.find? name)

/-- A branch with other children; a leaf takes none. -/
def withChildren? : Node → List Node → Option Node
  | .document _, cs => some (.document cs)
  | .element tag attributes _, cs => some (.element tag attributes cs)
  | _, _ => none

/-- A branch with other children; a leaf stays as it is. -/
def refill (n : Node) (cs : List Node) : Node := (n.withChildren? cs).getD n

/-! ## The number of nodes -/

mutual
/-- The number of nodes in a tree. -/
def count : Node → Nat
  | .document cs => countAll cs + 1
  | .element _ _ cs => countAll cs + 1
  | _ => 1

/-- The number of nodes in a list of trees. -/
def countAll : List Node → Nat
  | [] => 0
  | n :: ns => n.count + countAll ns
end

theorem count_pos (n : Node) : 0 < n.count := by
  cases n <;> simp [count]

/-- The children of a tree are all of it but its topmost node. -/
theorem count_eq_children (n : Node) : n.count = countAll n.children + 1 := by
  cases n <;> simp [count, children, countAll]

theorem countAll_append (ns ms : List Node) :
    countAll (ns ++ ms) = countAll ns + countAll ms := by
  induction ns with
  | nil => simp [countAll]
  | cons n ns ih => simp [countAll, ih]; omega

/-! ## Equality -/

/-- Equality of optional attribute sets: absent differs from empty, order is ignored. -/
def sameAttributes : Option Attributes → Option Attributes → Bool
  | none, none => true
  | some a, some b => a.sameAs b
  | _, _ => false

mutual
/-- Equality of trees, with attribute order ignored. -/
def same : Node → Node → Bool
  | .document cs, .document ds => sameAll cs ds
  | .element t a cs, .element u b ds => t == u && sameAttributes a b && sameAll cs ds
  | .doctype a, .doctype b => sameAttributes a b
  | .comment s, .comment t => s == t
  | .text s, .text t => s == t
  | _, _ => false

/-- Equality of lists of trees, member by member. -/
def sameAll : List Node → List Node → Bool
  | [], [] => true
  | n :: ns, m :: ms => n.same m && sameAll ns ms
  | _, _ => false
end

/-! ## Character data -/

/-- The texts inside the trees that wait on a stack, leftmost first. Comments and doctypes have no
share in it. -/
def gatherText : List Node → List String
  | [] => []
  | .text s :: rest => s :: gatherText rest
  | .document cs :: rest => gatherText (cs ++ rest)
  | .element _ _ cs :: rest => gatherText (cs ++ rest)
  | _ :: rest => gatherText rest
termination_by stack => countAll stack
decreasing_by
  · simp [countAll, count]
  · simp [countAll, count, countAll_append]
  · simp [countAll, count, countAll_append]
  · simp [countAll, count_pos]

/-- The character data of a tree in document order. -/
def textContent (n : Node) : String := String.join (gatherText [n])

end Node
end MarkupQuery
