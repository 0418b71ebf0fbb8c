import MarkupQuery.Markup.ParseTree

/-!
# Places in a parse tree

A place is a node of a parse tree together with the nodes before it, the nodes after it and the
place of its parent. From a place one gets to its ancestors and to the tags beside it.
-/

namespace MarkupQuery.Markup.Css

/-- A node with the nodes before it and after it, both nearest first, and the place of its parent. -/
inductive Place where
  | mk (node : ParseTree) (earlier later : List ParseTree) (parent : Option Place)

namespace Place

def node : Place → ParseTree
  | .mk n _ _ _ => n

def earlier : Place → List ParseTree
  | .mk _ e _ _ => e

def later : Place → List ParseTree
  | .mk _ _ l _ => l

def parent : Place → Option Place
  | .mk _ _ _ p => p

/-- The places above, nearest first. -/
def ancestors : Place → List Place
  | .mk _ _ _ none => []
  | .mk _ _ _ (some p) => p :: p.ancestors

end Place

/-- Whether a node of a parse tree is a tag. -/
def isTag : ParseTree → Bool
  | .tag _ _ _ _ => true
  | _ => false

/-- The places of the tags before a place, nearest first, given their parent and what stands after
them. -/
def placesBefore (parent : Option Place) (later : List ParseTree) : List ParseTree → List Place
  | [] => []
  | t :: ts =>
    if isTag t then .mk t ts later parent :: placesBefore parent (t :: later) ts
    else placesBefore parent (t :: later) ts

/-- The tags before a place under the same parent, nearest first. -/
def Place.siblingsBefore (p : Place) : List Place :=
  placesBefore p.parent (p.node :: p.later) p.earlier

mutual
/-- The places of a tag, given what stands beside it, and of every tag inside it, in document
order. -/
def placesFrom (earlier later : List ParseTree) (parent : Place) : ParseTree → List Place
  | .tag name namespacePrefix attributes cs =>
    let here := Place.mk (.tag name namespacePrefix attributes cs) earlier later (some parent)
    here :: placesAmong [] here cs
  | _ => []

/-- The places of the tags among the nodes inside a place, given the nodes already passed. -/
def placesAmong (earlier : List ParseTree) (parent : Place) : List ParseTree → List Place
  | [] => []
  | t :: ts => placesFrom earlier ts parent t ++ placesAmong (t :: earlier) parent ts
end

/-- The places of the tags inside a node, in document order. The node itself is above them. -/
def placesIn (t : ParseTree) : List Place := placesAmong [] (.mk t [] [] none) t.contents

end MarkupQuery.Markup.Css
