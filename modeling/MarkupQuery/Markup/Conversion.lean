import MarkupQuery.Failure
import MarkupQuery.Markup.Doctype
import MarkupQuery.Markup.ParseTree
import MarkupQuery.Text.LowerCase

/-!
# From parse trees to trees

Each node of a parse tree becomes one node of the tree, at the same place. Tag names and attribute
names are put in lower case, and an attribute set without members becomes none. Comments stay
comments, doctypes become their attributes, and every other kind of string becomes a text.
-/

namespace MarkupQuery.Markup

/-- One converted attribute. Several values are joined by spaces, an absent one is empty. -/
def convertAttribute (key value : Value) : String × String :=
  (Text.lower key.bare, match value with
    | .list items | .tuple items => String.intercalate " " (items.map Value.bare)
    | .absent => ""
    | v => v.bare)

/-- A converted attribute set. -/
def convertAttributes (pairs : List (String × Value)) : Option Attributes :=
  if pairs.isEmpty then none
  else some (Mapping.ofPairs (pairs.map fun p => convertAttribute (.text p.1) p.2))

/-- The tag of an element: the prefix, if there is one, and the name. -/
def convertName (name : String) (namespacePrefix : Option String) : String :=
  Text.lower (match namespacePrefix with
    | some p => if p.isEmpty then name else p ++ ":" ++ name
    | none => name)

/-- A converted string. -/
def convertString (kind : StringKind) (content : String) : Node :=
  match kind with
  | .comment => .comment content
  | .doctype => .doctype (Doctype.read content.toList).attributes?
  | _ => .text content

namespace ParseTree

mutual
/-- The tree that a parse tree stands for. -/
def toNode : ParseTree → Node
  | .document cs => .document (toNodes cs)
  | .tag name namespacePrefix attributes cs =>
    .element (convertName name namespacePrefix) (convertAttributes attributes) (toNodes cs)
  | .string kind content => convertString kind content

def toNodes : List ParseTree → List Node
  | [] => []
  | t :: ts => t.toNode :: toNodes ts
end

end ParseTree

namespace Material

mutual
/-- Converts a material. Sequences become tuples, member by member, and nothing stays nothing. -/
def convert : Material → Except Failure Value
  | .nothing => .ok .absent
  | .text s => .ok (.node (.text s))
  | .tree t => .ok (.node t.toNode)
  | .list items => do pure (.tuple (← convertAll items))
  | .tuple items => do pure (.tuple (← convertAll items))
  | .foreign typeName => .error (.unconvertible typeName)

def convertAll : List Material → Except Failure (List Value)
  | [] => .ok []
  | m :: ms => do
    let here ← convert m
    let rest ← convertAll ms
    pure (here :: rest)
end

end Material

/-! ## Fragments -/

namespace ParseTree

/-- Whether a node is a section of the document skeleton. -/
def isSection (t : ParseTree) : Bool := t.isTagNamed "head" || t.isTagNamed "body"

/-- The contents of a skeleton's root, with its sections replaced by what is in them. -/
def dissolveSections (contents : List ParseTree) : List ParseTree :=
  contents.flatMap fun t => if t.isSection then t.contents else [t]

/-- Top-level nodes with the first skeleton root replaced by what is in it. -/
def dissolveRoot : List ParseTree → List ParseTree
  | [] => []
  | t :: ts =>
    if t.isTagNamed "html" then dissolveSections t.contents ++ ts else t :: dissolveRoot ts

/-- The top-level nodes of a fragment, as read by the parser of the given name. Parsers that put a
skeleton of root, head and body around every fragment have it dissolved again. -/
def fragmentContents (t : ParseTree) (keepsFragments : Bool) : List ParseTree :=
  if keepsFragments then t.contents else dissolveRoot t.contents

end ParseTree
end MarkupQuery.Markup
