import MarkupQuery.Text.Blank
import MarkupQuery.Text.Quoted
import MarkupQuery.Tree.Location

/-!
# Labels and printed forms

A label names a node briefly, in the grammar of selector tokens: an element by its tag, its id and
the words of its class, any other node by its kind. The printed form shows a node with its own
fields but only the number of its children.
-/

namespace MarkupQuery

/-- An attribute value that is there and not empty. -/
def Node.nonemptyAttribute? (n : Node) (name : String) : Option String :=
  (n.attribute? name).filter fun v => !v.isEmpty

/-- The short name of a node. -/
def Node.label (n : Node) : String :=
  match n with
  | .element tag _ _ =>
    let id := match n.nonemptyAttribute? "id" with
      | some v => "#" ++ v
      | none => ""
    let classes := match n.nonemptyAttribute? "class" with
      | some v => String.join ((Text.words v).map ("." ++ ·))
      | none => ""
    tag ++ id ++ classes
  | _ => n.kind.label

/-- The short name of a node, with its depth. -/
def Location.label (l : Location) : String := l.node.label ++ "@" ++ toString l.depth

/-- Attributes as quoted names with quoted values between braces. -/
def Attributes.printed (a : Attributes) : String :=
  "\x7b" ++ String.intercalate ", " (a.map fun p => Text.quoted p.1 ++ ": " ++ Text.quoted p.2) ++ "\x7d"

/-- Attributes, or a word for their absence. -/
def printedAttributes : Option Attributes → String
  | none => "None"
  | some a => a.printed

/-- A number of children between angle brackets. -/
def printedCount (cs : List Node) : String := "<" ++ toString cs.length ++ ">"

/-- The printed form of a node. -/
def Node.printed : Node → String
  | .document cs => "Document(children=" ++ printedCount cs ++ ")"
  | .element tag attributes cs =>
    "Element(tag=" ++ Text.quoted tag ++ ", attributes=" ++ printedAttributes attributes ++
      ", children=" ++ printedCount cs ++ ")"
  | .doctype attributes => "DocumentType(attributes=" ++ printedAttributes attributes ++ ")"
  | .comment s => "Comment(text=" ++ Text.quoted s ++ ")"
  | .text s => "Text(text=" ++ Text.quoted s ++ ")"

/-- The printed form of a location. -/
def Location.printed (l : Location) : String :=
  "<Location depth=" ++ toString l.depth ++ " node=" ++ l.node.printed ++
    (if l.atEnd then " end" else "") ++ ">"

end MarkupQuery
