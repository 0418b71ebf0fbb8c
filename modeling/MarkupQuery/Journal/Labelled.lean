import MarkupQuery.Journal.Event

/-!
# Readable values in events

An event may carry selectors, locations and nodes. Before it is written they are replaced by their
names and labels: by themselves, and as members of a sequence that begins with a node.
-/

namespace MarkupQuery

namespace Value

/-- A selector by its name, a location or a node by its label, and anything else as it is. -/
def labelled : Value → Value
  | .selector name => .text name
  | .location l => .text l.label
  | .node n => .text n.label
  | v => v

/-- Whether a sequence begins with a node. -/
def beginsWithNode : List Value → Bool
  | .node _ :: _ => true
  | _ => false

/-- A field's value with labels in it. -/
def described : Value → Value
  | .list items => if beginsWithNode items then .list (items.map labelled) else .list items
  | .tuple items => if beginsWithNode items then .list (items.map labelled) else .tuple items
  | v => v.labelled

end Value

/-- Fields with labels in them. -/
def Fields.described (fields : Fields) : Fields := fields.map fun p => (p.1, p.2.described)

end MarkupQuery
