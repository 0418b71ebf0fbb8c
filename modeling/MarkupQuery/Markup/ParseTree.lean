import MarkupQuery.Markup.Event

/-!
# Parse trees

What a markup parser produces: tags with a name, perhaps a namespace prefix, and attributes that
may hold several values; strings of many kinds; and whole documents. A material is whatever may be
handed over for conversion: a parse tree, plain text, nothing, or a sequence of materials.
-/

namespace MarkupQuery.Markup

inductive ParseTree where
  | document (contents : List ParseTree)
  | tag (name : String) (namespacePrefix : Option String) (attributes : Mapping String Value)
      (contents : List ParseTree)
  | string (kind : StringKind) (content : String)
  deriving Inhabited

namespace ParseTree

/-- The nodes directly inside a parse tree. -/
def contents : ParseTree → List ParseTree
  | .document cs => cs
  | .tag _ _ _ cs => cs
  | .string _ _ => []

/-- Whether a parse tree is a tag of the given name, its prefix left aside. -/
def isTagNamed (t : ParseTree) (name : String) : Bool :=
  match t with
  | .tag n _ _ _ => n == name
  | _ => false

end ParseTree

/-- What may be handed over for conversion. -/
inductive Material where
  | nothing
  | text (s : String)
  | tree (t : ParseTree)
  | list (items : List Material)
  | tuple (items : List Material)
  | foreign (typeName : String)
  deriving Inhabited

end MarkupQuery.Markup
