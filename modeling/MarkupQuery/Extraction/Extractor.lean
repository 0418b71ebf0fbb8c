import MarkupQuery.Session

/-!
# Extractors

An extractor turns a selection into a value. A selection is a node, a text, or a list or tuple of
selections. What is extracted from one member is extracted from each member of a sequence, at any
depth of nesting, and the answers form lists of the same shape.
-/

namespace MarkupQuery

/-- What an extractor finds at the innermost places of a selection. -/
inductive Member where
  | node (n : Node)
  | text (s : String)

namespace Member

/-- A member itself. -/
def value : Member → Value
  | .node n => .node n
  | .text s => .text s

/-- The tag of an element. -/
def tag : Member → Value
  | .node n => Value.ofText? n.tag?
  | .text _ => .absent

/-- The value of an attribute, its name in lower case. -/
def attributeValue (name : String) : Member → Value
  | .node n => Value.ofText? (n.attribute? (Text.lower name))
  | .text _ => .absent

/-- All attributes, if there are any. -/
def attributes : Member → Value
  | .node n => match n.attributes? with
    | some (p :: ps) => Value.ofAttributes (p :: ps)
    | _ => .absent
  | .text _ => .absent

/-- The character data. -/
def content : Member → Value
  | .node n => .text n.textContent
  | .text s => .text s

end Member

namespace Value

mutual
/-- Applies a function at every innermost place of a selection. -/
def overMembers (f : Member → Value) : Value → Except Failure Value
  | .node n => .ok (f (.node n))
  | .text s => .ok (f (.text s))
  | .list items => do pure (.list (← overAll f items))
  | .tuple items => do pure (.list (← overAll f items))
  | v => .error (.unsupportedSelection v.typeName)

def overAll (f : Member → Value) : List Value → Except Failure (List Value)
  | [] => .ok []
  | v :: vs => do
    let here ← overMembers f v
    let rest ← overAll f vs
    pure (here :: rest)
end

/-- The member of a sequence at an index. A single node or text stands for itself at every index,
unless a sequence is insisted on. -/
def nth (index : Int) (strict : Bool) (selection : Value) : Except Failure Value :=
  match selection with
  | .list items | .tuple items =>
    match (if index < 0 then none else items[index.toNat]?) with
    | some v => .ok v
    | none => .error (.memberOutOfRange index items.length)
  | .node _ | .text _ =>
    if strict then .error (.notASequence index selection.typeName) else .ok selection
  | v => .error (.unsupportedSelection v.typeName)

end Value

/-- A named function from selections to values. -/
structure Extractor where
  apply : Value → Action Value
  name : String

instance : Inhabited Extractor := ⟨⟨pure, ""⟩⟩

namespace Extractor

/-- The printed form of an extractor. -/
def printed (e : Extractor) : String := "Extractor(" ++ e.name ++ ")"

/-- An extractor that leaves nothing behind in the session. -/
def ofFunction (f : Value → Except Failure Value) (name : String) : Extractor :=
  ⟨fun v => Action.ofExcept (f v), name⟩

/-- The members themselves. -/
def node : Extractor := ofFunction (Value.overMembers Member.value) "node"

/-- The tags of the members. -/
def tag : Extractor := ofFunction (Value.overMembers Member.tag) "tag"

/-- The attributes of the members. -/
def attributes : Extractor := ofFunction (Value.overMembers Member.attributes) "attrs"

/-- The character data of the members. -/
def text : Extractor := ofFunction (Value.overMembers Member.content) "text"

/-- The values of one attribute of the members. -/
def attributeOf (name : String) : Extractor :=
  ofFunction (Value.overMembers (Member.attributeValue name)) ("attr(" ++ Text.quoted name ++ ")")

/-- One member of a selection. -/
def nth (index : Int) (strict : Bool) : Extractor :=
  ofFunction (Value.nth index strict) ("nth(" ++ toString index ++ ")")

/-- Applies extractors one after the other. -/
def applyAll : List Extractor → Value → Action Value
  | [], v => pure v
  | e :: es, v => do applyAll es (← e.apply v)

/-- The extractors in the order written, each on the answer of the one before it. -/
def compose (es : List Extractor) : Extractor :=
  ⟨applyAll es, "compose(" ++ String.intercalate ", " (es.map Extractor.name) ++ ")"⟩

end Extractor
end MarkupQuery
