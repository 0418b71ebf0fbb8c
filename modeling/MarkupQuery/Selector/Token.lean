import MarkupQuery.Selector.Basic
import MarkupQuery.Text.WordChar

/-!
# Selector tokens

A token names a tag, an id and any number of classes, in this order and each of them optional:
`tag#id.class.class`. The tag is a star, or an ASCII letter followed by name characters; an id and
a class are runs of name characters, which are the word characters and the hyphen.
-/

namespace MarkupQuery

/-- The parts of a selector token, as written. -/
structure Token where
  tag : List Char
  id : Option (List Char)
  classes : List (List Char)
  deriving DecidableEq, Repr

namespace Token

/-- The characters that names are made of. -/
def isNameChar (c : Char) : Bool := c == '-' || Text.isWordChar c

/-- The characters that a tag may start with. -/
def isTagStart (c : Char) : Bool := c.isAlpha

/-- The longest tag that a text starts with, and the rest of the text. -/
def readTag : List Char → List Char × List Char
  | [] => ([], [])
  | c :: cs =>
    if c = '*' then (['*'], cs)
    else if isTagStart c then (c :: cs.takeWhile isNameChar, cs.dropWhile isNameChar)
    else ([], c :: cs)

/-- The id that a text starts with, if there is one, and the rest of the text. A hash that no name
follows is left where it is. -/
def readId : List Char → Option (List Char) × List Char
  | '#' :: cs =>
    let name := cs.takeWhile isNameChar
    if name.isEmpty then (none, '#' :: cs) else (some name, cs.dropWhile isNameChar)
  | cs => (none, cs)

/-- The classes that make up the whole of a text. -/
def readClasses : List Char → Option (List (List Char))
  | [] => some []
  | c :: cs =>
    if c = '.' then
      let name := cs.takeWhile isNameChar
      if name.isEmpty then none
      else (readClasses (cs.dropWhile isNameChar)).map (name :: ·)
    else none
termination_by cs => cs.length
decreasing_by
  have := (List.dropWhile_suffix isNameChar (l := cs)).length_le
  simp; omega

/-- Reads a whole text as a token. -/
def read? (s : List Char) : Option Token :=
  let (tag, afterTag) := readTag s
  let (id, afterId) := readId afterTag
  (readClasses afterId).map (⟨tag, id, ·⟩)

/-- The text of a token. -/
def write (t : Token) : List Char :=
  t.tag ++ (match t.id with
    | some id => '#' :: id
    | none => []) ++ t.classes.flatMap ('.' :: ·)

/-- The predicate of a token: its tag, then its id, then its classes. -/
def test (t : Token) : Selector :=
  Selector.all
    [if t.tag = [] ∨ t.tag = ['*'] then .anyNode else .tagIs (String.ofList t.tag),
     match t.id with
     | some id => .idIs (String.ofList id)
     | none => .anyNode,
     if t.classes.isEmpty then .anyNode else .classesInclude (t.classes.map String.ofList)]

end Token

/-- The selector that a token's text stands for. It is named by the text, or by a star if there is
none. -/
def Selector.ofToken (s : String) : Except Failure Selector :=
  match Token.read? s.toList with
  | some t => .ok { t.test with name := if s.isEmpty then "*" else s }
  | none => .error (.malformedToken s)

end MarkupQuery
