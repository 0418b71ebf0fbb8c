import MarkupQuery.Markup.Css.Basic
import MarkupQuery.Markup.Css.Place
import MarkupQuery.Text.Blank
import MarkupQuery.Text.LetterCase

/-!
# Matching selectors

A selector matches at a place if its last compound holds there and the rest matches at one of the
places to which the combinator leads. Tag and attribute names count in any ASCII case.

A line end at the very end of an attribute value is optional wherever the end of the value counts.
-/

namespace MarkupQuery.Markup.Css

/-! ## Tags -/

/-- A name in lower case, as far as ASCII goes. -/
def lowerName (name : List Char) : List Char := name.map Char.toLower

/-- The name of a node, without its prefix. A document has a name of its own. -/
def nodeName : ParseTree → List Char
  | .tag name _ _ _ => lowerName name.toList
  | .document _ => "[document]".toList
  | .string _ _ => []

/-- The attributes of a tag. -/
def nodeAttributes : ParseTree → Mapping String Value
  | .tag _ _ attributes _ => attributes
  | _ => []

/-- One value of an attribute as a text; an absent one is empty. -/
def valueText : Value → List Char
  | .absent => []
  | v => v.bare.toList

/-- The value of the first attribute with a name. -/
def attribute? (t : ParseTree) (name : List Char) : Option Value :=
  (List.find? (fun p => lowerName p.1.toList == lowerName name) (nodeAttributes t)).map Prod.snd

/-- The text of an attribute; several values are joined by spaces. -/
def attributeText? (t : ParseTree) (name : List Char) : Option (List Char) :=
  (attribute? t name).map fun
    | .list items | .tuple items => [' '].intercalate (items.map valueText)
    | v => valueText v

/-- The spaces between class names. -/
def isSpace (c : Char) : Bool := " \t\r\n\x0c".toList.contains c

/-- The parts of a text between spaces. -/
def wordsBetweenSpaces (s : List Char) : List (List Char) :=
  (s.splitBy fun a b => isSpace a == isSpace b).filter fun w => !w.any isSpace

/-- The class names of a tag. -/
def classNames (t : ParseTree) : List (List Char) :=
  match attribute? t "class".toList with
  | some (.list items) | some (.tuple items) => items.map valueText
  | some v => wordsBetweenSpaces (valueText v)
  | none => []

/-- The id of a tag. Several values are no id. -/
def idText? (t : ParseTree) : Option (List Char) :=
  match attribute? t "id".toList with
  | some (.list _) | some (.tuple _) => none
  | some v => some (valueText v)
  | none => some []

/-! ## Attribute values -/

/-- Whether nothing is left, except perhaps one line end. -/
def isEnd (rest : List Char) : Bool := rest.isEmpty || rest == ['\n']

/-- What is left of a value after a beginning, in any case if case is ignored. -/
def afterStart (ignoresCase : Bool) (start cs : List Char) : Option (List Char) :=
  if ignoresCase then Text.afterLetters start cs
  else if start.isPrefixOf cs then some (cs.drop start.length) else none

/-- Whether a test holds somewhere in a text. The test sees the character before and the text after
each place. -/
def holdsSomewhere (test : Option Char → List Char → Bool) (before : Option Char) : List Char → Bool
  | [] => test before []
  | c :: cs => test before (c :: cs) || holdsSomewhere test (some c) cs

/-- Whether a value of an attribute compares with a text as asked. -/
def Comparison.holds (ignoresCase : Bool) (text value : List Char) : Comparison → Bool
  | .equals => (afterStart ignoresCase text value).any isEnd
  | .startsWith => (afterStart ignoresCase text value).isSome
  | .endsWith => holdsSomewhere (fun _ cs => (afterStart ignoresCase text cs).any isEnd) none value
  | .contains => holdsSomewhere (fun _ cs => (afterStart ignoresCase text cs).isSome) none value
  | .hasWord => !text.isEmpty && !text.any isSpace && holdsSomewhere (fun before cs =>
      before.all isSpace && (afterStart ignoresCase text cs).any (·.head?.all isSpace)) none value
  | .hasDashedStart => (afterStart ignoresCase text value).any fun rest =>
      isEnd rest || rest.head? == some '-'

/-- Whether an attribute of a tag is as asked. -/
def AttributeTest.holds (t : ParseTree) (a : AttributeTest) : Bool :=
  (attributeText? t a.name).any fun value => match a.value with
    | none => true
    | some (comparison, text) => comparison.holds a.ignoresCase text value

/-! ## Conditions -/

/-- Whether a kind of string is ordinary text. -/
def isOrdinary (kind : StringKind) : Bool :=
  match kind with
  | .plain | .script | .stylesheet | .template => true
  | .comment | .doctype | .instruction | .xmlInstruction | .declaration | .cdata => false

/-- Whether a node keeps its parent from being empty: a tag, or ordinary text that is not all
space. -/
def fills : ParseTree → Bool
  | .tag _ _ _ _ | .document _ => true
  | .string kind content => isOrdinary kind && !content.toList.all isSpace

/-- Whether a node keeps the tag beside it from being the root: a tag, a character data section, or
ordinary text that is not all blank. -/
def rivals : ParseTree → Bool
  | .tag _ _ _ _ | .document _ => true
  | .string kind content =>
    kind == .cdata || (isOrdinary kind && !content.toList.all Text.isBlank)

/-- Whether a place is the outermost tag: the first one inside the document, or the node that is
searched, if that is no document. -/
def Place.isOutermost (p : Place) : Bool :=
  match p.parent, p.node with
  | none, .document _ => false
  | none, _ => true
  | some (.mk (.document _) _ _ none), _ => !p.earlier.any isTag
  | some _, _ => false

/-- Whether a position among the siblings of a place is its own. -/
def Position.holds (p : Place) (position : Position) : Bool :=
  let counts (t : ParseTree) : Bool :=
    isTag t && (!position.sameType || nodeName t == nodeName p.node)
  let passed := if position.fromEnd then p.later else p.earlier
  position.includes ((passed.filter counts).length + 1)

/-- The places to which a combinator leads. -/
def Combinator.places (p : Place) : Combinator → List Place
  | .descendant => p.ancestors
  | .child => p.parent.toList
  | .nextSibling => p.siblingsBefore.take 1
  | .laterSibling => p.siblingsBefore

mutual
/-- Whether a condition holds at a place. -/
def Condition.holds (p : Place) : Condition → Bool
  | .type space name =>
    (space.all (· == ['*'])) && (name == ['*'] || lowerName name == nodeName p.node)
  | .idIs id => idText? p.node == some id
  | .inClass name => (classNames p.node).contains name
  | .attribute test => test.holds p.node
  | .position position => position.holds p
  | .root => p.isOutermost && !(p.earlier ++ p.later).any rivals
  | .scope => p.isOutermost
  | .empty => !p.node.contents.any fills
  | .never => false
  | .oneOf alternatives => oneHolds p alternatives
  | .noneOf alternatives => !oneHolds p alternatives

/-- Whether all conditions of a compound hold at a place. -/
def allHold (p : Place) : List Condition → Bool
  | [] => true
  | c :: cs => c.holds p && allHold p cs

/-- Whether a selector matches at a place. -/
def Complex.holds (p : Place) : Complex → Bool
  | .compound conditions => allHold p conditions
  | .related before how conditions =>
    allHold p conditions && (how.places p).any fun q => before.holds q

/-- Whether one of several selectors matches at a place. -/
def oneHolds (p : Place) : List Complex → Bool
  | [] => false
  | c :: cs => c.holds p || oneHolds p cs
end

/-- The tags inside a node at which one of the selectors matches, each once and in document order. -/
def select (alternatives : List Complex) (t : ParseTree) : List ParseTree :=
  ((placesIn t).filter fun p => oneHolds p alternatives).map Place.node

end MarkupQuery.Markup.Css
