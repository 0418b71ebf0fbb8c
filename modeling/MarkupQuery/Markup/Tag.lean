import MarkupQuery.Markup.Event
import MarkupQuery.Markup.Reference
import MarkupQuery.Text.Blank
import MarkupQuery.Text.LetterCase

/-!
# Tags

An opening tag is a name and attributes, up to the closing bracket. Blanks and slashes stand between
attributes, and where none stands an attribute can begin only after a quote. A value is quoted or
bare. A quote that does not end starts no value: the equals sign before it then has an empty value
if blanks stand between the two, and belongs to a bare value if another equals sign precedes it.

A closing tag is read more loosely: its name counts, and whatever stands between the name and the
bracket is passed over.
-/

namespace MarkupQuery.Markup

/-! ## Attributes -/

def isQuote (c : Char) : Bool := c == '\'' || c == '"'

/-- Skips blanks, and slashes that do not close a tag. Whether an attribute may start where the skip
ends is as given, if there was nothing to skip. -/
def skipFiller (mayStart : Bool) : List Char → Bool × List Char
  | [] => (mayStart, [])
  | c :: cs =>
    if Text.isBlank c then skipFiller true cs
    else if c = '/' ∧ cs.head? ≠ some '>' then skipFiller true cs
    else (mayStart, c :: cs)

/-- An attribute value after equals signs. -/
structure AttributeValue where
  value : List Char
  /-- Whether an attribute may follow without a blank. -/
  mayFollow : Bool
  rest : List Char

/-- A value without quotes: everything up to a blank or the end of the tag. -/
def readBareValue (cs : List Char) : AttributeValue :=
  let inValue (c : Char) : Bool := !(c == '>' || Text.isBlank c)
  ⟨cs.takeWhile inValue, false, cs.dropWhile inValue⟩

/-- The value after an attribute name, if equals signs and a value stand there. -/
def readValue (cs : List Char) : Option AttributeValue :=
  match cs.dropWhile Text.isBlank with
  | '=' :: more =>
    let afterEquals := more.dropWhile (· == '=')
    let start := afterEquals.dropWhile Text.isBlank
    match start with
    | [] => some ⟨[], false, []⟩
    | c :: inside =>
      if isQuote c then match upTo c inside with
        | some (value, rest) => some ⟨value, true, rest⟩
        | none =>
          if afterEquals.head?.any Text.isBlank then some ⟨[], true, start⟩
          else if more.head? = some '=' then some (readBareValue ('=' :: start))
          else none
      else some (readBareValue start)
  | _ => none

/-- The attributes of a tag, in order, and the text after them. The first argument bounds their
number; the length of the text will do. -/
def readAttributes : Nat → Bool → List Char → List (String × Value) × List Char
  | 0, _, cs => ([], cs)
  | n + 1, mayStart, cs => match skipFiller mayStart cs with
    | (true, c :: more) =>
      if c = '>' ∨ c = '/' then ([], c :: more)
      else
        let inName (c : Char) : Bool := !(c == '/' || c == '=' || c == '>' || Text.isBlank c)
        let name := c :: more.takeWhile inName
        let afterName := more.dropWhile inName
        let found := (readValue afterName).getD ⟨[], name.getLast?.any isQuote, afterName⟩
        let (others, rest) := readAttributes n found.mayFollow found.rest
        let value := Value.text (String.ofList (decodeValue found.value))
        ((Text.lower (String.ofList name), value) :: others, rest)
    | (_, cs) => ([], cs)

/-! ## Opening tags -/

/-- The tags whose contents are not read as markup. -/
def isRawTag (name : String) : Bool := name == "script" || name == "style"

/-- Whether a character belongs to a tag name once that has begun. -/
def inTagName (c : Char) : Bool := !"\t\n\r\x0c />\x00".toList.contains c

/-- An opening tag, given the text after its bracket. What breaks off in the middle of a tag is no
tag but character data. -/
def readOpenTag (cs : List Char) : Option Found :=
  let name := cs.takeWhile inTagName
  let afterName := cs.dropWhile inTagName
  let (attributes, rest) := readAttributes cs.length (name.getLast?.any isQuote) afterName
  let tag (closed : Bool) : Event :=
    .openTag (Text.lower (String.ofList name)) (Mapping.ofPairs attributes) closed
  match rest with
  | [] => none
  | '>' :: rest => some ⟨[tag false], rest⟩
  | '/' :: '>' :: rest => some ⟨[tag true], rest⟩
  | c :: _ => if c = '=' ∨ c.isAlpha then none else some ⟨[.text ('<' :: name)], rest⟩

/-! ## Closing tags -/

/-- The name and the rest of a closing tag that holds a plain name and nothing else, given the text
after its slash. -/
def readPlainClose (cs : List Char) : Option (List Char × List Char) :=
  let named := cs.dropWhile Text.isBlank
  let inName (c : Char) : Bool :=
    c.isAlphanum || c == '-' || c == '.' || c == ':' || c == '_'
  match (named.dropWhile inName).dropWhile Text.isBlank with
  | '>' :: rest => if named.head?.any Char.isAlpha then some (named.takeWhile inName, rest) else none
  | _ => none

/-- A closing tag, given the text after its slash. What has no name makes a comment. -/
def readCloseTag (cs : List Char) : Option Found :=
  let closing (name : List Char) : Event := .closeTag (Text.lower (String.ofList name))
  match readPlainClose cs with
  | some (name, rest) => some ⟨[closing name], rest⟩
  | none => (upTo '>' cs).map fun (inside, rest) =>
    if cs.head?.any Char.isAlpha then ⟨[closing (cs.takeWhile inTagName)], rest⟩
    else if inside.isEmpty then ⟨[], rest⟩
    else ⟨[.string .comment (String.ofList inside)], rest⟩

/-- The closing tag that ends raw contents, if it starts here: the tag and the text after it. Its
name may stand in any case. -/
def rawEnd (name : String) (cs : List Char) : Option (List Char × List Char) :=
  match cs with
  | '<' :: '/' :: more => do
    let afterName ← Text.afterLetters name.toList (more.dropWhile Text.isBlank)
    match afterName.dropWhile Text.isBlank with
    | '>' :: rest => some (cs.take (cs.length - rest.length), rest)
    | _ => none
  | _ => none

end MarkupQuery.Markup
