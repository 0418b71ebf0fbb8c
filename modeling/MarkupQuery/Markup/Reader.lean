import MarkupQuery.Markup.EventStream
import MarkupQuery.Markup.ParseTree

/-!
# From markup events to parse trees

An opening tag opens an element inside the one that is open, a closing tag closes everything up to
the nearest open element of its name and is passed over if there is none. Void elements, and tags
that close themselves, hold nothing; a closing tag that comes later for a void element counts for
nothing at all. Character data between two other events is one string. A string of spaces and line
ends only, or of nothing, shrinks to one line end if it has one and to one space otherwise, except
inside elements that preserve space.

The events and what becomes of them are those of the parser's package, as far as its documentation and
the trees that it makes show them.
-/

namespace MarkupQuery.Markup

/-- An element that is open: its contents are listed last first. -/
structure OpenElement where
  name : String
  attributes : Mapping String Value
  contents : List ParseTree

/-- A document under construction. -/
structure Construction where
  /-- Open elements, innermost first. -/
  openElements : List OpenElement := []
  /-- Contents of the document, last first. -/
  top : List ParseTree := []
  /-- Character data since the last other event, last piece first. -/
  pending : List (List Char) := []
  /-- Void elements whose closing tag may still come. -/
  unclosedVoids : List String := []

/-- The elements that never hold anything. -/
def voidElements : List String :=
  ["area", "base", "br", "col", "embed", "hr", "img", "input", "keygen", "link", "menuitem", "meta",
   "param", "source", "track", "wbr", "basefont", "bgsound", "command", "frame", "image", "isindex",
   "nextid", "spacer"]

/-- The elements in which space is significant. -/
def spacePreservingElements : List String := ["pre", "textarea"]

namespace Construction

/-- The characters that a string shrinks from. -/
def isPlainSpace (c : Char) : Bool := " \n\t\x0c\r".toList.contains c

/-- A string of plain space, shrunk. -/
def shrink (s : List Char) : List Char :=
  if s.all isPlainSpace then (if s.contains '\n' then ['\n'] else [' ']) else s

/-- Whether an open element preserves space. -/
def preservesSpace (c : Construction) : Bool :=
  c.openElements.any fun e => spacePreservingElements.contains e.name

/-- Appends a node to what is open. -/
def append (c : Construction) (t : ParseTree) : Construction :=
  match c.openElements with
  | [] => { c with top := t :: c.top }
  | e :: es => { c with openElements := { e with contents := t :: e.contents } :: es }

/-- Appends a string, shrunk where space is not preserved. -/
def appendString (c : Construction) (kind : StringKind) (s : List Char) : Construction :=
  c.append (.string kind (String.ofList (if c.preservesSpace then s else shrink s)))

/-- Appends the character data that has come together. -/
def flush (c : Construction) : Construction :=
  match c.pending with
  | [] => c
  | pieces => { c.appendString .plain pieces.reverse.flatten with pending := [] }

/-- The node that a finished element becomes. -/
def finished (e : OpenElement) : ParseTree :=
  .tag e.name none e.attributes e.contents.reverse

/-- Closes the innermost open element. -/
def closeInnermost (c : Construction) : Construction :=
  match c.openElements with
  | [] => c
  | e :: es => { c with openElements := es }.append (finished e)

/-- Closes a number of open elements. -/
def closeMany : Nat → Construction → Construction
  | 0, c => c
  | n + 1, c => closeMany n c.closeInnermost

/-- Closes everything up to the nearest open element of a name. -/
def close (c : Construction) (name : String) : Construction :=
  match c.openElements.findIdx? (·.name == name) with
  | some i => closeMany (i + 1) c
  | none => c

/-- Takes one event in. -/
def step (c : Construction) (event : Event) : Construction :=
  match event with
  | .text s => { c with pending := s :: c.pending }
  | .openTag name attributes closed =>
    let c := c.flush
    if closed then c.append (.tag name none attributes [])
    else if voidElements.contains name then
      { c.append (.tag name none attributes []) with unclosedVoids := name :: c.unclosedVoids }
    else { c with openElements := ⟨name, attributes, []⟩ :: c.openElements }
  | .closeTag name =>
    if c.unclosedVoids.contains name then { c with unclosedVoids := c.unclosedVoids.erase name }
    else c.flush.close name
  | .string kind s => c.flush.appendString kind s.toList

/-- Closes all that is open and gives the document. -/
def document (c : Construction) : ParseTree :=
  let c := c.flush
  .document (closeMany c.openElements.length c).top.reverse

end Construction

/-- The parse tree of markup text. -/
def ParseTree.read (markup : String) : Except Failure ParseTree := do
  let events ← Event.readAll markup.toList
  pure (events.foldl Construction.step {}).document

end MarkupQuery.Markup
