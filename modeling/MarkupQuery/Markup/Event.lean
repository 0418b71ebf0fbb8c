import MarkupQuery.Value

/-!
# Markup events

Markup text as a sequence of events: tags that open and close, character data with its references
replaced, and strings that are no character data. The modules on tags, declarations and references
say what may start an event; here are the type and the searches they share.
-/

namespace MarkupQuery.Markup

/-- The kinds of string in a parse tree. -/
inductive StringKind where
  | plain
  | cdata
  | comment
  | doctype
  | instruction
  | xmlInstruction
  | declaration
  | script
  | stylesheet
  | template
  deriving DecidableEq, Repr

inductive Event where
  | text (s : List Char)
  | openTag (name : String) (attributes : Mapping String Value) (closed : Bool)
  | closeTag (name : String)
  | string (kind : StringKind) (content : String)

/-- A piece of markup that has been read to its end: its events and the text after it. -/
structure Found where
  events : List Event
  rest : List Char

/-! ## Searches -/

/-- The text before the first occurrence of a character, and the text after it. -/
def upTo (mark : Char) (cs : List Char) : Option (List Char × List Char) :=
  match cs.dropWhile (· != mark) with
  | [] => none
  | _ :: rest => some (cs.takeWhile (· != mark), rest)

/-- The text before the first place at which `ends` finds an end, and what `ends` says there. -/
def upToEnd {α : Type} (ends : List Char → Option α) : List Char → Option (List Char × α)
  | [] => none
  | c :: cs => match ends (c :: cs) with
    | some found => some ([], found)
    | none => (upToEnd ends cs).map fun (inside, found) => (c :: inside, found)

/-- The rest of a text after a given beginning, in any ASCII case. -/
def afterWord : List Char → List Char → Option (List Char)
  | [], cs => some cs
  | _ :: _, [] => none
  | w :: ws, c :: cs => if c.toLower = w then afterWord ws cs else none

end MarkupQuery.Markup
