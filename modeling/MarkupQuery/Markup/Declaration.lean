import MarkupQuery.Failure
import MarkupQuery.Markup.Event
import MarkupQuery.Text.Blank

/-!
# Declarations

What an exclamation mark after an opening bracket announces: a comment, a doctype, a marked section,
or anything else up to the next closing bracket, which counts as a comment. A marked section needs a
known keyword; with another one, or with none, the whole markup is rejected.
-/

namespace MarkupQuery.Markup

/-- The text after the end of a comment, if that starts here. -/
def commentEnd (cs : List Char) : Option (List Char) :=
  match cs with
  | '-' :: '-' :: more => match more.dropWhile Text.isBlank with
    | '>' :: rest => some rest
    | _ => none
  | _ => none

/-- The text after the end of a section, if that starts here: square brackets, as many as given, and
a closing bracket, with blanks between them or not. -/
def sectionEnd : Nat → List Char → Option (List Char)
  | 0, '>' :: rest => some rest
  | n + 1, ']' :: more => sectionEnd n (more.dropWhile Text.isBlank)
  | _, _ => none

/-- How many square brackets end a section with the given keyword, if it is one. -/
def sectionBrackets? (keyword : String) : Option Nat :=
  if ["temp", "cdata", "ignore", "include", "rcdata"].contains keyword then some 2
  else if ["if", "else", "endif"].contains keyword then some 1
  else none

/-- The string that a section holds. -/
def sectionString (inside : List Char) : Event :=
  match afterWord "cdata[".toList inside with
  | some inside => .string .cdata (String.ofList inside)
  | none => .string .declaration (String.ofList inside)

/-- A marked section, given the text after its square bracket. -/
def readSection (cs : List Char) : Except Failure (Option Found) :=
  let inName (c : Char) : Bool := c.isAlphanum || c == '-' || c == '_' || c == '.'
  let name := cs.takeWhile inName
  let rest := (cs.dropWhile inName).dropWhile Text.isBlank
  if cs.isEmpty then .ok none
  else if !cs.head?.any Char.isAlpha then
    .error (.namelessSection (String.ofList (("<![".toList ++ cs).take 20)))
  else if rest.isEmpty then .ok none
  else match sectionBrackets? (String.ofList (name.map Char.toLower)) with
    | none => .error (.unknownSection (String.ofList (cs.take (cs.length - rest.length))))
    | some n => .ok ((upToEnd (sectionEnd n) cs).map fun (inside, rest) =>
      ⟨[sectionString inside], rest⟩)

/-- A declaration of any kind, given the text after its exclamation mark. -/
def readDeclaration (cs : List Char) : Except Failure (Option Found) :=
  let string (kind : StringKind) (inside rest : List Char) : Found :=
    ⟨[.string kind (String.ofList inside)], rest⟩
  match cs with
  | '-' :: '-' :: more =>
    .ok ((upToEnd commentEnd more).map fun (inside, rest) => string .comment inside rest)
  | '[' :: more => readSection more
  | cs => match afterWord "doctype".toList cs with
    | some more => .ok ((upTo '>' more).map fun (inside, rest) => string .doctype (inside.drop 1) rest)
    | none => .ok ((upTo '>' cs).map fun (inside, rest) => string .comment inside rest)

end MarkupQuery.Markup
