import MarkupQuery.Text.Blank
import MarkupQuery.Text.LetterCase
import MarkupQuery.Tree.Node

/-!
# Doctype declarations

A declaration is a name, a keyword and up to two quoted identifiers, each of them optional and all
but the name set off by blanks. After the keyword `SYSTEM` the first identifier is the system one;
otherwise the first is the public and the second the system one. Reading stops where the text no
longer follows this form; what was read up to there counts.
-/

namespace MarkupQuery.Markup

/-- The keyword between the name and the identifiers. -/
inductive DoctypeKeyword where
  | publicId
  | systemId
  deriving DecidableEq, Repr

/-- The parts of a declaration. -/
structure Doctype where
  name : Option (List Char)
  keyword : Option DoctypeKeyword
  first : Option (List Char)
  second : Option (List Char)
  deriving DecidableEq, Repr

namespace Doctype

/-- The rest of a text after one or more blanks. -/
def afterBlanks : List Char → Option (List Char)
  | [] => none
  | c :: cs => if Text.isBlank c then some (cs.dropWhile Text.isBlank) else none

/-- A name: anything up to a blank or a quote. -/
def readName (cs : List Char) : Option (List Char) × List Char :=
  let inName (c : Char) : Bool := !(Text.isBlank c || c == '\'' || c == '"')
  let name := cs.takeWhile inName
  (if name.isEmpty then none else some name, cs.dropWhile inName)

/-- A keyword after blanks. -/
def readKeyword (cs : List Char) : Option DoctypeKeyword × List Char :=
  match afterBlanks cs with
  | none => (none, cs)
  | some word =>
    match Text.afterLetters "PUBLIC".toList word with
    | some rest => (some .publicId, rest)
    | none => match Text.afterLetters "SYSTEM".toList word with
      | some rest => (some .systemId, rest)
      | none => (none, cs)

/-- An identifier after blanks, between two quotes of the same kind. -/
def readQuoted (cs : List Char) : Option (List Char) × List Char :=
  match afterBlanks cs with
  | some (q :: inside) =>
    if q = '\'' ∨ q = '"' then
      match inside.dropWhile (· != q) with
      | _ :: rest => (some (inside.takeWhile (· != q)), rest)
      | [] => (none, cs)
    else (none, cs)
  | _ => (none, cs)

/-- Reads as much of a declaration as follows the form. -/
def read (cs : List Char) : Doctype :=
  let (name, afterName) := readName (cs.dropWhile Text.isBlank)
  let (keyword, afterKeyword) := readKeyword afterName
  let (first, afterFirst) := readQuoted afterKeyword
  let (second, _) := readQuoted afterFirst
  ⟨name, keyword, first, second⟩

/-- A named part, if it is there and not empty. -/
def part (name : String) : Option (List Char) → Attributes
  | some (c :: cs) => [(name, String.ofList (c :: cs))]
  | _ => []

/-- The stated parts as attributes, if there are any. -/
def attributes? (d : Doctype) : Option Attributes :=
  let stated := match d.keyword with
    | some .systemId => part "name" d.name ++ part "systemid" d.first
    | _ => part "name" d.name ++ part "publicid" d.first ++ part "systemid" d.second
  if stated.isEmpty then none else some stated

end Doctype
end MarkupQuery.Markup
