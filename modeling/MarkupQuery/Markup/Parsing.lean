import MarkupQuery.Markup.Conversion
import MarkupQuery.Markup.Css.Matching
import MarkupQuery.Markup.Css.Reading
import MarkupQuery.Markup.Reader
import MarkupQuery.Session

/-!
# Parsing markup

Whole documents and fragments, read by the parser that is named, or by the one in the settings when
none is. Selecting with a style sheet selector works on the parse tree and converts the tags found.

Reading and style sheet selectors come from other packages. The parser for documents as they are found
in practice is assumed to be there and to read as `ParseTree.read` does, and the selectors to be read
and matched as `Css.read` and `Css.select` do. No other parser is assumed to be installed.
-/

namespace MarkupQuery.Markup

/-- The name of the parser to use: the given one, or the one in the settings. -/
def parserName (given : Option String) : Action String := do
  match given with
  | some name => if name.isEmpty then settingsName else pure name
  | none => settingsName
where
  settingsName : Action String := return (← get).settings.backend.name

/-- Whether the parser of a given name leaves fragments as they are. -/
def keepsFragments (parser : String) : Bool := (Backend.ofName? parser).any Backend.keepsFragments

/-- The names of the parser for documents as they are found in practice. -/
def lenientParsers : List String := ["html.parser", "html", "strict"]

/-- The parse tree that a parser makes of markup. The parsers that settings may name besides the one for
documents in practice belong to packages that are not installed, so that asking for one of them fails
like asking for any other name. -/
def readWith (parser : String) (markup : String) : Except Failure ParseTree :=
  if lenientParsers.contains parser then ParseTree.read markup else .error (.unknownParser parser)

/-- Parses a whole document; no markup gives no document. -/
def parse (markup : Option String) (given : Option String) : Action Value := do
  match markup with
  | none => pure .absent
  | some markup =>
    let parser ← parserName given
    let document := (← Action.ofExcept (readWith parser markup)).toNode
    Action.log .debug "chisel.tree.converter" "Parsed document"
      [("parser", .text parser), ("nodes", .whole document.children.length)]
    pure (.node document)

/-- Parses a fragment into its top-level nodes; no markup gives no fragment. -/
def parseFragment (markup : Option String) (given : Option String) : Action Value := do
  match markup with
  | none => pure .absent
  | some markup =>
    let parser ← parserName given
    let tree ← Action.ofExcept (readWith parser markup)
    let nodes := ParseTree.toNodes (tree.fragmentContents (keepsFragments parser))
    pure (.tuple (nodes.map .node))

/-- The converted tags inside some markup that match a style sheet selector. A text is read first, by
the parser in the settings; what is neither a text nor a parse tree holds no tags to ask for. -/
def selectCss (markup : Material) (css : String) : Action Value := do
  let select (t : ParseTree) : Action Value := do
    let selectors ← Action.ofExcept (Css.read css)
    pure (.list ((ParseTree.toNodes (Css.select selectors t)).map .node))
  let read (text : String) : Action Value := do
    select (← Action.ofExcept (readWith (← parserName none) text))
  match markup with
  | .text text => read text
  | .tree (.string _ text) => read text
  | .tree t => select t
  | _ => throw .notMarkup

end MarkupQuery.Markup
