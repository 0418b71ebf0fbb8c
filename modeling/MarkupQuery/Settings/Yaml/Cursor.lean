/-!
# Places in a text

A cursor is a place in a text: what is left from there on, with how many characters lie before it, the
line and the column. Columns tell how far blocks are indented; the other two tell whether a key is
still near enough to its colon.
-/

namespace MarkupQuery.Yaml

structure Cursor where
  rest : List Char
  index : Nat := 0
  line : Nat := 0
  column : Nat := 0
  deriving Inhabited

/-- The characters that end a line. -/
def isBreak (c : Char) : Bool := c == '\n' || c == '\x85' || c == '\u2028' || c == '\u2029'

/-- Blanks and line ends, tabs included. -/
def isSpace (c : Char) : Bool := c == ' ' || c == '\t' || isBreak c

/-- Whether a text is over or goes on with a space. -/
def spaceAhead (cs : List Char) : Bool := cs.head?.all isSpace

/-- Whether a text is over or goes on with a space, tabs aside. -/
def plainSpaceAhead (cs : List Char) : Bool := cs.head?.all fun c => c == ' ' || isBreak c

/-- Whether a line is over. -/
def lineOver (cs : List Char) : Bool := cs.head?.all isBreak

/-- The mark that a text may begin with to show its byte order. -/
def byteOrderMark : Char := '\uFEFF'

namespace Cursor

/-- The place after a character, given what follows it. A byte order mark takes no column. -/
def after (cur : Cursor) (c : Char) (rest : List Char) : Cursor :=
  if isBreak c then ⟨rest, cur.index + 1, cur.line + 1, 0⟩
  else ⟨rest, cur.index + 1, cur.line, if c = byteOrderMark then cur.column else cur.column + 1⟩

/-- The place after a number of characters. -/
def forward : Nat → Cursor → Cursor
  | 0, cur => cur
  | n + 1, cur => match cur.rest with
    | [] => cur
    | c :: cs => forward n (cur.after c cs)

/-- The place after the next character. -/
def next (cur : Cursor) : Cursor := cur.forward 1

/-- The characters of a kind that stand here, and the place after them. -/
def span (cur : Cursor) (kind : Char → Bool) : List Char × Cursor :=
  let taken := cur.rest.takeWhile kind
  (taken, cur.forward taken.length)

/-- The place after all characters of a kind that stand here. -/
def skip (cur : Cursor) (kind : Char → Bool) : Cursor := (cur.span kind).2

/-- The place after the spaces that stand here, tabs aside. -/
def skipSpaces (cur : Cursor) : Cursor := cur.skip (· == ' ')

/-- The place at the end of the line. -/
def skipLine (cur : Cursor) : Cursor := cur.skip (!isBreak ·)

/-- What the line end that stands here counts as, and the place after it. -/
def lineEnd? (cur : Cursor) : Option (Char × Cursor) :=
  match cur.rest with
  | c :: _ => if isBreak c then some (if c = '\x85' then '\n' else c, cur.next) else none
  | [] => none

/-- The place after the line end that may stand here. -/
def skipLineEnd (cur : Cursor) : Cursor := ((cur.lineEnd?).map Prod.snd).getD cur

/-- Whether three characters stand here that mark where a document starts or ends. -/
def atMark (cur : Cursor) (mark : List Char) : Bool :=
  mark.isPrefixOf cur.rest && spaceAhead (cur.rest.drop mark.length)

def startMark : List Char := ['-', '-', '-']

def endMark : List Char := ['.', '.', '.']

/-- Whether a document starts or ends here, as far as the characters go. -/
def atBoundary (cur : Cursor) : Bool := cur.atMark startMark || cur.atMark endMark

end Cursor
end MarkupQuery.Yaml
