import MarkupQuery.Mapping
import MarkupQuery.Settings.Yaml.Folding

/-!
# From text to tokens

A text is read token by token. The column of a token tells which blocks end in front of it. Whether
something is a key shows only at the colon behind it, so every place where a key may begin is kept in
mind until the colon comes, or until it can no longer come: keys without a mark of their own end on
the line on which they begin, and are at most 1024 characters long. At the colon the key mark, and the
start of a block if the key is its first, are put in where the key begins.
-/

namespace MarkupQuery.Yaml

/-- A place where a key may have begun. -/
structure SimpleKey where
  /-- How many tokens stand before the key. -/
  position : Nat
  /-- Whether nothing but a key can stand there. -/
  required : Bool
  index : Nat
  line : Nat
  column : Nat

/-- The tokens of a text, and the failure that they end in, if they do. -/
structure TokenStream where
  tokens : List Token
  failure : Option Failure

/-- A text that has been read up to some place. -/
structure Scanner where
  cursor : Cursor
  /-- The tokens so far, last first. -/
  tokens : List Token := []
  /-- The column of the innermost open block, and of those around it. -/
  indent : Int := -1
  outerIndents : List Int := []
  /-- How many flow collections are open. -/
  flowLevel : Nat := 0
  /-- Whether a key may begin here. -/
  keyAllowed : Bool := true
  /-- Where keys may have begun, by flow level. -/
  keys : Mapping Nat SimpleKey := []
  finished : Bool := false

namespace Scanner

def inFlow (s : Scanner) : Bool := s.flowLevel != 0

/-- Appends a token. -/
def push (s : Scanner) (t : Token) : Scanner := { s with tokens := t :: s.tokens }

/-- Puts a token in behind a number of tokens. -/
def insert (s : Scanner) (position : Nat) (t : Token) : Scanner :=
  { s with tokens := s.tokens.insertIdx (s.tokens.length - position) t }

/-- Appends a token of some characters, and passes over them. -/
def mark (s : Scanner) (width : Nat) (t : Token) : Scanner :=
  { s.push t with cursor := s.cursor.forward width }

/-! ## Blocks -/

/-- Ends the blocks that lie deeper than a column. -/
def unwind (s : Scanner) (column : Int) : Scanner :=
  if s.inFlow then s
  else
    let rec go (s : Scanner) : List Int → Scanner
      | [] => s
      | outer :: outers =>
        if s.indent > column then
          go { s.push .blockEnd with indent := outer, outerIndents := outers } outers
        else s
    go s s.outerIndents

/-- Opens a block at a column, if that is deeper than the open one; says whether it did. -/
def openBlock (s : Scanner) (column : Nat) : Bool × Scanner :=
  if s.indent < column then
    (true, { s with indent := column, outerIndents := s.indent :: s.outerIndents })
  else (false, s)

/-- Opens a block at the current column, with its token. -/
def startBlock (s : Scanner) (t : Token) : Scanner :=
  match s.openBlock s.cursor.column with
  | (true, s) => s.push t
  | (false, s) => s

/-! ## Keys -/

/-- Gives up the key that may have begun at the current flow level. -/
def dropKey (s : Scanner) : Except Failure Scanner :=
  match s.keys.find? s.flowLevel with
  | some key => if key.required then .error .malformed
    else .ok { s with keys := s.keys.remove s.flowLevel }
  | none => .ok s

/-- Gives up the keys for which a colon would come too late. -/
def dropStaleKeys (s : Scanner) : Except Failure Scanner :=
  let isStale (key : SimpleKey) : Bool :=
    key.line != s.cursor.line || s.cursor.index - key.index > 1024
  if s.keys.any fun p => isStale p.2 && p.2.required then .error .malformed
  else .ok { s with keys := s.keys.filter fun p => !isStale p.2 }

/-- Keeps in mind that a key may begin here. -/
def noteKey (s : Scanner) : Except Failure Scanner :=
  if s.keyAllowed then do
    let s ← s.dropKey
    let required := !s.inFlow && s.indent == s.cursor.column
    let key := ⟨s.tokens.length, required, s.cursor.index, s.cursor.line, s.cursor.column⟩
    pure { s with keys := s.keys.put s.flowLevel key }
  else .ok s

/-! ## Single tokens -/

/-- Passes over spaces, line ends and comments. Outside flow collections, a key may begin on a new
line. The number bounds the lines. -/
def skipGaps : Nat → Scanner → Scanner
  | 0, s => s
  | n + 1, s =>
    let cursor := s.cursor.skipSpaces
    let cursor := if cursor.rest.head? = some '#' then cursor.skipLine else cursor
    match cursor.lineEnd? with
    | some (_, next) =>
      skipGaps n { s with cursor := next, keyAllowed := s.keyAllowed || !s.inFlow }
    | none => { s with cursor }

/-- Ends all blocks and keys, in front of what stands outside them. -/
def leaveBlocks (s : Scanner) : Except Failure Scanner := do
  let s ← (s.unwind (-1)).dropKey
  pure { s with keyAllowed := false }

/-- The start of a flow collection, which may be a key. -/
def openFlow (s : Scanner) (t : Token) : Except Failure Scanner := do
  let s ← s.noteKey
  pure { s.mark 1 t with flowLevel := s.flowLevel + 1, keyAllowed := true }

/-- The end of a flow collection. -/
def closeFlow (s : Scanner) (t : Token) : Except Failure Scanner := do
  let s ← s.dropKey
  if s.inFlow then pure { s.mark 1 t with flowLevel := s.flowLevel - 1, keyAllowed := false }
  else throw .malformed

/-- The comma between the parts of a flow collection. -/
def separateFlow (s : Scanner) : Except Failure Scanner := do
  let s ← { s with keyAllowed := true }.dropKey
  pure (s.mark 1 .flowEntry)

/-- The hyphen in front of a part of a block sequence. -/
def startEntry (s : Scanner) : Except Failure Scanner := do
  if !s.inFlow && !s.keyAllowed then throw .malformed
  let s := if s.inFlow then s else s.startBlock .blockSequenceStart
  let s ← { s with keyAllowed := true }.dropKey
  pure (s.mark 1 .blockEntry)

/-- The question mark in front of a key. -/
def startKey (s : Scanner) : Except Failure Scanner := do
  if !s.inFlow && !s.keyAllowed then throw .malformed
  let s := if s.inFlow then s else s.startBlock .blockMappingStart
  let s ← { s with keyAllowed := !s.inFlow }.dropKey
  pure (s.mark 1 .key)

/-- The colon in front of a value. -/
def startValue (s : Scanner) : Except Failure Scanner := do
  match s.keys.find? s.flowLevel with
  | some key =>
    let s := { s with keys := s.keys.remove s.flowLevel }.insert key.position .key
    let s := if s.inFlow then s else match s.openBlock key.column with
      | (true, s) => s.insert key.position .blockMappingStart
      | (false, s) => s
    pure ({ s with keyAllowed := false }.mark 1 .value)
  | none =>
    if !s.inFlow && !s.keyAllowed then throw .malformed
    let s := if s.inFlow then s else s.startBlock .blockMappingStart
    let s ← { s with keyAllowed := !s.inFlow }.dropKey
    pure (s.mark 1 .value)

/-- A token that may be a key or belong to one. -/
def keyPart (s : Scanner) (read : Cursor → Except Failure (Token × Cursor)) :
    Except Failure Scanner := do
  let s ← s.noteKey
  let (t, cursor) ← read s.cursor
  pure { s.push t with cursor, keyAllowed := false }

/-- A plain scalar. A key may begin after it if a later line has begun. -/
def plainScalar (s : Scanner) : Except Failure Scanner := do
  let s ← s.noteKey
  let (text, brokeLine, cursor) := readPlain s.inFlow (s.indent + 1) s.cursor
  pure { s.push (.scalar (pointsOf text) true) with cursor, keyAllowed := brokeLine }

/-- A block scalar. -/
def blockScalar (s : Scanner) (folded : Bool) : Except Failure Scanner := do
  let s ← { s with keyAllowed := true }.dropKey
  let (text, cursor) ← readBlock folded s.indent s.cursor
  pure { s.push (.scalar (pointsOf text) false) with cursor }

/-- Reads what begins with a character, given what follows it. -/
def fetch (s : Scanner) (c : Char) (after : List Char) : Except Failure Scanner :=
  let atStart := s.cursor.column == 0
  let named (token : List Char → Token) : Except Failure Scanner := s.keyPart fun cur => do
    let (name, cur) ← readAnchorName cur.next
    pure (token name, cur)
  let quoted (double : Bool) : Except Failure Scanner := s.keyPart fun cur => do
    let (points, cur) ← readQuoted double cur
    pure (.scalar points false, cur)
  if c = '%' ∧ atStart then do
    let s ← s.leaveBlocks
    let (d, cursor) ← readDirective s.cursor
    pure { s.push (.directive d) with cursor }
  else if atStart && s.cursor.atMark Cursor.startMark then return (← s.leaveBlocks).mark 3 .documentStart
  else if atStart && s.cursor.atMark Cursor.endMark then return (← s.leaveBlocks).mark 3 .documentEnd
  else if c = '[' then s.openFlow .flowSequenceStart
  else if c = '\x7b' then s.openFlow .flowMappingStart
  else if c = ']' then s.closeFlow .flowSequenceEnd
  else if c = '\x7d' then s.closeFlow .flowMappingEnd
  else if c = ',' then s.separateFlow
  else if c = '-' ∧ spaceAhead after then s.startEntry
  else if c = '?' ∧ (s.inFlow ∨ spaceAhead after) then s.startKey
  else if c = ':' ∧ (s.inFlow ∨ spaceAhead after) then s.startValue
  else if c = '*' then named .alias
  else if c = '&' then named .anchor
  else if c = '!' then s.keyPart fun cur => do
    let (tag, cur) ← readTag cur
    pure (.tag tag, cur)
  else if c = '|' ∧ !s.inFlow then s.blockScalar false
  else if c = '>' ∧ !s.inFlow then s.blockScalar true
  else if c = '\'' then quoted false
  else if c = '"' then quoted true
  else if startsPlain s.inFlow c after then s.plainScalar
  else .error .malformed

/-- Reads the next token, or the end of the text. -/
def step (s : Scanner) : Except Failure Scanner := do
  let s ← (s.skipGaps (s.cursor.rest.length + 1)).dropStaleKeys
  let s := s.unwind s.cursor.column
  match s.cursor.rest with
  | [] => return { (← s.leaveBlocks) with finished := true }
  | c :: cs => s.fetch c cs

/-- Reads tokens until the text is over. The number bounds the tokens. -/
def run : Nat → Scanner → TokenStream
  | 0, s => ⟨s.tokens.reverse, some .malformed⟩
  | n + 1, s => match s.step with
    | .error f => ⟨s.tokens.reverse, some f⟩
    | .ok s => if s.finished then ⟨s.tokens.reverse, none⟩ else run n s

end Scanner

/-- Whether a text can hold a character. -/
def isReadable (c : Char) : Bool :=
  let n := c.toNat
  n == 0x9 || n == 0xA || n == 0xD || (0x20 ≤ n && n ≤ 0x7E) || n == 0x85 || (0xA0 ≤ n && n ≤ 0xD7FF) ||
    (0xE000 ≤ n && n ≤ 0xFFFD) || 0x10000 ≤ n

/-- Makes every line end a single line feed. -/
def unifyLineEnds : List Char → List Char
  | [] => []
  | '\r' :: '\n' :: cs => '\n' :: unifyLineEnds cs
  | c :: cs => (if c = '\r' then '\n' else c) :: unifyLineEnds cs

/-- The tokens of a text. A byte order mark in front of it counts for nothing. -/
def TokenStream.ofText (s : String) : TokenStream :=
  let cs := unifyLineEnds s.toList
  if cs.all isReadable then
    let start : Cursor := ⟨cs, 0, 0, 0⟩
    let cursor := if cs.head? = some byteOrderMark then start.next else start
    Scanner.run (cs.length + 2) { cursor }
  else ⟨[], some .malformed⟩

end MarkupQuery.Yaml
