import MarkupQuery.Settings.Yaml.Token

/-!
# Scalars over several lines

A scalar may go on over several lines: quoted, plain, or as a block that is indented under its header.
Folding turns a single line end into one space and drops the first of several; blanks around line
ends are lost. A literal block is not folded.

The text of a scalar is a list of code points, since a double quoted one can name half of a surrogate
pair. The first argument of a reader that repeats itself bounds the repetitions; the length of the
text will do.
-/

namespace MarkupQuery.Yaml

/-- The code points of characters. -/
def pointsOf (cs : List Char) : List Nat := cs.map Char.toNat

/-- What a line end and the ones on the lines after it, all of them blank, fold into. -/
def foldLineEnds (first : Char) (more : List Char) : List Char :=
  if first ≠ '\n' then first :: more
  else if more.isEmpty then [' ']
  else more

/-! ## Quotes -/

/-- What a letter after a backslash stands for. -/
def escapedChar? (c : Char) : Option Char :=
  match c with
  | '0' => some '\x00'
  | 'a' => some '\x07'
  | 'b' => some '\x08'
  | 't' | '\t' => some '\t'
  | 'n' => some '\n'
  | 'v' => some '\x0b'
  | 'f' => some '\x0c'
  | 'r' => some '\r'
  | 'e' => some '\x1b'
  | ' ' => some ' '
  | '"' => some '"'
  | '\\' => some '\\'
  | '/' => some '/'
  | 'N' => some '\x85'
  | '_' => some '\xa0'
  | 'L' => some '\u2028'
  | 'P' => some '\u2029'
  | _ => none

/-- How many hexadecimal digits a letter after a backslash asks for. -/
def escapeWidth? (c : Char) : Option Nat :=
  match c with
  | 'x' => some 2
  | 'u' => some 4
  | 'U' => some 8
  | _ => none

/-- The code point that hexadecimal digits name. -/
def readCodePoint (width : Nat) (cur : Cursor) : Except Failure (Nat × Cursor) :=
  match (cur.rest.take width).mapM hexValue? with
  | some digits =>
    if digits.length < width then .error .malformed
    else
      let n := digits.foldl (fun n d => n * 16 + d) 0
      if n ≥ 0x80000000 then .error .hugeCharacter
      else if n ≥ 0x110000 then .error .noCharacter
      else .ok (n, cur.forward width)
  | none => .error .malformed

/-- The line ends of lines that hold blanks only, and the place of what comes then. No document may
start or end there. -/
def readBlankLines : Nat → Cursor → Except Failure (List Char × Cursor)
  | 0, cur => .ok ([], cur)
  | n + 1, cur => do
    if cur.atBoundary then throw .malformed
    let cur := cur.skip fun c => c == ' ' || c == '\t'
    match cur.lineEnd? with
    | none => pure ([], cur)
    | some (c, next) =>
      let (more, next) ← readBlankLines n next
      pure (c :: more, next)

/-- The code points of a quoted scalar up to its closing quote, and the place after that. -/
def readQuotedFrom (double : Bool) : Nat → Cursor → Except Failure (List Nat × Cursor)
  | 0, _ => .error .malformed
  | n + 1, cur => do
    let after (points : List Nat) (next : Cursor) : Except Failure (List Nat × Cursor) := do
      let (more, next) ← readQuotedFrom double n next
      pure (points ++ more, next)
    match cur.rest with
    | [] => throw .malformed
    | c :: cs =>
      if c = ' ' ∨ c = '\t' ∨ isBreak c then
        let (blanks, next) := cur.span fun c => c == ' ' || c == '\t'
        match next.rest.head?, next.lineEnd? with
        | none, _ => throw .malformed
        | _, none => after (pointsOf blanks) next
        | _, some (first, next) =>
          let (more, next) ← readBlankLines next.rest.length.succ next
          after (pointsOf (foldLineEnds first more)) next
      else if double then
        if c = '"' then pure ([], cur.next)
        else if c = '\\' then
          let next := cur.next
          match cs with
          | [] => throw .malformed
          | e :: _ => match escapedChar? e, escapeWidth? e with
            | some c, _ => after [c.toNat] next.next
            | none, some width =>
              let (point, next) ← readCodePoint width next.next
              after [point] next
            | none, none => match next.lineEnd? with
              | none => throw .malformed
              | some (_, next) =>
                let (ends, next) ← readBlankLines next.rest.length.succ next
                after (pointsOf ends) next
        else after [c.toNat] cur.next
      else if c = '\'' then
        if cs.head? = some '\'' then after ['\''.toNat] (cur.forward 2) else pure ([], cur.next)
      else after [c.toNat] cur.next

/-- A quoted scalar at its opening quote. -/
def readQuoted (double : Bool) (cur : Cursor) : Except Failure (List Nat × Cursor) :=
  readQuotedFrom double (cur.rest.length + 1) cur.next

/-! ## No quotes -/

/-- The characters that set off the parts of a flow collection. -/
def isFlowMark (c : Char) : Bool := [',', '[', ']', '\x7b', '\x7d'].contains c

/-- Whether a plain scalar may begin with a character, given what follows it. -/
def startsPlain (inFlow : Bool) (c : Char) (after : List Char) : Bool :=
  if c == '-' || ((c == '?' || c == ':') && !inFlow) then !spaceAhead after
  else !(isSpace c || isFlowMark c || ("-?:#&*!|>'\"%@\x60".toList).contains c)

/-- Whether a plain scalar goes on with a character, given what follows it. -/
def continuesPlain (inFlow : Bool) (c : Char) (after : List Char) : Bool :=
  !(isSpace c || (c == ':' && (spaceAhead after || (inFlow && after.head?.any isFlowMark))) ||
    (inFlow && (isFlowMark c || c == '?')))

/-- The characters of a plain scalar up to the next gap, and the place after them. -/
def readPlainRun (inFlow : Bool) (cur : Cursor) : List Char → List Char × Cursor
  | [] => ([], cur)
  | c :: cs =>
    if continuesPlain inFlow c cs then
      let (run, next) := readPlainRun inFlow (cur.after c cs) cs
      (c :: run, next)
    else ([], cur)

/-- The line ends of lines that hold spaces only, and the place of what comes then. Nothing, if a
document starts or ends there. -/
def readPlainLines : Nat → Cursor → Option (List Char) × Cursor
  | 0, cur => (some [], cur)
  | n + 1, cur =>
    if cur.column = 0 ∧ cur.atBoundary then (none, cur)
    else
      let cur := cur.skipSpaces
      match cur.lineEnd? with
      | none => (some [], cur)
      | some (c, next) =>
        let (more, next) := readPlainLines n next
        (more.map (c :: ·), next)

/-- A gap in a plain scalar: what it stands for, if the scalar can go on after it, whether there are
line ends in it, and the place after it. -/
def readPlainGap (cur : Cursor) : List Char × Bool × Cursor :=
  let (spaces, next) := cur.span (· == ' ')
  match next.lineEnd? with
  | none => (spaces, false, next)
  | some (first, next) =>
    let (more, next) := readPlainLines (next.rest.length + 1) next
    ((more.map (foldLineEnds first)).getD [], true, next)

/-- A scalar without quotes: its characters, whether the place after it is on a later line than its
last character, and that place. A further line belongs to it if it is indented enough. -/
def readPlainFrom (inFlow : Bool) (least : Int) :
    Nat → (gap : List Char) → (brokeLine : Bool) → Cursor → List Char × Bool × Cursor
  | 0, _, brokeLine, cur => ([], brokeLine, cur)
  | n + 1, gap, brokeLine, cur =>
    let (run, next) := readPlainRun inFlow cur cur.rest
    if cur.rest.head? = some '#' ∨ run.isEmpty then ([], brokeLine, cur)
    else
      let (gap', broke, after) := readPlainGap next
      if gap'.isEmpty ∨ after.rest.head? = some '#' ∨ (!inFlow ∧ after.column < least) then
        (gap ++ run, broke, after)
      else
        let (more, brokeLine, last) := readPlainFrom inFlow least n gap' broke after
        (gap ++ run ++ more, brokeLine, last)

/-- A plain scalar that begins here; further lines of it start at the given column or after it. -/
def readPlain (inFlow : Bool) (least : Int) (cur : Cursor) : List Char × Bool × Cursor :=
  readPlainFrom inFlow least (cur.rest.length + 1) [] false cur

/-! ## Blocks -/

/-- Which of the line ends at the end of a block are kept. -/
inductive Chomping where
  | none
  | one
  | all
  deriving DecidableEq, Repr

/-- The chomping that a sign asks for. -/
def chompingOf? (c : Char) : Option Chomping :=
  if c = '+' then some .all else if c = '-' then some .none else none

/-- How much deeper than its surroundings a block is, if a digit says so. Zero is not allowed. -/
def depthOf? (c : Char) : Option Nat := if c.isDigit then some (c.toNat - 0x30) else none

/-- What stands in the header of a block after its mark: a sign and a digit, in any order. -/
def readBlockHeader (cur : Cursor) : Except Failure ((Chomping × Option Nat) × Cursor) := do
  let sign (cur : Cursor) : Option Chomping × Cursor :=
    match cur.rest.head?.bind chompingOf? with
    | some c => (some c, cur.next)
    | none => (none, cur)
  let depth (cur : Cursor) : Option Nat × Cursor :=
    match cur.rest.head?.bind depthOf? with
    | some n => (some n, cur.next)
    | none => (none, cur)
  let (before, next) := sign cur
  let (increment, next) := depth next
  let (chomping, next) := if before.isSome then (before, next)
    else if increment.isSome then sign next else (none, next)
  if increment = some 0 ∨ !plainSpaceAhead next.rest then throw .malformed
  pure ((chomping.getD .one, increment), ← readLineOver next)

/-- The line ends in front of a block whose depth is not said, the deepest column reached there, and
the place of the first line that is not empty. -/
def readBlockStart : Nat → Nat → Cursor → List Char × Nat × Cursor
  | 0, deepest, cur => ([], deepest, cur)
  | n + 1, deepest, cur =>
    let cur := cur.skipSpaces
    let deepest := max deepest cur.column
    match cur.lineEnd? with
    | none => ([], deepest, cur)
    | some (c, next) =>
      let (more, deepest, next) := readBlockStart n deepest next
      (c :: more, deepest, next)

/-- The line ends of the empty lines of a block, and the place of the next line's first character that
is not indentation. -/
def readBlockBreaks (indent : Nat) : Nat → Cursor → List Char × Cursor
  | 0, cur => ([], cur)
  | n + 1, cur =>
    let cur := cur.forward ((cur.rest.takeWhile (· == ' ')).length.min (indent - cur.column))
    match cur.lineEnd? with
    | none => ([], cur)
    | some (c, next) =>
      let (more, next) := readBlockBreaks indent n next
      (c :: more, next)

/-- Whether a line is more than folding would join: it begins with a blank. -/
def beginsBlank (cur : Cursor) : Bool := cur.rest.head?.any fun c => c == ' ' || c == '\t'

/-- The lines of a block, given the line ends in front of the first of them. -/
def readBlockLines (folded : Bool) (chomping : Chomping) (indent : Nat) :
    Nat → (breaks : List Char) → (lineEnd : List Char) → Cursor → List Char × Cursor
  | 0, _, _, cur => ([], cur)
  | n + 1, breaks, lineEnd, cur =>
    let inBlock (cur : Cursor) : Bool := cur.column == indent && !cur.rest.isEmpty
    if inBlock cur then
      let (line, next) := cur.span (!isBreak ·)
      let (ended, next) := match next.lineEnd? with
        | some (c, next) => ([c], next)
        | none => ([], next)
      let (breaks', next) := readBlockBreaks indent (next.rest.length + 1) next
      let joint :=
        if !inBlock next then []
        else if folded && ended == ['\n'] && !beginsBlank cur && !beginsBlank next then
          if breaks'.isEmpty then [' '] else []
        else ended
      let (more, last) := readBlockLines folded chomping indent n breaks' ended next
      (breaks ++ line ++ joint ++ more, last)
    else
      (match chomping with
        | .none => []
        | .one => lineEnd
        | .all => lineEnd ++ breaks, cur)

/-- A block scalar at its mark, inside a block of the given indentation. -/
def readBlock (folded : Bool) (indentation : Int) (cur : Cursor) :
    Except Failure (List Char × Cursor) := do
  let ((chomping, increment), next) ← readBlockHeader cur.next
  let least := (max 1 (indentation + 1)).toNat
  let bound := next.rest.length + 1
  let (breaks, indent, next) := match increment with
    | none =>
      let (breaks, deepest, next) := readBlockStart bound 0 next
      (breaks, max least deepest, next)
    | some n =>
      let indent := least + n - 1
      let (breaks, next) := readBlockBreaks indent bound next
      (breaks, indent, next)
  pure (readBlockLines folded chomping indent bound breaks [] next)

end MarkupQuery.Yaml
