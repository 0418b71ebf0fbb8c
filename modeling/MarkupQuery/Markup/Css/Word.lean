import MarkupQuery.Markup.Event
import MarkupQuery.Markup.Reference

/-!
# Words of the selector language

Blanks, which are spaces and comments; names; and values, which are names or quoted texts. A
backslash in a name or a value writes a character by its number, or takes the meaning from the
character after it. A reader gives what it read and the text after it.
-/

namespace MarkupQuery.Markup.Css

/-! ## Blanks -/

/-- The text after a line end, if one stands here. -/
def afterLineEnd : List Char → Option (List Char)
  | '\r' :: '\n' :: cs => some cs
  | '\n' :: cs | '\x0c' :: cs | '\r' :: cs => some cs
  | _ => none

/-- The text after a space, if one stands here. A line end counts as one space. -/
def afterSpace : List Char → Option (List Char)
  | ' ' :: cs | '\t' :: cs => some cs
  | cs => afterLineEnd cs

/-- The text after a comment, if one stands here. -/
def afterComment : List Char → Option (List Char)
  | '/' :: '*' :: cs =>
    let ends : List Char → Option (List Char)
      | '*' :: '/' :: rest => some rest
      | _ => none
    (upToEnd ends cs).map Prod.snd
  | _ => none

/-- The text after a space or a comment, if one stands here. -/
def afterBlank (cs : List Char) : Option (List Char) :=
  match afterSpace cs with
  | some rest => some rest
  | none => afterComment cs

/-- Skips blanks, at most as many as given. -/
def skipUpTo : Nat → List Char → List Char
  | 0, cs => cs
  | n + 1, cs => match afterBlank cs with
    | some rest => skipUpTo n rest
    | none => cs

/-- Skips all blanks. -/
def skipBlanks (cs : List Char) : List Char := skipUpTo cs.length cs

/-- How many characters at the end of a text are blanks only. -/
def blankTail : List Char → Nat
  | [] => 0
  | c :: cs => if (skipBlanks (c :: cs)).isEmpty then cs.length + 1 else blankTail cs

/-! ## Escapes -/

/-- The characters that a backslash and the text after it stand for. In quoted texts a line end may
be escaped, and then stands for nothing. -/
def readEscape (quoted : Bool) (cs : List Char) : Option (List Char × List Char) :=
  let digits := (cs.takeWhile isHexDigit).take 6
  let rest := cs.drop digits.length
  if !digits.isEmpty then
    let n := numberOf 16 digits
    some ([if n = 0 then '\uFFFD' else charOrReplacement n], (afterSpace rest).getD rest)
  else match cs with
    | [] => some (['\uFFFD'], [])
    | c :: more =>
      match afterLineEnd cs with
      | none => some ([c], more)
      | some rest => if quoted then some ([], rest) else if cs = ['\n'] then some (['\uFFFD'], cs) else none

/-! ## Names -/

/-- The characters that a name starts with. -/
def startsName (c : Char) : Bool := c.isAlpha || c == '_' || c.toNat ≥ 0xA0

/-- The characters that a name goes on with. -/
def continuesName (c : Char) : Bool := startsName c || c.isDigit || c == '-'

/-- The longest run of characters of a kind, escapes included. The number bounds the run. -/
def readRun (inRun : Char → Bool) : Nat → List Char → List Char × List Char
  | 0, cs => ([], cs)
  | _ + 1, [] => ([], [])
  | n + 1, c :: cs =>
    if inRun c then
      let (run, rest) := readRun inRun n cs
      (c :: run, rest)
    else if c = '\\' then match readEscape false cs with
      | some (chars, rest) =>
        let (run, rest) := readRun inRun n rest
        (chars ++ run, rest)
      | none => ([], c :: cs)
    else ([], c :: cs)

/-- A name: it starts with a letter or the like, with a hyphen before it or not, or with two
hyphens. -/
def readName (cs : List Char) : Option (List Char × List Char) :=
  let continued (start rest : List Char) : List Char × List Char :=
    let (more, rest) := readRun continuesName rest.length rest
    (start ++ more, rest)
  let started (start rest : List Char) : Option (List Char × List Char) :=
    let (first, after) := readRun startsName rest.length rest
    if first.isEmpty then none else some (continued (start ++ first) after)
  match cs with
  | '-' :: '-' :: rest => some (continued ['-', '-'] rest)
  | '-' :: rest => started ['-'] rest
  | cs => started [] cs

/-! ## Values -/

/-- A quoted text, given the text after its quote. It holds no line end that is not escaped. -/
def readQuoted (quote : Char) : Nat → List Char → Option (List Char × List Char)
  | 0, _ | _, [] => none
  | n + 1, c :: cs =>
    if c = quote then some ([], cs)
    else if c = '\\' then do
      let (chars, rest) ← if cs.isEmpty then none else readEscape true cs
      let (more, rest) ← readQuoted quote n rest
      some (chars ++ more, rest)
    else if (afterLineEnd (c :: cs)).isSome then none
    else (readQuoted quote n cs).map fun (more, rest) => (c :: more, rest)

/-- A value: a quoted text, or names without anything between them. -/
def readValue (cs : List Char) : Option (List Char × List Char) :=
  match cs with
  | '"' :: inside => readQuoted '"' inside.length inside
  | '\'' :: inside => readQuoted '\'' inside.length inside
  | cs => readName cs

end MarkupQuery.Markup.Css
