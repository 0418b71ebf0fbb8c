import MarkupQuery.Settings.Yaml.Cursor
import MarkupQuery.Settings.Yaml.Failure

/-!
# Tokens

The parts that a document is made of: marks, names, tags and scalars. Here are the readers of what
fits on one line: directives, names of anchors, and tags. Each is given the place where its part
begins and gives the place after it.
-/

namespace MarkupQuery.Yaml

/-- What a line in front of a document lays down. -/
inductive Directive where
  | version (major minor : Nat)
  | handle (handle tagPrefix : List Char)
  | other
  deriving DecidableEq, Repr

/-- A tag as it is written: in full, or as a handle and what is added to it. -/
structure TagName where
  handle : Option (List Char)
  suffix : List Char
  deriving DecidableEq, Repr

inductive Token where
  | directive (d : Directive)
  | documentStart
  | documentEnd
  | blockSequenceStart
  | blockMappingStart
  | blockEnd
  | flowSequenceStart
  | flowSequenceEnd
  | flowMappingStart
  | flowMappingEnd
  | blockEntry
  | flowEntry
  | key
  | value
  | alias (name : List Char)
  | anchor (name : List Char)
  | tag (name : TagName)
  | scalar (points : List Nat) (plain : Bool)
  deriving DecidableEq, Repr

/-- The characters of names. -/
def isNameChar (c : Char) : Bool := c.isAlphanum || c == '-' || c == '_'

/-- A name of one character or more. -/
def readName (cur : Cursor) : Except Failure (List Char × Cursor) :=
  let (name, next) := cur.span isNameChar
  if name.isEmpty then .error .malformed else .ok (name, next)

/-- The name of an anchor. It ends at a space or at one of a few marks. -/
def readAnchorName (cur : Cursor) : Except Failure (List Char × Cursor) := do
  let (name, next) ← readName cur
  let ends (c : Char) : Bool := isSpace c || ("?:,]\x7d%@\x60".toList).contains c
  if next.rest.head?.all ends then pure (name, next) else throw .malformed

/-! ## Tags -/

/-- The characters of tags. -/
def isTagChar (c : Char) : Bool :=
  c.isAlphanum || ("-;/?:@&=+$,_.!~*'()[]%".toList).contains c

/-- The value of a hexadecimal digit. -/
def hexValue? (c : Char) : Option Nat :=
  if c.isDigit then some (c.toNat - 0x30)
  else if 'a' ≤ c && c ≤ 'f' then some (c.toNat - 0x57)
  else if 'A' ≤ c && c ≤ 'F' then some (c.toNat - 0x37)
  else none

/-- The bytes of a tag in which a percent sign writes a byte by two digits. -/
def tagBytes : List Char → Except Failure (List UInt8)
  | [] => .ok []
  | '%' :: a :: b :: cs => match hexValue? a, hexValue? b with
    | some x, some y => do pure (UInt8.ofNat (16 * x + y) :: (← tagBytes cs))
    | _, _ => .error .malformed
  | '%' :: _ => .error .malformed
  | c :: cs => do pure ((String.singleton c).toUTF8.toList ++ (← tagBytes cs))

/-- A tag, or the end of one. -/
def readTagText (cur : Cursor) : Except Failure (List Char × Cursor) := do
  let (text, next) := cur.span isTagChar
  if text.isEmpty then throw .malformed
  match String.fromUTF8? ⟨(← tagBytes text).toArray⟩ with
  | some s => pure (s.toList, next)
  | none => throw .malformed

/-- A handle: an exclamation mark, or a name between two of them. -/
def readHandle (cur : Cursor) : Except Failure (List Char × Cursor) :=
  match cur.rest with
  | '!' :: ' ' :: _ => .ok (['!'], cur.next)
  | '!' :: _ =>
    let (name, next) := cur.next.span isNameChar
    match next.rest with
    | '!' :: _ => .ok ('!' :: name ++ ['!'], next.next)
    | _ => .error .malformed
  | _ => .error .malformed

/-- A tag at its exclamation mark. -/
def readTag (cur : Cursor) : Except Failure (TagName × Cursor) := do
  let (tag, next) ← match cur.next.rest with
    | '<' :: _ => do
      let (text, next) ← readTagText (cur.forward 2)
      match next.rest with
      | '>' :: _ => pure (⟨none, text⟩, next.next)
      | _ => throw .malformed
    | cs =>
      if spaceAhead cs then pure (⟨none, ['!']⟩, cur.next)
      else do
        let inTag (c : Char) : Bool := !(c == ' ' || isBreak c)
        let handled := (cs.takeWhile inTag).contains '!'
        let (handle, next) ← if handled then readHandle cur else pure (['!'], cur.next)
        let (suffix, next) ← readTagText next
        pure (⟨some handle, suffix⟩, next)
  if plainSpaceAhead next.rest then pure (tag, next) else throw .malformed

/-! ## Directives -/

/-- The end of a line on which nothing more may stand but a comment. -/
def readLineOver (cur : Cursor) : Except Failure Cursor :=
  let cur := cur.skipSpaces
  let cur := if cur.rest.head? = some '#' then cur.skipLine else cur
  if lineOver cur.rest then .ok cur.skipLineEnd else .error .malformed

/-- Digits of a version. -/
def readVersionNumber (cur : Cursor) : Except Failure (Nat × Cursor) :=
  let (digits, next) := cur.span Char.isDigit
  match (String.ofList digits).toNat? with
  | some n => .ok (n, next)
  | none => .error .malformed

/-- What the directive of a name lays down. -/
def readDirectiveValue (name : String) (cur : Cursor) : Except Failure (Directive × Cursor) := do
  match name with
  | "YAML" =>
    let (major, next) ← readVersionNumber cur.skipSpaces
    if next.rest.head? ≠ some '.' then throw .malformed
    let (minor, next) ← readVersionNumber next.next
    if plainSpaceAhead next.rest then pure (.version major minor, next) else throw .malformed
  | "TAG" =>
    let (handle, next) ← readHandle cur.skipSpaces
    if next.rest.head? ≠ some ' ' then throw .malformed
    let (tagPrefix, next) ← readTagText next.skipSpaces
    if plainSpaceAhead next.rest then pure (.handle handle tagPrefix, next) else throw .malformed
  | _ => pure (.other, cur.skipLine)

/-- A directive at its percent sign. -/
def readDirective (cur : Cursor) : Except Failure (Directive × Cursor) := do
  let (name, next) ← readName cur.next
  if !plainSpaceAhead next.rest then throw .malformed
  let (d, next) ← readDirectiveValue (String.ofList name) next
  pure (d, ← readLineOver next)

end MarkupQuery.Yaml
