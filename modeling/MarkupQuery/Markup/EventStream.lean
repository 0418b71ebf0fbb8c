import MarkupQuery.Markup.Declaration
import MarkupQuery.Markup.Tag

/-!
# From markup text to events

A text is read in two passes. The first goes as far as everything is whole, and stops where markup or
a reference does not end, because more text could complete it. The second takes up there, knowing
that nothing more comes: unfinished markup is then character data. Where the second pass stops too,
the rest of the text is character data as it stands.

The contents of scripts and style sheets are character data up to their closing tag, without
references; without that tag they are lost.
-/

namespace MarkupQuery.Markup

/-- What one step of reading comes to. -/
inductive Step where
  /-- Events, the text to read next, and the tag whose raw contents that text starts with, if any. -/
  | on (events : List Event) (rest : List Char) (raw : Option String)
  /-- Events, and the text where this pass stops. -/
  | stop (events : List Event) (rest : List Char)

namespace Step

/-- Reads on after events, outside raw contents. -/
def next (events : List Event) (rest : List Char) : Step := .on events rest none

/-- Reads on after a piece of markup. The tag of a script or a style sheet starts raw contents. -/
def ofFound (found : Found) : Step :=
  .on found.events found.rest (match found.events with
    | [.openTag name _ false] => if isRawTag name then some name else none
    | _ => none)

/-- Raw contents, up to the tag that ends them. A tag whose name only looks like theirs does not. -/
def inRaw (name : String) (cs : List Char) : Step :=
  match upToEnd (rawEnd name) cs with
  | none => .stop [] cs
  | some (inside, tag, rest) =>
    let before := if inside.isEmpty then [] else [Event.text inside]
    match readPlainClose (tag.drop 2) with
    | some (closed, _) => .next (before ++ [.closeTag (Text.lower (String.ofList closed))]) rest
    | none => .on (before ++ [.text tag]) rest (some name)

/-- Character data in the place of markup that does not end, given the text after its bracket: up to
the next closing bracket, or else up to the next opening one, or else the first bracket only. -/
def unfinished (cs : List Char) : Step :=
  match upTo '>' cs with
  | some (inside, rest) => .next [.text ('<' :: inside ++ ['>'])] rest
  | none =>
    if cs.contains '<' then .next [.text ('<' :: cs.takeWhile (· != '<'))] (cs.dropWhile (· != '<'))
    else .next [.text ['<']] cs

/-- What an opening bracket starts, given the text after it. -/
def atBracket (final : Bool) (cs : List Char) : Except Failure Step := do
  let ofFound? (found : Option Found) : Step :=
    match found with
    | some found => .ofFound found
    | none => if final then unfinished cs else .stop [] ('<' :: cs)
  match cs with
  | [] => pure (.stop [] ['<'])
  | '!' :: more => return ofFound? (← readDeclaration more)
  | '?' :: more => return ofFound? ((upTo '>' more).map fun (inside, rest) =>
    ⟨[.string .instruction (String.ofList inside)], rest⟩)
  | '/' :: more => return ofFound? (readCloseTag more)
  | c :: _ => return if c.isAlpha then ofFound? (readOpenTag cs) else .next [.text ['<']] cs

/-- What an ampersand starts, given the text after it. A number that does not end stops the pass, and
so does a name; in the second pass, a name of one letter loses its ampersand. -/
def atAmpersand (final : Bool) (cs : List Char) : Step :=
  match readReference cs with
  | some (chars, rest) => .next [.text chars] rest
  | none => match cs with
    | '#' :: number =>
      if number.contains ';' then .stop [.text ['&', '#']] number else .stop [] ('&' :: cs)
    | [c] => if c.isAlpha then .stop [] (if final then cs else '&' :: cs) else .next [.text ['&']] cs
    | c :: _ => if c.isAlpha then .stop [] ('&' :: cs) else .next [.text ['&']] cs
    | [] => .stop [] ['&']

/-- The step that the start of a text makes. -/
def of (final : Bool) (raw : Option String) (cs : List Char) : Except Failure Step :=
  match raw, cs with
  | _, [] => .ok (.stop [] [])
  | some name, cs => .ok (inRaw name cs)
  | none, '<' :: cs => atBracket final cs
  | none, '&' :: cs => .ok (atAmpersand final cs)
  | none, cs =>
    let inRun (c : Char) : Bool := c != '<' && c != '&'
    .ok (.next [.text (cs.takeWhile inRun)] (cs.dropWhile inRun))

end Step

/-- Where a pass has come to: its events, the text it leaves, and the tag whose raw contents that text
belongs to, if any. -/
structure Pass where
  events : List Event
  rest : List Char
  raw : Option String

/-- Reads until a step stops. The number bounds the steps; every step but the last uses up text, so
that the length of the text will do. -/
def Pass.run (final : Bool) : Nat → Option String → List Char → Except Failure Pass
  | 0, raw, cs => .ok ⟨[], cs, raw⟩
  | n + 1, raw, cs => do
    match ← Step.of final raw cs with
    | .stop events rest => pure ⟨events, rest, raw⟩
    | .on events rest raw =>
      let further ← Pass.run final n raw rest
      pure { further with events := events ++ further.events }

/-- All events of a text. -/
def Event.readAll (cs : List Char) : Except Failure (List Event) := do
  let first ← Pass.run false cs.length none cs
  let second ← Pass.run true first.rest.length first.raw first.rest
  let leftover := if second.raw.isSome || second.rest.isEmpty then [] else [Event.text second.rest]
  pure (first.events ++ second.events ++ leftover)

end MarkupQuery.Markup
