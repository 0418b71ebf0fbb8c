import MarkupQuery.Mapping
import MarkupQuery.Settings.Yaml.Scalar
import MarkupQuery.Settings.Yaml.TokenStream

/-!
# From tokens to nodes

A document is one node: a scalar, a sequence, or a mapping of nodes to nodes. A node may have a tag and
an anchor, in any order, and a node with an anchor may be named again by an alias further on. A key or
a value that is left out is an empty scalar. A stream of tokens holds one document at most.

Every reader that repeats itself takes a bound on the repetitions; a node uses up tokens, so that a
multiple of their number will do.
-/

namespace MarkupQuery.Yaml

inductive Node where
  | scalar (tag : Tag) (points : List Nat)
  | sequence (tag : Tag) (items : List Node)
  | mapping (tag : Tag) (pairs : List (Node × Node))
  /-- A sequence or a mapping that this node stands in. -/
  | enclosing (isMapping : Bool)
  deriving Inhabited

namespace Node

/-- The node that stands for one that is left out. -/
def missing : Node := .scalar .null []

/-- The handles of tags that need no directive. -/
def standardHandles : Mapping (List Char) (List Char) :=
  [(['!'], ['!']), (['!', '!'], tagSpace)]

/-- What is left to read, and what names stand for. -/
structure Source where
  tokens : List Token
  failure : Option Failure
  anchors : Mapping (List Char) Node := []
  handles : Mapping (List Char) (List Char) := standardHandles

abbrev Reader := StateT Source (Except Failure)

/-- The next token; none at the end of the stream. -/
def peek : Reader (Option Token) := do
  match (← get).tokens, (← get).failure with
  | t :: _, _ => pure (some t)
  | [], some f => throw f
  | [], none => pure none

/-- Passes over the next token. -/
def advance : Reader Unit := modify fun s => { s with tokens := s.tokens.drop 1 }

/-- Passes over the next token if it is the given one; says whether it was. -/
def accept (t : Token) : Reader Bool := do
  if (← peek) = some t then
    advance
    pure true
  else pure false

/-- Passes over the given token, which must come next. -/
def expect (t : Token) : Reader Unit := do
  if !(← accept t) then throw .malformed

/-! ## Anchors and tags -/

/-- What stands in front of a node. -/
structure Properties where
  anchor : Option (List Char) := none
  /-- The full name of the tag. -/
  tag : Option (List Char) := none

/-- The full name of a tag. -/
def tagName (t : TagName) : Reader (List Char) := do
  match t.handle with
  | none => pure t.suffix
  | some handle => match (← get).handles.find? handle with
    | some start => pure (start ++ t.suffix)
    | none => throw .malformed

/-- An anchor and a tag, in any order, as far as they are there. -/
def readProperties : Reader Properties := do
  match ← peek with
  | some (.anchor name) =>
    advance
    match ← peek with
    | some (.tag t) =>
      advance
      pure ⟨some name, some (← tagName t)⟩
    | _ => pure ⟨some name, none⟩
  | some (.tag t) =>
    advance
    match ← peek with
    | some (.anchor name) =>
      advance
      pure ⟨some name, some (← tagName t)⟩
    | _ => pure ⟨none, some (← tagName t)⟩
  | _ => pure {}

/-- The tag that is given, unless it leaves the choice open. -/
def Properties.givenTag? (p : Properties) : Option Tag :=
  match p.tag with
  | none | some ['!'] => none
  | some name => some (Tag.ofName name)

/-- Lets an anchor stand for a node. -/
def Properties.bind (p : Properties) (node : Node) : Reader Unit := do
  if let some name := p.anchor then
    modify fun s => { s with anchors := s.anchors.put name node }

/-- A scalar; without quotes, or where the tag asks for it, its spelling decides its tag. -/
def ofScalar (p : Properties) (points : List Nat) (plain : Bool) : Node :=
  let tag := match p.givenTag? with
    | some tag => tag
    | none =>
      if (plain || p.tag.isSome) && points.all Nat.isValidChar then
        suggestedTag (points.map Char.ofNat)
      else .text
  .scalar tag points

/-! ## Nodes -/

mutual
/-- A node. Block collections count only where they are allowed, and a sequence without indentation
only as a key or a value of a mapping. -/
def readNode : Nat → (inBlock bareEntries : Bool) → Reader Node
  | 0, _, _ => throw .malformed
  | n + 1, inBlock, bareEntries => do
    if let some (.alias name) ← peek then
      advance
      match (← get).anchors.find? name with
      | some node => return node
      | none => throw .malformed
    let p ← readProperties
    let anchors := (← get).anchors
    if p.anchor.any fun name => (anchors.find? name).isSome then throw .malformed
    let sequence (items : Reader (List Node)) : Reader Node := do
      p.bind (.enclosing false)
      let node := Node.sequence (p.givenTag?.getD .sequence) (← items)
      p.bind node
      pure node
    let mapping (pairs : Reader (List (Node × Node))) : Reader Node := do
      p.bind (.enclosing true)
      let node := Node.mapping (p.givenTag?.getD .mapping) (← pairs)
      p.bind node
      pure node
    let scalar (points : List Nat) (plain : Bool) : Reader Node := do
      let node := ofScalar p points plain
      p.bind node
      pure node
    match ← peek, inBlock with
    | some .blockEntry, _ =>
      if bareEntries then sequence (readBareEntries n)
      else if p.anchor.isSome ∨ p.tag.isSome then scalar [] true
      else throw .malformed
    | some (.scalar points plain), _ =>
      advance
      scalar points plain
    | some .flowSequenceStart, _ =>
      advance
      sequence (readFlowItems n true)
    | some .flowMappingStart, _ =>
      advance
      mapping (readFlowPairs n true)
    | some .blockSequenceStart, true =>
      advance
      sequence (readEntries n)
    | some .blockMappingStart, true =>
      advance
      mapping (readPairs n)
    | _, _ =>
      if p.anchor.isSome ∨ p.tag.isSome then scalar [] true else throw .malformed

/-- A node, or a missing one if one of the given tokens comes next. -/
def readOptional : Nat → (inBlock bareEntries : Bool) → List Token → Reader Node
  | 0, _, _, _ => throw .malformed
  | n + 1, inBlock, bareEntries, ends => do
    match ← peek with
    | some t => if ends.contains t then pure missing else readNode n inBlock bareEntries
    | none => readNode n inBlock bareEntries

/-- The entries of a block sequence, up to its end. -/
def readEntries : Nat → Reader (List Node)
  | 0 => throw .malformed
  | n + 1 => do
    if ← accept .blockEntry then
      let item ← readOptional n true false [.blockEntry, .blockEnd]
      return item :: (← readEntries n)
    expect .blockEnd
    pure []

/-- The entries of a sequence without indentation, as many as there are. -/
def readBareEntries : Nat → Reader (List Node)
  | 0 => throw .malformed
  | n + 1 => do
    if ← accept .blockEntry then
      let item ← readOptional n true false [.blockEntry, .key, .value, .blockEnd]
      return item :: (← readBareEntries n)
    pure []

/-- The keys and values of a block mapping, up to its end. -/
def readPairs : Nat → Reader (List (Node × Node))
  | 0 => throw .malformed
  | n + 1 => do
    if ← accept .key then
      let ends : List Token := [.key, .value, .blockEnd]
      let key ← readOptional n true true ends
      let value ← if ← accept .value then readOptional n true true ends else pure missing
      return (key, value) :: (← readPairs n)
    expect .blockEnd
    pure []

/-- The items of a flow sequence, up to its end. A key in it makes a mapping of one pair. -/
def readFlowItems : Nat → (isFirst : Bool) → Reader (List Node)
  | 0, _ => throw .malformed
  | n + 1, isFirst => do
    if ← accept .flowSequenceEnd then return []
    if !isFirst then expect .flowEntry
    if ← accept .key then
      let key ← readOptional n false false [.value, .flowEntry, .flowSequenceEnd]
      let value ← if ← accept .value then readOptional n false false [.flowEntry, .flowSequenceEnd]
        else pure missing
      return Node.mapping .mapping [(key, value)] :: (← readFlowItems n false)
    if ← accept .flowSequenceEnd then return []
    let item ← readNode n false false
    return item :: (← readFlowItems n false)

/-- The keys and values of a flow mapping, up to its end. -/
def readFlowPairs : Nat → (isFirst : Bool) → Reader (List (Node × Node))
  | 0, _ => throw .malformed
  | n + 1, isFirst => do
    if ← accept .flowMappingEnd then return []
    if !isFirst then expect .flowEntry
    if ← accept .key then
      let key ← readOptional n false false [.value, .flowEntry, .flowMappingEnd]
      let value ← if ← accept .value then readOptional n false false [.flowEntry, .flowMappingEnd]
        else pure missing
      return (key, value) :: (← readFlowPairs n false)
    if ← accept .flowMappingEnd then return []
    let key ← readNode n false false
    return (key, missing) :: (← readFlowPairs n false)
end

/-! ## Documents -/

/-- Passes over the marks that end a document. The number bounds them. -/
def skipDocumentEnds : Nat → Reader Unit
  | 0 => pure ()
  | n + 1 => do
    if ← accept .documentEnd then skipDocumentEnds n

/-- Takes in the directives in front of a document. -/
def readDirectives : Nat → (hasVersion : Bool) → Mapping (List Char) (List Char) → Reader Unit
  | 0, _, _ => pure ()
  | n + 1, hasVersion, handles => do
    match ← peek with
    | some (.directive d) =>
      advance
      match d with
      | .version major _ =>
        if hasVersion ∨ major ≠ 1 then throw .malformed
        readDirectives n true handles
      | .handle handle start =>
        if (handles.find? handle).isSome then throw .malformed
        readDirectives n hasVersion (handles.put handle start)
      | .other => readDirectives n hasVersion handles
    | _ => modify fun s => { s with handles := standardHandles.putAll handles }

/-- A document after its directives, if the stream goes on at all. -/
def readMarkedDocument (bound : Nat) : Reader (Option Node) := do
  skipDocumentEnds bound
  if (← peek).isNone then return none
  readDirectives bound false []
  expect .documentStart
  match ← peek with
  | none | some (.directive _) | some .documentStart | some .documentEnd => pure (some missing)
  | some _ => some <$> readNode bound true false

/-- The only document of a stream, if there is one. -/
def readStream (bound : Nat) : Reader (Option Node) := do
  let document ← match ← peek with
    | none | some (.directive _) | some .documentStart => readMarkedDocument bound
    | some _ => some <$> readNode bound true false
  skipDocumentEnds bound
  if (← peek).isSome then throw .malformed
  pure document

/-- The only document of a stream of tokens, if there is one. -/
def ofTokens (stream : TokenStream) : Except Failure (Option Node) := do
  let bound := 4 * stream.tokens.length + 8
  let (node, _) ← (readStream bound).run { tokens := stream.tokens, failure := stream.failure }
  pure node

end Node
end MarkupQuery.Yaml
