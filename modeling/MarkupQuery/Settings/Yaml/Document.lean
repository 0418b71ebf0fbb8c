import MarkupQuery.Settings.Yaml.Node

/-!
# From nodes to data

A sequence denotes a list and a mapping a record, in which later fields win over earlier ones with the
same key. A merge key lays the fields of other mappings under those of its own; of several mappings
the first counts most. A key must be a single datum.

A document is worked out level by level, the outer levels first, so that of several failures the
outermost counts, and of those on one level the first.
-/

namespace MarkupQuery.Yaml

/-- A result, or a failure with the level that it lies on. -/
abbrev Leveled := Except (Nat × Failure)

namespace Leveled

variable {α β γ : Type}

/-- A result that can fail only on a given level. -/
def lift (level : Nat) : Except Failure α → Leveled α
  | .ok a => .ok a
  | .error f => .error (level, f)

/-- Both results in one; of two failures, the one on the outer level, or else the first. -/
def join (f : α → β → γ) (a : Leveled α) (b : Leveled β) : Leveled γ :=
  match a, b with
  | .ok x, .ok y => .ok (f x y)
  | .error e, .ok _ => .error e
  | .ok _, .error e => .error e
  | .error e, .error e' => .error (if e'.1 < e.1 then e' else e)

end Leveled

namespace Node

/-! ## Merging -/

/-- The tag of a node. -/
def tag : Node → Tag
  | .scalar tag _ | .sequence tag _ | .mapping tag _ => tag
  | .enclosing isMapping => if isMapping then .mapping else .sequence

/-- A key as it counts in a mapping, where the equals sign stands for itself. -/
def asKey : Node → Node
  | .scalar .value points => .scalar .text points
  | node => node

mutual
/-- The fields of a mapping with those of its merge keys in front. -/
def flatten : List (Node × Node) → Except Failure (List (Node × Node) × List (Node × Node))
  | [] => .ok ([], [])
  | (key, value) :: rest => do
    let here ← if key.tag == .merge then (merged value).map some else pure none
    let (below, own) ← flatten rest
    match here with
    | some fields => pure (fields ++ below, own)
    | none => pure (below, (key.asKey, value) :: own)

/-- The fields that a merge key brings in. -/
def merged : Node → Except Failure (List (Node × Node))
  | .mapping _ pairs => do
    let (below, own) ← flatten pairs
    pure (below ++ own)
  | .sequence _ items => mergedItems items
  | .scalar _ _ => .error .malformed
  | .enclosing isMapping => if isMapping then .ok [] else .error .malformed

/-- The fields that several mappings bring in, those of the first one last. -/
def mergedItems : List Node → Except Failure (List (Node × Node))
  | [] => .ok []
  | .mapping _ pairs :: rest => do
    let (below, own) ← flatten pairs
    let later ← mergedItems rest
    pure (later ++ (below ++ own))
  | .enclosing true :: rest => mergedItems rest
  | _ :: _ => .error .malformed
end

/-- The fields of a mapping after merging. -/
def fieldsOf (pairs : List (Node × Node)) : Except Failure (List (Node × Node)) := do
  let (below, own) ← flatten pairs
  pure (below ++ own)

/-! ## Data -/

/-- The scalar that a node counts as where one is needed: itself, or what the equals sign names in a
mapping. The number bounds the mappings inside one another. -/
def scalarPoints? : Nat → Node → Option (List Nat)
  | _, .scalar _ points => some points
  | n + 1, .mapping _ pairs =>
    (pairs.find? fun p => p.1.tag == .value).bind fun p => scalarPoints? n p.2
  | _, _ => none

/-- What a node with the tag of a scalar denotes. -/
def scalarDatum? (tag : Tag) (node : Node) : Except Failure Datum :=
  match scalarPoints? 100 node with
  | some points => scalarDatum tag points
  | none => .error .malformed

/-- The items of a list of data, all of which went well. -/
def collect : List (Leveled Datum) → Leveled (List Datum)
  | [] => .ok []
  | d :: ds => Leveled.join List.cons d (collect ds)

/-- The fields of a record. -/
def collectFields :
    List (Leveled Datum × Leveled Datum) → Leveled (List (Datum × Datum))
  | [] => .ok []
  | (key, value) :: rest => Leveled.join List.cons (Leveled.join Prod.mk key value) (collectFields rest)

/-- Whether nodes with a tag denote several data. -/
def isCollection (tag : Tag) : Bool := [.sequence, .mapping, .set, .pairs].contains tag

/-- What a node on some level denotes. What is inside a collection lies one level further in. The first
argument bounds the levels. -/
def datum : Nat → Nat → Node → Leveled Datum
  | 0, level, _ => .error (level, .malformed)
  | n + 1, level, node =>
    let inner := level + 1
    let fields (pairs : List (Node × Node)) : Leveled (List (Datum × Datum)) := do
      let pairs ← Leveled.lift inner (fieldsOf pairs)
      collectFields (pairs.map fun p =>
        (if isCollection p.1.tag then .error (inner, .malformed) else datum n inner p.1,
          datum n inner p.2))
    let pair : Node → Leveled Datum := fun node => match node with
      | .mapping _ [(key, value)] =>
        Leveled.join (fun k v => .list [k, v]) (datum n inner key) (datum n inner value)
      | _ => .error (inner, .malformed)
    match node.tag, node with
    | .sequence, .sequence _ items => (collect (items.map (datum n inner))).map .list
    | .pairs, .sequence _ items => (collect (items.map pair)).map .list
    | .mapping, .mapping _ pairs => (fields pairs).map Datum.ofFields
    | .set, .mapping _ pairs => (fields pairs).map fun fs => .set ((Mapping.ofPairs fs).map Prod.fst)
    | .sequence, .enclosing _ => .ok (.list [.other "list"])
    | .mapping, .enclosing _ => .ok (.record [(.text "", .other "dict")])
    | .sequence, _ | .pairs, _ | .mapping, _ | .set, _ => .error (inner, .malformed)
    | .merge, _ | .value, _ | .unknown, _ => .error (level, .malformed)
    | tag, node => Leveled.lift level (scalarDatum? tag node)

/-- How many nodes lie inside one another at most, going by the size of the text. -/
def depthBound (s : String) : Nat := s.length + 2

end Node

/-- The datum that a text holds; nothing, if it holds no document. -/
def read (s : String) : Except Failure Datum := do
  match ← Node.ofTokens (TokenStream.ofText s) with
  | none => pure .null
  | some node => match node.datum (Node.depthBound s) 0 with
    | .ok d => pure d
    | .error (_, f) => throw f

end MarkupQuery.Yaml
