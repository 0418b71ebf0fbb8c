import MarkupQuery.Session

/-!
# Selection

A source is a tree, a sequence of trees, a feed, or nothing. Its subjects are the positions of each
tree in document order, tree by tree; absent members of a sequence are passed over, and a member that
is no node is a subject by itself. A selection asks the selector about the subjects in turn. A feed is
asked for its next tree when the subjects of the one before are done with, and what it has delivered
is gone for whoever comes after.

The lazy form is a scan, which asks no more questions than the next match needs. It compiles its
query only when it is first advanced, and is spent after a failure. All selections go through it, so
a selector that says there is no more to deliver fails in another way there.
-/

namespace MarkupQuery

/-- The subjects of one member of a source. -/
def Value.subjects : Value → List Subject
  | .absent => []
  | .node n => n.locations.map .position
  | v => [.bare v]

/-- The members of a value that can be gone through. -/
def Value.members : Value → Except Failure (List Value)
  | .list items => .ok items
  | .tuple items => .ok items
  | .text s => .ok (Value.characters s)
  | .record fields => .ok (fields.map Prod.fst)
  | v => .error (.notIterable v.typeName)

/-- The subjects of a source that can be gone through again, in order. -/
def Value.sourceSubjects (source : Value) : Except Failure (List Subject) :=
  match source with
  | .absent => .ok []
  | .node n => .ok (Value.node n).subjects
  | v => v.members.map (·.flatMap Value.subjects)

namespace Selector

/-! ## Asking about subjects in turn -/

/-- The subjects at which a selector holds, in order. -/
def matching (p : Selector) : List Subject → Probe (List Subject)
  | [] => pure []
  | s :: rest => do
    if ← p.holds s then
      let found ← matching p rest
      pure (s :: found)
    else matching p rest

/-- The first subject at which a selector holds, and the subjects after it. -/
def firstMatching (p : Selector) : List Subject → Probe (Option (Subject × List Subject))
  | [] => pure none
  | s :: rest => do
    if ← p.holds s then pure (some (s, rest)) else firstMatching p rest

/-- The subjects at which a selector holds, of the trees for which a feed is asked this number of
times at most. -/
def matchingDelivered (p : Selector) (id : Nat) : Nat → Probe (List Subject)
  | 0 => pure []
  | n + 1 => do
    match ← Probe.pull id with
    | none => pure []
    | some tree =>
      let here ← p.matching (Value.ofNode? tree).subjects
      let more ← matchingDelivered p id n
      pure (here ++ more)

/-- The first subject at which a selector holds, of the trees for which a feed is asked this number of
times at most, and the subjects after it in its tree. -/
def firstDelivered (p : Selector) (id : Nat) : Nat → Probe (Option (Subject × List Subject))
  | 0 => pure none
  | n + 1 => do
    match ← Probe.pull id with
    | none => pure none
    | some tree =>
      match ← p.firstMatching (Value.ofNode? tree).subjects with
      | some found => pure (some found)
      | none => firstDelivered p id n

/-- The subjects of a source at which a selector holds, in order. -/
def matchingIn (p : Selector) (source : Value) : Probe (List Subject) :=
  match source with
  | .feed id => do p.matchingDelivered id (← Probe.remaining id)
  | source => do p.matching (← Probe.ofExcept source.sourceSubjects)

end Selector

/-! ## All matches -/

/-- The matching subjects of a source. -/
def selectSubjects (cache : CacheId) (q : Query) (source : Value) : Action (List Subject) := do
  let p ← Action.compile cache q
  Action.ofProbe (p.inGenerator.matchingIn source)

/-- The matching nodes of a source, in document order. The query is compiled before anything else,
so that a malformed one fails even on an empty source. -/
def select (cache : CacheId) (q : Query) (source : Value) : Action (List Value) := do
  let p ← Action.compile cache q
  let found ← selectSubjects cache (.selector p) source
  Action.log .debug "chisel.selectors.engine" "Selection complete"
    [("selector", .selector p.name), ("matches", .whole found.length)]
  pure (found.map Subject.value)

/-! ## One match after the other -/

/-- The state of a lazy selection. One that draws on a feed has the subjects that are left of the tree
that was delivered last. -/
inductive Scan where
  | pending (cache : CacheId) (q : Query) (source : Value)
  | running (p : Selector) (rest : List Subject)
  | drawing (p : Selector) (rest : List Subject) (feed : Nat)
  | spent

namespace Scan

/-- Advances a running scan to its next match. -/
def seek (p : Selector) (rest : List Subject) : Action (Option Subject × Scan) := do
  match ← Action.ofProbe (p.firstMatching rest) with
  | some (s, rest) => pure (some s, .running p rest)
  | none => pure (none, .spent)

/-- Advances a scan that draws on a feed to its next match. -/
def draw (p : Selector) (rest : List Subject) (id : Nat) : Action (Option Subject × Scan) := do
  match ← Action.ofProbe (p.firstMatching rest) with
  | some (s, rest) => pure (some s, .drawing p rest id)
  | none =>
    match ← Action.ofProbe (do p.firstDelivered id (← Probe.remaining id)) with
    | some (s, rest) => pure (some s, .drawing p rest id)
    | none => pure (none, .spent)

/-- Advances a scan to its next match; none is left when the scan is spent. -/
def step : Scan → Action (Option Subject × Scan)
  | .pending cache q source => do
    let p ← Action.compile cache q
    match source with
    | .feed id => draw p.inGenerator [] id
    | source => do
      let subjects ← Action.ofExcept source.sourceSubjects
      seek p.inGenerator subjects
  | .running p rest => seek p rest
  | .drawing p rest id => draw p rest id
  | .spent => pure (none, .spent)

/-- Advances a scan. A failure is the answer of this step and spends the scan. -/
def advance (scan : Scan) : Action (Except Failure (Option Subject) × Scan) := do
  match ← Action.outcome scan.step with
  | .ok (found, scan') => pure (.ok found, scan')
  | .error f => pure (.error f, .spent)

end Scan

/-- The first matching node of a source. -/
def selectFirst (cache : CacheId) (q : Query) (source : Value) : Action Value := do
  let (found, _) ← (Scan.pending cache q source).step
  pure ((found.map Subject.value).getD .absent)

end MarkupQuery
