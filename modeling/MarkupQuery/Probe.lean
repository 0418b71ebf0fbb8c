import MarkupQuery.Failure

/-!
# What a caller's functions may do

A predicate or an extractor that a caller supplies may fail, and may leave a sighting: a note of
what it was shown. Sightings stay in the order of the calls, also when a call fails, so that the
order and the number of calls can be told from them.

Besides functions a caller may supply feeds. A feed delivers trees one after the other, as they are
asked for, and what it has delivered is gone. It may make calls of its own to come to the next tree.
-/

namespace MarkupQuery

/-- A note left by a caller's function: its name and what it was shown. -/
structure Sighting where
  observer : String
  seen : Value

/-- What a feed does when it is asked: it may leave sightings, and then it comes to a tree, passes
over something, or fails. -/
structure Delivery where
  sightings : Array Sighting := #[]
  outcome : Except Failure (Option Node)

/-- What a feed will still do, each time that it is asked. -/
abbrev Feed := List Delivery

/-- A feed that delivers trees and nothing else. -/
def Feed.ofTrees (trees : List Node) : Feed := trees.map fun n => { outcome := .ok (some n) }

/-- What calls have left: the sightings in the order of the calls, and of each feed what it will still
do. -/
structure Trace where
  sightings : Array Sighting := #[]
  feeds : List Feed := []
  deriving Inhabited

namespace Trace

/-- Puts a sighting behind the others. -/
def push (t : Trace) (x : Sighting) : Trace := { t with sightings := t.sightings.push x }

/-- The sightings, in order. -/
def toList (t : Trace) : List Sighting := t.sightings.toList

/-- What a feed will still do; nothing, if there is no such feed. -/
def feed (t : Trace) (id : Nat) : Feed := t.feeds[id]?.getD []

@[simp] theorem toList_default : ({} : Trace).toList = [] := rfl

@[simp] theorem toList_push (t : Trace) (x : Sighting) : (t.push x).toList = t.toList ++ [x] :=
  Array.toList_push

end Trace

/-- A computation that may fail and may leave sightings. -/
abbrev Probe := ExceptT Failure (StateM Trace)

namespace Probe

/-- Leaves a sighting. -/
def note (observer : String) (seen : Value) : Probe Unit :=
  modify (·.push ⟨observer, seen⟩)

/-- Runs a computation that can fail but leaves no sighting. -/
def ofExcept {α : Type} (e : Except Failure α) : Probe α :=
  match e with
  | .ok a => pure a
  | .error f => throw f

/-- Runs a computation inside something that delivers one thing after the other. -/
def inGenerator {α : Type} (x : Probe α) : Probe α :=
  ExceptT.mk fun t =>
    let (result, t') := x.run t
    (result.mapError Failure.inGenerator, t')

theorem run_inGenerator {α : Type} (x : Probe α) (t : Trace) :
    x.inGenerator.run t = ((x.run t).1.mapError Failure.inGenerator, (x.run t).2) := rfl

/-- How often a feed can still be asked. -/
def remaining (id : Nat) : Probe Nat := do pure ((← get).feed id).length

/-- Asks a feed. There is no answer when it has come to its end, be it that nothing is left or that it
says so. After a failure nothing more comes. -/
def pull (id : Nat) : Probe (Option (Option Node)) :=
  ExceptT.mk fun t =>
    match t.feed id with
    | [] => (.ok none, t)
    | d :: rest =>
      let sightings := t.sightings ++ d.sightings
      match d.outcome with
      | .ok tree => (.ok (some tree), { sightings, feeds := t.feeds.set id rest })
      | .error f =>
        (if f.isExhaustion then .ok none else .error f, { sightings, feeds := t.feeds.set id [] })

end Probe
end MarkupQuery
