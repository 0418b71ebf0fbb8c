import MarkupQuery.Proofs.Steps
import MarkupQuery.Selector.Basic

/-!
# What selectors answer

A selector may fail and may leave sightings. Where it does neither harm nor change its mind it has
one answer: `Probe.Yields` says that a computation gives a value whatever was seen before. A selector
is total when it has an answer at every position; it then holds at a position or it does not.
-/

namespace MarkupQuery
namespace Probe

variable {α β : Type}

/-- A computation gives a value, whatever was seen before. -/
def Yields (x : Probe α) (a : α) : Prop := ∀ trace, (x.run trace).1 = .ok a

theorem Yields.unique {x : Probe α} {a b : α} (ha : x.Yields a) (hb : x.Yields b) : a = b :=
  Except.ok.inj ((ha {}).symm.trans (hb {}))

theorem yields_pure (a : α) : Yields (pure a) a := fun _ => rfl

theorem Yields.bind {x : Probe α} {f : α → Probe β} {a : α} {b : β} (hx : x.Yields a)
    (hf : (f a).Yields b) : Yields (x >>= f) b := by
  intro trace
  have ha := hx trace
  rw [run_bind]
  cases hrun : x.run trace with
  | mk r seen =>
    rw [hrun] at ha
    obtain rfl : r = .ok a := ha
    exact hf seen

theorem Yields.inGenerator {x : Probe α} {a : α} (hx : x.Yields a) : x.inGenerator.Yields a := by
  intro trace
  rw [run_inGenerator, hx trace]
  rfl

end Probe

namespace Selector

/-- A selector has an answer at a position, the same each time it is asked. -/
def AnswersAt (p : Selector) (l : Location) : Prop := ∃ b, (p.holds (.position l)).Yields b

/-- A selector that has an answer at every position, the same each time it is asked. -/
def IsTotal (p : Selector) : Prop := ∀ l, ∃ b, (p.holds (.position l)).Yields b

/-- A selector holds at a position. -/
def HoldsAt (p : Selector) (l : Location) : Prop := (p.holds (.position l)).Yields true

/-- The answer at a position tells whether the selector holds there. -/
theorem holdsAt_iff_of_yields {p : Selector} {l : Location} {b : Bool}
    (hb : (p.holds (.position l)).Yields b) : p.HoldsAt l ↔ b = true := by
  constructor
  · exact fun h => hb.unique h
  · rintro rfl
    exact hb

/-- The answer at a position when nothing has been seen before. A failure is no yes. -/
def verdict (p : Selector) (l : Location) : Bool :=
  match ((p.holds (.position l)).run {}).1 with
  | .ok b => b
  | .error _ => false

theorem AnswersAt.yields_verdict {p : Selector} {l : Location} (h : p.AnswersAt l) :
    (p.holds (.position l)).Yields (p.verdict l) := by
  obtain ⟨b, hb⟩ := h
  have hverdict : p.verdict l = b := by rw [verdict, hb {}]
  rwa [hverdict]

theorem AnswersAt.verdict_iff {p : Selector} {l : Location} (h : p.AnswersAt l) :
    p.verdict l = true ↔ p.HoldsAt l :=
  (holdsAt_iff_of_yields h.yields_verdict).symm

theorem isTotal_looking (test : Subject → Bool) (name : String) : (looking test name).IsTotal :=
  fun l => ⟨test (.position l), Probe.yields_pure _⟩

theorem holdsAt_looking_iff {test : Subject → Bool} {name : String} {l : Location} :
    (looking test name).HoldsAt l ↔ test (.position l) = true :=
  holdsAt_iff_of_yields (Probe.yields_pure _)

/-- Parts that have answers, asked from left to right, say together whether all of them hold. -/
theorem allHold_yields : ∀ (parts : List Selector) (l : Location), (∀ p ∈ parts, p.IsTotal) →
    ∃ b, (allHold parts (.position l)).Yields b ∧ (b = true ↔ ∀ p ∈ parts, p.HoldsAt l)
  | [], _, _ => ⟨true, Probe.yields_pure _, by simp⟩
  | p :: ps, l, h => by
    rw [allHold]
    obtain ⟨here, hhere⟩ := h p List.mem_cons_self l
    cases here with
    | true =>
      obtain ⟨b, hb, hiff⟩ := allHold_yields ps l fun q hq => h q (List.mem_cons_of_mem _ hq)
      exact ⟨b, hhere.bind hb, by rw [hiff, List.forall_mem_cons, holdsAt_iff_of_yields hhere]; simp⟩
    | false =>
      refine ⟨false, hhere.bind (Probe.yields_pure _), ?_⟩
      rw [List.forall_mem_cons, holdsAt_iff_of_yields hhere]
      simp

theorem isTotal_all {parts : List Selector} (h : ∀ p ∈ parts, p.IsTotal) : (all parts).IsTotal :=
  fun l => (allHold_yields parts l h).imp fun _ hb => hb.1.inGenerator

theorem holdsAt_all_iff {parts : List Selector} (h : ∀ p ∈ parts, p.IsTotal) (l : Location) :
    (all parts).HoldsAt l ↔ ∀ p ∈ parts, p.HoldsAt l := by
  obtain ⟨b, hb, hiff⟩ := allHold_yields parts l h
  rw [← hiff]
  exact holdsAt_iff_of_yields hb.inGenerator

end Selector
end MarkupQuery
