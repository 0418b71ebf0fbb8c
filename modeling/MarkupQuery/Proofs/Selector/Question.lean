import MarkupQuery.Proofs.Steps
import MarkupQuery.Selector.Basic

/-!
# Questions put to selectors

What a combination of selectors does, apart from coming to a result, is to put questions: it asks
one selector about one subject, then perhaps another. An interview is a list of questions, each with
what came of it, that were put one after the other (`Interview`). A computation asks the questions
of an interview when it does what the interview does and nothing else (`Probe.Asks`).

The selectors are the callers' and may do anything: fail, leave sightings, go by what was seen
before. Where each of them leaves one sighting whenever it is asked, the sightings left by a
computation are the list of its questions (`Probe.Asks.sightings`), so it is known which questions
were put, about what, how often and in which order.
-/

namespace MarkupQuery

/-- A question to a selector about a subject, and what came of it. -/
structure Question where
  asked : Selector
  about : Subject
  outcome : Except Failure Bool

namespace Question

/-- The selector held. -/
def held (q : Question) : Bool :=
  match q.outcome with
  | .ok b => b
  | .error _ => false

/-- The selector gave an answer, be it yes or no. -/
def Answered (q : Question) : Prop := ∃ b, q.outcome = .ok b

end Question

/-- Questions were put one after the other: the first found one trace, and each of the others the
trace that the one before it had left. -/
inductive Interview : Trace → List Question → Trace → Prop
  | nil (t : Trace) : Interview t [] t
  | cons {q : Question} {qs : List Question} {t u v : Trace}
      (h : (q.asked.holds q.about).run t = (q.outcome, u)) (rest : Interview u qs v) :
      Interview t (q :: qs) v

/-- Selectors that leave one sighting each time they are asked leave those of the questions. -/
theorem Interview.sightings {t u : Trace} {qs : List Question} (h : Interview t qs u)
    {note : Selector → Subject → Sighting}
    (hnote : ∀ q ∈ qs, ∀ t, ((q.asked.holds q.about).run t).2 = t.push (note q.asked q.about)) :
    u.toList = t.toList ++ qs.map fun q => note q.asked q.about := by
  induction h with
  | nil t => rw [List.map_nil, List.append_nil]
  | @cons q qs t u v hq _ ih =>
    obtain ⟨hhere, hrest⟩ := List.forall_mem_cons.mp hnote
    have hu : u = t.push (note q.asked q.about) := by rw [← hhere t, hq]
    rw [ih hrest, hu, Trace.toList_push, List.append_assoc, List.map_cons, List.singleton_append]

namespace Probe

/-- A computation puts these questions, one after the other, and comes to this result. -/
def Asks (x : Probe Bool) (t : Trace) (qs : List Question) (r : Except Failure Bool) : Prop :=
  ∃ u, Interview t qs u ∧ x.run t = (r, u)

variable {x : Probe Bool} {t : Trace} {qs : List Question} {r : Except Failure Bool}

/-- Without a question there is a result at once. -/
theorem asks_pure (b : Bool) (t : Trace) : Asks (pure b) t [] (.ok b) := ⟨t, .nil t, rfl⟩

/-- To ask a selector is to put one question. -/
theorem asks_holds (p : Selector) (s : Subject) (t : Trace) :
    Asks (p.holds s) t [⟨p, s, ((p.holds s).run t).1⟩] ((p.holds s).run t).1 :=
  ⟨((p.holds s).run t).2, .cons rfl (.nil _), rfl⟩

/-- What follows a question that was answered goes on from the trace that was left. -/
theorem asks_bind_of_ok {p : Selector} {s : Subject} {b : Bool} {u : Trace} {f : Bool → Probe Bool}
    (h : (p.holds s).run t = (.ok b, u)) (hf : (f b).Asks u qs r) :
    Asks (p.holds s >>= f) t (⟨p, s, .ok b⟩ :: qs) r := by
  obtain ⟨v, hv, hrun⟩ := hf
  exact ⟨v, .cons h hv, (run_bind_of_ok h).trans hrun⟩

/-- Nothing follows a question that failed. -/
theorem asks_bind_of_error {p : Selector} {s : Subject} {e : Failure} {u : Trace}
    {f : Bool → Probe Bool} (h : (p.holds s).run t = (.error e, u)) :
    Asks (p.holds s >>= f) t [⟨p, s, .error e⟩] (.error e) :=
  ⟨u, .cons h (.nil u), run_bind_of_error h⟩

/-- Changing the answer puts no question. -/
theorem Asks.map (h : x.Asks t qs r) (f : Bool → Bool) : Asks (f <$> x) t qs (r.map f) := by
  obtain ⟨u, hu, hrun⟩ := h
  refine ⟨u, hu, ?_⟩
  rw [map_eq_pure_bind, run_bind, hrun]
  cases r <;> rfl

/-- Where a computation is run makes a difference to a failure only. -/
theorem Asks.inGenerator (h : x.Asks t qs r) :
    x.inGenerator.Asks t qs (r.mapError Failure.inGenerator) := by
  obtain ⟨u, hu, hrun⟩ := h
  exact ⟨u, hu, by rw [run_inGenerator, hrun]⟩

theorem Asks.run_fst (h : x.Asks t qs r) : (x.run t).1 = r := by
  obtain ⟨u, -, hrun⟩ := h
  rw [hrun]

/-- The sightings that a computation leaves are those of its questions, where each selector that is
asked leaves one. -/
theorem Asks.sightings (h : x.Asks t qs r) {note : Selector → Subject → Sighting}
    (hnote : ∀ q ∈ qs, ∀ t, ((q.asked.holds q.about).run t).2 = t.push (note q.asked q.about)) :
    (x.run t).2.toList = t.toList ++ qs.map fun q => note q.asked q.about := by
  obtain ⟨u, hu, hrun⟩ := h
  rw [hrun]
  exact hu.sightings hnote

end Probe

/-- A test that leaves a sighting of what it is asked about, and then has an answer or fails. -/
def Selector.noting (name : String) (test : Subject → Except Failure Bool) : Selector :=
  ⟨fun s => do
    Probe.note name s.value
    Probe.ofExcept (test s), name⟩

theorem Selector.run_noting (name : String) (test : Subject → Except Failure Bool) (s : Subject)
    (t : Trace) :
    ((noting name test).holds s).run t = (test s, t.push ⟨name, s.value⟩) := by
  show (Probe.note name s.value >>= fun _ => Probe.ofExcept (test s)).run t = _
  rw [run_bind]
  show (Probe.ofExcept (test s)).run (t.push ⟨name, s.value⟩) = _
  cases test s <;> rfl

end MarkupQuery
