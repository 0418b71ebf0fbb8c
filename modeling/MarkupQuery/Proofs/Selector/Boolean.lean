import MarkupQuery.Proofs.Probe
import MarkupQuery.Proofs.Selector.Question
import MarkupQuery.Selector.Query

/-!
# Laws of the combinations

"All" and "any" do the same with the answers changed: they ask their parts in turn until one gives
the answer that settles it, which is no for the one and yes for the other (`Selector.askUntil`). The
laws of the Boolean operations therefore hold of the combinations, and not for the answer only. Both
sides of a law put the same questions to the parts, so they stop at the same part, and what makes
one of them fail makes the other fail, too (`Selector.AskAlike`).

Main statement: `Query.combinations_obey_boolean_laws`.
-/

namespace MarkupQuery
namespace Selector

/-! ## Asking in turn -/

/-- Asks each part until one gives the answer that settles it. -/
def askUntil (stop : Bool) : List Selector → Subject → Probe Bool
  | [], _ => pure !stop
  | p :: ps, s => do
    if (← p.holds s) = stop then pure stop else askUntil stop ps s

theorem allHold_eq_askUntil (parts : List Selector) (s : Subject) :
    allHold parts s = askUntil false parts s := by
  induction parts with
  | nil => rfl
  | cons p ps ih =>
    rw [allHold, askUntil, ih]
    refine bind_congr fun b => ?_
    cases b <;> rfl

theorem anyHolds_eq_askUntil (parts : List Selector) (s : Subject) :
    anyHolds parts s = askUntil true parts s := by
  induction parts with
  | nil => rfl
  | cons p ps ih => rw [anyHolds, askUntil, ih]

/-- Changed parts settle it with the other answer. -/
theorem askUntil_map_negate (stop : Bool) (parts : List Selector) (s : Subject) :
    askUntil (!stop) (parts.map negate) s = (!·) <$> askUntil stop parts s := by
  induction parts with
  | nil => exact (map_pure _ _).symm
  | cons p ps ih =>
    rw [List.map_cons, askUntil, askUntil, ih, map_bind, negate, bind_map_left]
    refine bind_congr fun b => ?_
    by_cases hb : b = stop
    · rw [if_pos hb, if_pos (congrArg (!·) hb), map_pure]
    · rw [if_neg hb, if_neg (mt Bool.not_inj hb)]

/-- The parts behind others are asked when those have not settled it. -/
theorem askUntil_append (stop : Bool) (ps qs : List Selector) (s : Subject) :
    askUntil stop (ps ++ qs) s = (do
      if (← askUntil stop ps s) = stop then pure stop else askUntil stop qs s) := by
  induction ps with
  | nil => rw [askUntil, pure_bind, if_neg (Bool.not_eq_self stop).mp, List.nil_append]
  | cons p ps ih =>
    rw [List.cons_append, askUntil, ih, askUntil, bind_assoc]
    refine bind_congr fun b => ?_
    by_cases hb : b = stop
    · -- what settles it for the first ones settles it for all
      rw [if_pos hb, if_pos hb, pure_bind, if_pos rfl]
    · rw [if_neg hb, if_neg hb]

/-- Asks each part until one gives the answer that settles it, as the combinations do: the answers are
delivered one after the other. -/
def askInTurn (stop : Bool) (parts : List Selector) (s : Subject) : Probe Bool :=
  (askUntil stop parts s).inGenerator

theorem all_holds (parts : List Selector) (s : Subject) :
    (all parts).holds s = askInTurn false parts s :=
  congrArg Probe.inGenerator (allHold_eq_askUntil parts s)

theorem any_holds (parts : List Selector) (s : Subject) :
    (any parts).holds s = askInTurn true parts s :=
  congrArg Probe.inGenerator (anyHolds_eq_askUntil parts s)

theorem askInTurn_map_negate (stop : Bool) (parts : List Selector) (s : Subject) :
    askInTurn (!stop) (parts.map negate) s = (!·) <$> askInTurn stop parts s := by
  rw [askInTurn, askUntil_map_negate, Probe.inGenerator_map]
  rfl

/-- A first part that asks others in the same way is as good as those others. -/
theorem askInTurn_cons {p : Selector} {stop : Bool} {ps : List Selector} {s : Subject}
    (hp : p.holds s = askInTurn stop ps s) (qs : List Selector) :
    askInTurn stop (p :: qs) s = askInTurn stop (ps ++ qs) s := by
  rw [askInTurn, askUntil, hp, askInTurn, Probe.inGenerator_bind_inGenerator, askInTurn,
    askUntil_append]

theorem negate_negate_holds (p : Selector) (s : Subject) :
    (negate (negate p)).holds s = p.holds s := by
  show (!·) <$> (!·) <$> p.holds s = p.holds s
  rw [Functor.map_map]
  simp only [Bool.not_not, id_map']

/-! ## Rounds of questions -/

/-- How a round of questions comes to its result. -/
inductive RoundEnds (stop : Bool) (parts : List Selector) (qs : List Question) :
    Except Failure Bool → Prop
  /-- The last question got the answer that settles it. -/
  | settled {q : Question} (hlast : qs.getLast? = some q) (hq : q.outcome = .ok stop) :
      RoundEnds stop parts qs (.ok stop)
  /-- The last question failed. -/
  | failed {q : Question} {f : Failure} (hlast : qs.getLast? = some q) (hf : q.outcome = .error f) :
      RoundEnds stop parts qs (.error f)
  /-- All parts were asked, and none has settled it. -/
  | passed (hall : ∀ q ∈ qs, q.outcome = .ok !stop) (hlength : qs.length = parts.length) :
      RoundEnds stop parts qs (.ok !stop)

/-- Parts are asked about a subject until one settles it: the questions and the result. -/
structure Round (stop : Bool) (parts : List Selector) (s : Subject) (qs : List Question)
    (r : Except Failure Bool) : Prop where
  /-- The parts that are asked are the first ones, none passed over and none asked again. -/
  asked : qs.map Question.asked = parts.take qs.length
  about : ∀ q ∈ qs, q.about = s
  /-- Another question follows only an answer that has not settled it. -/
  unsettled : qs.Pairwise fun q _ => q.outcome = .ok !stop
  ends : RoundEnds stop parts qs r

section Rounds

variable {stop : Bool} {p : Selector} {parts : List Selector} {s : Subject} {qs : List Question}
  {r : Except Failure Bool}

theorem round_nil (stop : Bool) (s : Subject) : Round stop [] s [] (.ok !stop) where
  asked := rfl
  about := by simp
  unsettled := .nil
  ends := .passed (by simp) rfl

/-- A round is over with a question that settles it, or that fails. -/
theorem round_singleton (parts : List Selector) (s : Subject)
    (hends : RoundEnds stop (p :: parts) [⟨p, s, r⟩] r) :
    Round stop (p :: parts) s [⟨p, s, r⟩] r where
  asked := rfl
  about := by simp
  unsettled := List.pairwise_singleton _ _
  ends := hends

/-- A question that does not settle it leaves the round to the other parts. -/
theorem Round.cons (h : Round stop parts s qs r) :
    Round stop (p :: parts) s (⟨p, s, .ok !stop⟩ :: qs) r where
  asked := by rw [List.map_cons, List.length_cons, List.take_succ_cons, h.asked]
  about := List.forall_mem_cons.mpr ⟨rfl, h.about⟩
  unsettled := List.pairwise_cons.mpr ⟨fun _ _ => rfl, h.unsettled⟩
  ends := by
    cases h.ends with
    | settled hlast hq => exact .settled (by rw [List.getLast?_cons, hlast]; rfl) hq
    | failed hlast hf => exact .failed (by rw [List.getLast?_cons, hlast]; rfl) hf
    | passed hall hlength =>
      exact .passed (List.forall_mem_cons.mpr ⟨rfl, hall⟩) (congrArg (· + 1) hlength)

/-- Nobody is asked but the parts. -/
theorem Round.asked_mem (h : Round stop parts s qs r) : ∀ q ∈ qs, q.asked ∈ parts := by
  intro q hq
  have hasked : q.asked ∈ qs.map Question.asked := List.mem_map_of_mem hq
  rw [h.asked] at hasked
  exact List.mem_of_mem_take hasked

end Rounds

/-- Asking in turn is a round of questions. -/
theorem askUntil_asks (stop : Bool) (parts : List Selector) (s : Subject) (t : Trace) :
    ∃ qs r, (askUntil stop parts s).Asks t qs r ∧ Round stop parts s qs r := by
  induction parts generalizing t with
  | nil => exact ⟨[], .ok !stop, Probe.asks_pure _ t, round_nil stop s⟩
  | cons p ps ih =>
    rw [askUntil]
    rcases hhere : (p.holds s).run t with ⟨f | b, u⟩
    · exact ⟨_, _, Probe.asks_bind_of_error hhere, round_singleton ps s (.failed rfl rfl)⟩
    · by_cases hb : b = stop
      · subst hb
        refine ⟨_, _, Probe.asks_bind_of_ok hhere ?_, round_singleton ps s (.settled rfl rfl)⟩
        rw [if_pos rfl]
        exact Probe.asks_pure b u
      · obtain rfl : b = !stop := Bool.eq_not.mpr hb
        obtain ⟨qs, r, hqs, hround⟩ := ih u
        exact ⟨_, r, Probe.asks_bind_of_ok hhere (by rwa [if_neg hb]), hround.cons⟩

/-- Two combinations of the same parts do the same everywhere. They put the questions of a round and
come to its result: an answer changed as `f` says, or a failure, which is never one that would be taken
for the end of the answers. If every part leaves one sighting when it is asked, those of the round's
questions are the sightings that are left. -/
structure AskAlike (stop : Bool) (parts : List Selector) (f : Bool → Bool) (x y : Selector) :
    Prop where
  run_eq : ∀ s t, (x.holds s).run t = (y.holds s).run t
  round : ∀ s t, ∃ qs r, (x.holds s).Asks t qs ((r.mapError Failure.inGenerator).map f) ∧
    Round stop parts s qs r ∧
    ∀ note : Selector → Subject → Sighting,
      (∀ p ∈ parts, ∀ t, ((p.holds s).run t).2 = t.push (note p s)) →
      ((x.holds s).run t).2.toList = t.toList ++ qs.map fun q => note q.asked q.about

theorem askAlike_of_holds {stop : Bool} {parts : List Selector} {f : Bool → Bool} {x y : Selector}
    (hx : ∀ s, x.holds s = f <$> askInTurn stop parts s)
    (hy : ∀ s, y.holds s = f <$> askInTurn stop parts s) : AskAlike stop parts f x y where
  run_eq s t := by rw [hx, hy]
  round s t := by
    obtain ⟨qs, r, hasks, hround⟩ := askUntil_asks stop parts s t
    have hmap : (x.holds s).Asks t qs ((r.mapError Failure.inGenerator).map f) := by
      rw [hx]
      exact hasks.inGenerator.map f
    refine ⟨qs, r, hmap, hround, fun note hnote => hmap.sightings fun q hq t => ?_⟩
    rw [hround.about q hq]
    exact hnote q.asked (hround.asked_mem q hq) t

theorem askAlike_negate_all (ps : List Selector) :
    AskAlike false ps (!·) (negate (all ps)) (any (ps.map negate)) :=
  askAlike_of_holds (fun s => congrArg ((!·) <$> ·) (all_holds ps s))
    fun s => (any_holds _ s).trans (askInTurn_map_negate false ps s)

theorem askAlike_negate_any (ps : List Selector) :
    AskAlike true ps (!·) (negate (any ps)) (all (ps.map negate)) :=
  askAlike_of_holds (fun s => congrArg ((!·) <$> ·) (any_holds ps s))
    fun s => (all_holds _ s).trans (askInTurn_map_negate true ps s)

theorem askAlike_all_cons_all (ps qs : List Selector) :
    AskAlike false (ps ++ qs) id (all (all ps :: qs)) (all (ps ++ qs)) := by
  refine askAlike_of_holds (fun s => ?_) fun s => ?_
  · rw [id_map, all_holds, askInTurn_cons (all_holds ps s)]
  · rw [id_map, all_holds]

theorem askAlike_any_cons_any (ps qs : List Selector) :
    AskAlike true (ps ++ qs) id (any (any ps :: qs)) (any (ps ++ qs)) := by
  refine askAlike_of_holds (fun s => ?_) fun s => ?_
  · rw [id_map, any_holds, askInTurn_cons (any_holds ps s)]
  · rw [id_map, any_holds]

end Selector

namespace Query

/-! ## Combinations as callers make them -/

/-- What can be part of a combination: a selector, or a caller's own test. -/
inductive Part where
  | selector (p : Selector)
  | callback (c : Callback)

namespace Part

def toQuery : Part → Query
  | selector p => .selector p
  | callback c => .callback c

/-- The selector that a part amounts to. -/
def toSelector : Part → Selector
  | selector p => p
  | callback c => .ofCallback c

theorem asSelector_toQuery (p : Part) : p.toQuery.asSelector = .ok p.toSelector := by
  cases p <;> rfl

/-- What never fails for a part gives its results for a list of parts. -/
theorem mapM_toQuery {f : Query → Except Failure Selector} {g : Part → Selector}
    (h : ∀ p : Part, f p.toQuery = .ok (g p)) (ps : List Part) :
    (ps.map toQuery).mapM f = .ok (ps.map g) := by
  induction ps with
  | nil => rfl
  | cons p ps ih =>
    rw [List.map_cons, List.mapM_cons, h, ih]
    rfl

end Part

/-- The selector that holds where every part does. -/
def allOf (parts : List Query) : Except Failure Selector := combine .all parts

/-- The selector that holds where some part does. -/
def anyOf (parts : List Query) : Except Failure Selector := combine .any parts

/-- The selector that holds where a part does not. -/
def negation (part : Query) : Except Failure Selector := Selector.negate <$> part.asSelector

section Making

variable (ps : List Part) (p : Part)

theorem allOf_toQuery : allOf (ps.map Part.toQuery) = .ok (.all (ps.map Part.toSelector)) := by
  rw [allOf, combine, Part.mapM_toQuery Part.asSelector_toQuery]
  rfl

theorem anyOf_toQuery : anyOf (ps.map Part.toQuery) = .ok (.any (ps.map Part.toSelector)) := by
  rw [anyOf, combine, Part.mapM_toQuery Part.asSelector_toQuery]
  rfl

theorem negation_toQuery : negation p.toQuery = .ok p.toSelector.negate := by
  rw [negation, p.asSelector_toQuery]
  rfl

theorem mapM_negation_toQuery :
    (ps.map Part.toQuery).mapM negation = .ok ((ps.map Part.toSelector).map Selector.negate) := by
  rw [Part.mapM_toQuery negation_toQuery, List.map_map]
  rfl

/-- Selectors that were made before are parts like any others. -/
theorem make_map_selector {make : List Query → Except Failure Selector}
    {join : List Selector → Selector}
    (h : ∀ ps : List Part, make (ps.map Part.toQuery) = .ok (join (ps.map Part.toSelector)))
    (made : List Selector) : make (made.map .selector) = .ok (join made) := by
  have hmade := h (made.map .selector)
  rwa [List.map_map, List.map_map, show Part.toSelector ∘ Part.selector = id from rfl,
    List.map_id] at hmade

end Making

/-- **The combinations obey the Boolean laws.** For any parts, selectors or callers' tests, whatever
they answer, leave or fail with, these can be made and do the same: the negation of "all" and "any"
of the negations, the negation of "any" and "all" of the negations, an "all" that starts with an
"all" and the "all" of the parts of both, and so with "any". A part that is negated twice is asked
once, and comes to what it comes to by itself. -/
theorem combinations_obey_boolean_laws (ps qs : List Part) (p : Part) :
    (∃ x y, (do negation (.selector (← allOf (ps.map Part.toQuery)))) = .ok x ∧
      (do anyOf ((← (ps.map Part.toQuery).mapM negation).map .selector)) = .ok y ∧
      Selector.AskAlike false (ps.map Part.toSelector) (!·) x y) ∧
    (∃ x y, (do negation (.selector (← anyOf (ps.map Part.toQuery)))) = .ok x ∧
      (do allOf ((← (ps.map Part.toQuery).mapM negation).map .selector)) = .ok y ∧
      Selector.AskAlike true (ps.map Part.toSelector) (!·) x y) ∧
    (∃ x y, (do allOf (.selector (← allOf (ps.map Part.toQuery)) :: qs.map Part.toQuery)) = .ok x ∧
      allOf ((ps ++ qs).map Part.toQuery) = .ok y ∧
      Selector.AskAlike false ((ps ++ qs).map Part.toSelector) id x y) ∧
    (∃ x y, (do anyOf (.selector (← anyOf (ps.map Part.toQuery)) :: qs.map Part.toQuery)) = .ok x ∧
      anyOf ((ps ++ qs).map Part.toQuery) = .ok y ∧
      Selector.AskAlike true ((ps ++ qs).map Part.toSelector) id x y) ∧
    ∃ x, (do negation (.selector (← negation p.toQuery))) = .ok x ∧
      (∀ s t, ∃ r, (x.holds s).Asks t [⟨p.toSelector, s, r⟩] r ∧
        (x.holds s).run t = (p.toSelector.holds s).run t) ∧
      ∀ c, p = .callback c → ∀ s, x.holds s = Value.isTruthy <$> c.answer s := by
  have hparts : (ps ++ qs).map Part.toSelector = ps.map Part.toSelector ++ qs.map Part.toSelector :=
    List.map_append
  rw [allOf_toQuery, anyOf_toQuery, mapM_negation_toQuery, negation_toQuery, hparts]
  refine ⟨⟨_, _, negation_toQuery (.selector _), make_map_selector anyOf_toQuery _,
      Selector.askAlike_negate_all _⟩,
    ⟨_, _, negation_toQuery (.selector _), make_map_selector allOf_toQuery _,
      Selector.askAlike_negate_any _⟩,
    ⟨_, _, allOf_toQuery (.selector _ :: qs), allOf_toQuery _, ?_⟩,
    ⟨_, _, anyOf_toQuery (.selector _ :: qs), anyOf_toQuery _, ?_⟩,
    ⟨_, negation_toQuery (.selector _), fun s t => ?_, ?_⟩⟩
  · rw [hparts]
    exact Selector.askAlike_all_cons_all _ _
  · rw [hparts]
    exact Selector.askAlike_any_cons_any _ _
  · rw [Part.toSelector, Selector.negate_negate_holds]
    exact ⟨_, Probe.asks_holds p.toSelector s t, rfl⟩
  · rintro c rfl s
    exact Selector.negate_negate_holds (.ofCallback c) s

/-- A test with a number for an answer, one that fails, and a last one that is not asked any more. -/
theorem combinations_obey_boolean_laws_failing :
    let two : Callback := ⟨fun s => do Probe.note "two" s.value; pure (.whole 2), "two"⟩
    let ps : List Part := [.callback two,
      .selector (.noting "odd" fun _ => .error (.raised (.value "odd"))),
      .selector (.noting "last" fun _ => .ok true)]
    (∃ x y, (do negation (.selector (← allOf (ps.map Part.toQuery)))) = .ok x ∧
      (do anyOf ((← (ps.map Part.toQuery).mapM negation).map .selector)) = .ok y ∧
      ∀ s t, (x.holds s).run t = (y.holds s).run t ∧ (x.holds s).run t =
        (.error (.raised (.value "odd")), (t.push ⟨"two", s.value⟩).push ⟨"odd", s.value⟩)) ∧
    ∃ x, (do negation (.selector (← negation (.callback two)))) = .ok x ∧
      ∀ s t, (x.holds s).run t = (.ok true, t.push ⟨"two", s.value⟩) := by
  intro two ps
  obtain ⟨⟨x, y, hx, hy, halike⟩, -, -, -, z, hz, -, hcallback⟩ :=
    combinations_obey_boolean_laws ps [] (.callback two)
  refine ⟨⟨x, y, hx, hy, fun s t => ⟨halike.run_eq s t, ?_⟩⟩, z, hz, fun s t => ?_⟩
  · obtain rfl := Except.ok.inj hx
    rfl
  · rw [hcallback two rfl s]
    rfl

end Query
end MarkupQuery
