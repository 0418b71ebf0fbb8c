import Mathlib.Data.List.Nodup
import MarkupQuery.Proofs.Selector.Chain
import MarkupQuery.Proofs.Selector.Question

/-!
# The questions of a chain

A chain asks its last link about the subject itself, once. When that holds it climbs: the ancestors
are asked about, nearest first, each by one link. The link before the last comes first; when a link
holds, the ancestors further up are left to the link before it. The climb is over when the first
link has held, when there is no ancestor left, or when a question fails (`Selector.Climb`).

The links may do anything when they are asked, so all this is said of the questions that are put,
and not of the verdict alone.

Main statement: `Selector.chain_asks_each_ancestor_once`.
-/

namespace MarkupQuery
namespace Selector

/-- How a climb comes to its result. -/
inductive ClimbEnds (links : List Selector) (above : List Subject) (qs : List Question) :
    Except Failure Bool → Prop
  /-- Every link has held. -/
  | settled (hall : ∀ q ∈ qs, q.Answered) (hheld : qs.countP Question.held = links.length) :
      ClimbEnds links above qs (.ok true)
  /-- All subjects have been asked about, and links are left over. -/
  | passed (hall : ∀ q ∈ qs, q.Answered) (hheld : qs.countP Question.held < links.length)
      (hlength : qs.length = above.length) : ClimbEnds links above qs (.ok false)
  /-- The last question failed. -/
  | failed {q : Question} {f : Failure} (hlast : qs.getLast? = some q) (hf : q.outcome = .error f) :
      ClimbEnds links above qs (.error f)

/-- A climb with links about the subjects further and further up: its questions and its result. -/
structure Climb (links : List Selector) (above : List Subject) (qs : List Question)
    (r : Except Failure Bool) : Prop where
  /-- The subjects are the first ones on the way up, none passed over and none asked about again. -/
  about : qs.map Question.about = above.take qs.length
  /-- The link that is asked is the one at the place told by how many questions have held so far. -/
  asked : ∀ (k : Nat) (q : Question), qs[k]? = some q →
    links[(qs.take k).countP Question.held]? = some q.asked
  /-- Another question follows only one that was answered. -/
  answered : qs.Pairwise fun q _ => q.Answered
  ends : ClimbEnds links above qs r

section Steps

variable {link : Selector} {links : List Selector} {s : Subject} {above : List Subject}
  {qs : List Question} {r : Except Failure Bool}

theorem climb_of_links_eq_nil (above : List Subject) : Climb [] above [] (.ok true) where
  about := rfl
  asked k q h := by simp at h
  answered := .nil
  ends := .settled (by simp) rfl

theorem climb_of_above_eq_nil (link : Selector) (links : List Selector) :
    Climb (link :: links) [] [] (.ok false) where
  about := rfl
  asked k q h := by simp at h
  answered := .nil
  ends := .passed (by simp) (by simp) rfl

theorem climb_of_failure (link : Selector) (links : List Selector) (s : Subject)
    (above : List Subject) (f : Failure) :
    Climb (link :: links) (s :: above) [⟨link, s, .error f⟩] (.error f) where
  about := rfl
  asked k q h := by
    obtain ⟨rfl, rfl⟩ : k = 0 ∧ ⟨link, s, .error f⟩ = q := by
      cases k with
      | zero => exact ⟨rfl, Option.some.inj h⟩
      | succ k => simp at h
    rfl
  answered := List.pairwise_singleton _ _
  ends := .failed rfl rfl

/-- A link that holds leaves the subjects further up to the links after it, and one that does not is
asked about them, too. -/
theorem Climb.cons {b : Bool} (h : Climb (if b then links else link :: links) above qs r) :
    Climb (link :: links) (s :: above) (⟨link, s, .ok b⟩ :: qs) r := by
  have hheld (l : List Question) : (⟨link, s, .ok b⟩ :: l).countP Question.held =
      l.countP Question.held + if b then 1 else 0 := List.countP_cons
  have hlength : (if b then links else link :: links).length + (if b then 1 else 0)
      = (link :: links).length := by cases b <;> rfl
  have hall (hqs : ∀ q ∈ qs, q.Answered) : ∀ q ∈ ⟨link, s, .ok b⟩ :: qs, q.Answered :=
    List.forall_mem_cons.mpr ⟨⟨b, rfl⟩, hqs⟩
  refine ⟨?_, ?_, List.pairwise_cons.mpr ⟨fun _ _ => ⟨b, rfl⟩, h.answered⟩, ?_⟩
  · rw [List.map_cons, List.length_cons, List.take_succ_cons, h.about]
  · intro k q hq
    cases k with
    | zero =>
      obtain rfl := Option.some.inj hq
      rfl
    | succ k =>
      have hlater := h.asked k q hq
      rw [List.take_succ_cons, hheld]
      cases b with
      | true => exact hlater
      | false => exact hlater
  · cases h.ends with
    | settled hqs hcount => exact .settled (hall hqs) (by rw [hheld, hcount, hlength])
    | passed hqs hcount habove =>
      refine .passed (hall hqs) ?_ (congrArg (· + 1) habove)
      rw [hheld, ← hlength]
      omega
    | failed hlast hf => exact .failed (by rw [List.getLast?_cons, hlast]; rfl) hf

/-- Nobody is asked but the links. -/
theorem Climb.asked_mem (h : Climb links above qs r) : ∀ q ∈ qs, q.asked ∈ links := by
  intro q hq
  obtain ⟨k, hk⟩ := List.mem_iff_getElem?.mp hq
  exact List.mem_of_getElem? (h.asked k q hk)

theorem Climb.length_le (h : Climb links above qs r) : qs.length ≤ above.length := by
  have hlength := congrArg List.length h.about
  rw [List.length_map, List.length_take] at hlength
  omega

end Steps

/-- The walk over the ancestors is a climb. -/
theorem linksHold_asks (links : List Selector) (above : List Subject) (t : Trace) :
    ∃ qs r, (linksHold links above).Asks t qs r ∧ Climb links above qs r := by
  fun_induction linksHold links above generalizing t with
  | case1 above => exact ⟨[], .ok true, Probe.asks_pure true t, climb_of_links_eq_nil above⟩
  | case2 link links =>
    exact ⟨[], .ok false, Probe.asks_pure false t, climb_of_above_eq_nil link links⟩
  | case3 link links s above ihheld ihmissed =>
    rcases hhere : (link.holds s).run t with ⟨f | b, u⟩
    · exact ⟨_, _, Probe.asks_bind_of_error hhere, climb_of_failure link links s above f⟩
    · -- the way further up is climbed with fewer links, or with the same
      have hrest : ∃ qs r, (if b then linksHold links above else linksHold (link :: links) above).Asks
          u qs r ∧ Climb (if b then links else link :: links) above qs r := by
        cases b with
        | true => exact ihheld u
        | false => exact ihmissed u
      obtain ⟨qs, r, hqs, hclimb⟩ := hrest
      exact ⟨_, r, Probe.asks_bind_of_ok hhere hqs, hclimb.cons⟩

/-- A chain asks its last link, and climbs with the others where that holds. -/
theorem chain_asks {outer : List Selector} (hne : outer ≠ []) (last : Selector) (l : Location)
    (t : Trace) :
    ∃ outcome rest r,
      ((chain (outer ++ [last])).holds (.position l)).Asks t
        (⟨last, .position l, outcome⟩ :: rest) r ∧
      ((outcome = .ok true ∧ Climb outer.reverse (l.ancestors.map .position) rest r) ∨
        (outcome ≠ .ok true ∧ rest = [] ∧ r = outcome)) := by
  rw [chain_holds hne]
  rcases hlast : (last.holds (.position l)).run t with ⟨f | b, u⟩
  · exact ⟨_, [], _, Probe.asks_bind_of_error hlast, .inr ⟨by simp, rfl, rfl⟩⟩
  · cases b with
    | true =>
      obtain ⟨rest, r, hrest, hclimb⟩ :=
        linksHold_asks outer.reverse (Subject.position l).ancestors u
      exact ⟨_, rest, r, Probe.asks_bind_of_ok hlast hrest, .inl ⟨rfl, hclimb⟩⟩
    | false =>
      exact ⟨_, [], _, Probe.asks_bind_of_ok hlast (Probe.asks_pure false u),
        .inr ⟨by simp, rfl, rfl⟩⟩

/-- **A chain asks about each ancestor at most once.** With two links or more, the first question
goes to the last link and is about the position itself. If the last link holds, a climb with the
other links follows, last first, about the ancestors, nearest first; if it does not, or fails,
nothing follows. No subject is asked about twice, so there are at most as many questions as there
are positions from there to the root. If every link leaves one sighting when it is asked, those are
the sightings that are left. -/
theorem chain_asks_each_ancestor_once {outer : List Selector} (hne : outer ≠ []) (last : Selector)
    (l : Location) (t : Trace) :
    ∃ outcome rest r,
      ((chain (outer ++ [last])).holds (.position l)).Asks t
        (⟨last, .position l, outcome⟩ :: rest) r ∧
      ((outcome = .ok true ∧ Climb outer.reverse (l.ancestors.map .position) rest r) ∨
        (outcome ≠ .ok true ∧ rest = [] ∧ r = outcome)) ∧
      (Subject.position l :: rest.map Question.about).Nodup ∧
      rest.length + 1 ≤ l.depth + 1 ∧
      ∀ note : Selector → Subject → Sighting,
        (∀ p ∈ outer ++ [last], ∀ s t, ((p.holds s).run t).2 = t.push (note p s)) →
        (((chain (outer ++ [last])).holds (.position l)).run t).2.toList =
          t.toList ++ note last (.position l) :: rest.map fun q => note q.asked q.about := by
  obtain ⟨outcome, rest, r, hasks, hrest⟩ := chain_asks hne last l t
  have hway : rest.map Question.about = (l.ancestors.map Subject.position).take rest.length ∧
      rest.length ≤ l.ancestors.length ∧ ∀ q ∈ rest, q.asked ∈ outer := by
    rcases hrest with ⟨-, hclimb⟩ | ⟨-, rfl, -⟩
    · exact ⟨hclimb.about, by simpa using hclimb.length_le,
        fun q hq => List.mem_reverse.mp (hclimb.asked_mem q hq)⟩
    · exact ⟨rfl, Nat.zero_le _, by simp⟩
  obtain ⟨habout, hlength, hmem⟩ := hway
  refine ⟨outcome, rest, r, hasks, hrest, ?_, ?_, fun note hnote => ?_⟩
  · have hpositions : ((l :: l.ancestors).map Subject.position).Nodup :=
      l.nodup_self_ancestors.map fun a b h => Subject.position.inj h
    rw [habout]
    exact hpositions.sublist ((List.take_sublist _ _).cons_cons _)
  · rw [← l.length_ancestors]
    exact Nat.succ_le_succ hlength
  · refine hasks.sightings fun q hq t => ?_
    rcases List.mem_cons.mp hq with rfl | hq
    · exact hnote last (List.mem_append_right _ List.mem_cons_self) _ t
    · exact hnote q.asked (List.mem_append_left _ (hmem q hq)) q.about t

/-- Three links from within three elements: the middle one is asked about two of them, and the first
one fails at the root. -/
theorem chain_asks_each_ancestor_once_failing :
    let outer : List Selector := [noting "a" fun _ => .error (.raised (.value "a")),
      noting "b" fun s => .ok (s.tag? == some "li")]
    let last : Selector := noting "c" fun _ => .ok true
    let b : Node := .element "b" none [.text "x"]
    let li : Node := .element "li" none [b]
    let ul : Node := .element "ul" none [li]
    ∃ l, (Location.ofRoot ul).descend? [0, 0, 0] = some l ∧ outer ≠ [] ∧
      ∃ qs r, ((chain (outer ++ [last])).holds (.position l)).Asks {} qs r ∧
        r = .error (.raised (.value "a")) ∧ qs.map (·.asked.name) = ["c", "b", "b", "a"] ∧
        (qs.map Question.about).Nodup ∧ qs.length ≤ 4 := by
  intro outer last b li ul
  let above : List Crumb := [⟨b, [], [], false⟩, ⟨li, [], [], false⟩, ⟨ul, [], [], false⟩]
  let l : Location := ⟨.text "x", above, false, false⟩
  have hne : outer ≠ [] := List.cons_ne_nil _ _
  obtain ⟨outcome, rest, r, hasks, -, hnodup, hlength, hsightings⟩ :=
    chain_asks_each_ancestor_once hne last l {}
  have hnote : ∀ p ∈ outer ++ [last], ∀ s t, ((p.holds s).run t).2 = t.push ⟨p.name, s.value⟩ := by
    simp only [outer, last, List.cons_append, List.nil_append, List.forall_mem_cons, run_noting]
    simp [noting]
  have htrace := congrArg (List.map Sighting.observer)
    (hsightings (fun p s => ⟨p.name, s.value⟩) hnote)
  have hfails : (((chain (outer ++ [last])).holds (.position l)).run {}).1
      = .error (.raised (.value "a")) := by decide +kernel
  have hnames : (((chain (outer ++ [last])).holds (.position l)).run {}).2.toList.map
      Sighting.observer = ["c", "b", "b", "a"] := by decide +kernel
  refine ⟨l, rfl, hne, _, r, hasks, hasks.run_fst.symm.trans hfails, ?_, hnodup, hlength⟩
  rw [← hnames, htrace]
  simp [last, noting]

end Selector
end MarkupQuery
