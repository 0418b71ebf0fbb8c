import Mathlib.Data.List.ReduceOption
import MarkupQuery.Proofs.Extraction.Agreement
import MarkupQuery.Proofs.Selection.Inquiry
import MarkupQuery.Proofs.Tree.Locations

/-!
# Selection is a filter in document order

A selection asks its selector about every position of every tree of its source, tree by tree and each
tree in document order, and keeps those that are answered with yes. The lazy form finds the same
matches one after the other, and never asks about more positions than up to the match that it has
come to. A question that fails ends both: the eager form fails, the lazy one has by then found the
matches before it. The failure is that of the question, except that a question may not say that there
is no more to deliver: both forms deliver matches themselves, and tell such a failure in another way.

Main statement: `select_filters_in_document_order`.
-/

namespace MarkupQuery

/-! ## Sources -/

/-- A source offers trees: none, a tree by itself, or those among the members of a sequence. -/
inductive Value.Offers : Value → List Node → Prop
  | absent : Offers .absent []
  | node (n : Node) : Offers (.node n) [n]
  | list (members : List (Option Node)) :
      Offers (.list (members.map Value.ofNode?)) members.reduceOption
  | tuple (members : List (Option Node)) :
      Offers (.tuple (members.map Value.ofNode?)) members.reduceOption

theorem Value.subjects_members (members : List (Option Node)) :
    (members.map Value.ofNode?).flatMap Value.subjects =
      (members.reduceOption.flatMap Node.locations).map .position := by
  induction members with
  | nil => rfl
  | cons member members ih =>
    rw [List.map_cons, List.flatMap_cons, ih]
    cases member with
    | none => rfl
    | some n =>
      rw [List.reduceOption_cons_of_some, List.flatMap_cons, List.map_append]
      rfl

/-- The subjects of a source are the positions of the trees that it offers. -/
theorem Value.Offers.sourceSubjects {source : Value} {trees : List Node} (h : source.Offers trees) :
    source.sourceSubjects = .ok ((trees.flatMap Node.locations).map .position) := by
  cases h with
  | absent => rfl
  | node n =>
    rw [List.flatMap_singleton]
    rfl
  | list members => exact congrArg Except.ok (subjects_members members)
  | tuple members => exact congrArg Except.ok (subjects_members members)

/-- The positions of a tree as they are gone through. -/
theorem Node.locations_inDocumentOrder (t : Node) :
    t.InDocumentOrder (fun _ => True) (t.locations.map Location.path) ∧
      ∀ l ∈ t.locations, l.root = t ∧ t.at? l.path = some l.node := by
  refine ⟨?_, fun l hl => ?_⟩
  · rw [map_path_locations]
    exact t.inDocumentOrder_positions
  · obtain ⟨hs, -, hw, -⟩ := Location.mem_locations_iff.mp hl
    exact ⟨hs.root_eq.trans hw, Location.at?_of_mem_locations hl⟩

/-! ## Lazy selection -/

/-- How far a selector has been asked when a scan has been advanced `k` times: about the subjects up
to the match number `k`, and about all of them, or up to a failure, once there are no more matches. -/
structure Selector.AskedThrough (p : Selector) (trace : Trace) (subjects : List Subject) (k : Nat)
    (now : Trace) : Prop where
  within : k ≤ ((p.inquire trace subjects).picked subjects).length →
    ∃ before, before <+: subjects ∧ (p.inquire trace before).EndsAtMatch k ∧
      now = (p.inquire trace before).trace
  beyond : ((p.inquire trace subjects).picked subjects).length < k →
    now = (p.inquire trace subjects).trace

namespace Selector

variable {p : Selector} {trace now : Trace} {subjects : List Subject}

theorem askedThrough_zero (p : Selector) (trace : Trace) (subjects : List Subject) :
    p.AskedThrough trace subjects 0 trace where
  within _ := ⟨[], List.nil_prefix, ⟨rfl, rfl, by simp [inquire_nil]⟩, rfl⟩
  beyond h := absurd h (Nat.not_lt_zero _)

theorem askedThrough_of_picked_nil (h : (p.inquire trace subjects).picked subjects = []) (k : Nat) :
    p.AskedThrough trace subjects (k + 1) (p.inquire trace subjects).trace where
  within hk := by simp [h] at hk
  beyond _ := rfl

/-- Inside a generator it is asked just as far. -/
theorem AskedThrough.of_inGenerator {k : Nat} (h : p.inGenerator.AskedThrough trace subjects k now) :
    p.AskedThrough trace subjects k now := by
  obtain ⟨hwithin, hbeyond⟩ := h
  simp only [inquire_inGenerator, Inquiry.picked_inGenerator, Inquiry.endsAtMatch_inGenerator_iff]
    at hwithin hbeyond
  exact ⟨hwithin, hbeyond⟩

/-- Once the first match is found, what is asked further is asked from there. -/
theorem AskedThrough.succ {before rest : List Subject} {found : Subject} {k : Nat}
    (hends : (p.inquire trace before).EndsAtMatch 1)
    (hpicked : (p.inquire trace (before ++ rest)).picked (before ++ rest) =
      found :: (p.inquire (p.inquire trace before).trace rest).picked rest)
    (h : p.AskedThrough (p.inquire trace before).trace rest k now) :
    p.AskedThrough trace (before ++ rest) (k + 1) now where
  within hk := by
    rw [hpicked, List.length_cons] at hk
    obtain ⟨further, hprefix, hfurther, hnow⟩ := h.within (Nat.le_of_succ_le_succ hk)
    refine ⟨before ++ further, (List.prefix_append_right_inj before).mpr hprefix, ?_, ?_⟩
    · rw [Nat.add_comm]
      exact endsAtMatch_append hends hfurther
    · rw [inquire_append hends.complete]
      exact hnow
  beyond hk := by
    rw [hpicked, List.length_cons] at hk
    rw [inquire_append hends.complete]
    exact h.beyond (Nat.lt_of_succ_lt_succ hk)

end Selector

namespace Scan

open MarkupQuery.Action

/-- Advances a scan a number of times and lists the answers. -/
def advances (scan : Scan) : Nat → Action (List (Except Failure (Option Subject)))
  | 0 => pure []
  | k + 1 => do
    let (answer, scan') ← scan.advance
    let more ← scan'.advances k
    pure (answer :: more)

variable {p : Selector} {s t u : Session} {subjects : List Subject}

theorem run_advances_succ {scan scan' : Scan} {k : Nat} {answer : Except Failure (Option Subject)}
    {more : List (Except Failure (Option Subject))}
    (h : scan.advance.run s = (.ok (answer, scan'), t))
    (hmore : (scan'.advances k).run t = (.ok more, u)) :
    (scan.advances (k + 1)).run s = (.ok (answer :: more), u) := by
  simp only [advances, run_bind, h, hmore, run_pure]

theorem run_advances_spent (k : Nat) (s : Session) :
    (spent.advances k).run s = (.ok (List.replicate k (.ok none)), s) := by
  induction k with
  | zero => rfl
  | succ k ih => exact run_advances_succ rfl ih

theorem run_seek_of_picked_nil (h : (p.inquire s.trace subjects).picked subjects = []) :
    (seek p subjects).run s =
      ((p.inquire s.trace subjects).ending.map fun _ => (none, .spent),
        { s with trace := (p.inquire s.trace subjects).trace }) := by
  rw [seek, run_bind, run_ofProbe, Selector.firstMatching_of_picked_nil h]
  cases (p.inquire s.trace subjects).ending <;> rfl

theorem run_seek_of_picked_cons {found : Subject} {more : List Subject}
    (h : (p.inquire s.trace subjects).picked subjects = found :: more) :
    ∃ before rest, subjects = before ++ rest ∧ (p.inquire s.trace before).EndsAtMatch 1 ∧
      (p.inquire (p.inquire s.trace before).trace rest).picked rest = more ∧
      (seek p subjects).run s = (.ok (some found, .running p rest),
        { s with trace := (p.inquire s.trace before).trace }) := by
  obtain ⟨before, rest, hsubjects, hends, hrun, hmore⟩ := Selector.firstMatching_of_picked_cons h
  refine ⟨before ++ [found], rest, hsubjects, hends, hmore, ?_⟩
  rw [seek, run_bind, run_ofProbe, hrun]
  rfl

theorem run_advance (scan : Scan) (s : Session) :
    scan.advance.run s = match scan.step.run s with
      | (.ok (found, scan'), t) => (.ok (.ok found, scan'), t)
      | (.error f, t) => (.ok (.error f, .spent), t) := by
  rw [advance, run_bind, run_outcome]
  rcases scan.step.run s with ⟨_ | ⟨found, scan'⟩, t⟩ <;> rfl

/-- What a running scan answers when it is advanced again and again, and how far it asks. -/
theorem run_advances_running (p : Selector) (k : Nat) (subjects : List Subject) (s : Session) :
    (((running p subjects).advances k).run s).1 =
        .ok ((List.range k).map ((p.inquire s.trace subjects).nth subjects)) ∧
      p.AskedThrough s.trace subjects k (((running p subjects).advances k).run s).2.trace := by
  induction k generalizing subjects s with
  | zero => exact ⟨rfl, p.askedThrough_zero s.trace subjects⟩
  | succ k ih =>
    cases hpicked : (p.inquire s.trace subjects).picked subjects with
    | nil =>
      -- this step ends the scan, with a failure or without
      have hadvance : (running p subjects).advance.run s =
          (.ok ((p.inquire s.trace subjects).ending.map fun _ => none, .spent),
            { s with trace := (p.inquire s.trace subjects).trace }) := by
        rw [run_advance, step, run_seek_of_picked_nil hpicked]
        cases (p.inquire s.trace subjects).ending <;> rfl
      rw [run_advances_succ hadvance (run_advances_spent k _),
        Inquiry.map_nth_of_picked_nil hpicked]
      exact ⟨rfl, Selector.askedThrough_of_picked_nil hpicked k⟩
    | cons found more =>
      obtain ⟨before, rest, rfl, hends, rfl, hseek⟩ := run_seek_of_picked_cons hpicked
      have hadvance : (running p (before ++ rest)).advance.run s =
          (.ok (.ok (some found), .running p rest),
            { s with trace := (p.inquire s.trace before).trace }) := by
        rw [run_advance, step, hseek]
      have hending : (p.inquire s.trace (before ++ rest)).ending =
          (p.inquire (p.inquire s.trace before).trace rest).ending := by
        rw [Selector.inquire_append hends.complete]
      obtain ⟨hanswers, hasked⟩ := ih rest { s with trace := (p.inquire s.trace before).trace }
      rw [run_advances_succ hadvance (Prod.ext hanswers rfl),
        Inquiry.map_nth_of_picked_cons hpicked hending]
      exact ⟨rfl, hasked.succ hends hpicked⟩

end Scan

section Selection

open MarkupQuery.Action

variable {s t : Session} {q : Query} {p : Selector} {source : Value} {subjects : List Subject}

/-- The first step of a scan compiles its query and goes on as a running scan. -/
theorem Scan.run_step_pending (hs : s.Faithful) (hq : q.compile = .ok p)
    (hsubjects : source.sourceSubjects = .ok subjects) (id : CacheId) :
    ∃ t, t.trace = s.trace ∧
      (pending id q source).step.run s = (running p.inGenerator subjects).step.run t := by
  obtain ⟨t, hrun, htrace⟩ := run_compile_of_ok hs hq id
  refine ⟨t, htrace, ?_⟩
  rw [step, run_bind_of_ok hrun]
  split
  · cases hsubjects
  · rw [hsubjects]
    rfl

theorem Scan.run_advances_pending (hs : s.Faithful) (hq : q.compile = .ok p)
    (hsubjects : source.sourceSubjects = .ok subjects) (id : CacheId) (k : Nat) :
    ∃ t, t.trace = s.trace ∧
      ((pending id q source).advances k).run s = ((running p.inGenerator subjects).advances k).run t := by
  cases k with
  | zero => exact ⟨s, rfl, rfl⟩
  | succ k =>
    obtain ⟨t, htrace, hstep⟩ := run_step_pending hs hq hsubjects id
    refine ⟨t, htrace, ?_⟩
    rw [advances, advances, run_bind, run_bind, run_advance, run_advance, hstep]

theorem run_selectFirst (hs : s.Faithful) (hq : q.compile = .ok p)
    (hsubjects : source.sourceSubjects = .ok subjects) (id : CacheId) :
    ((selectFirst id q source).run s).1 =
        (match (p.inquire s.trace subjects).picked subjects with
          | [] => (p.inquire s.trace subjects).inGenerator.ending.map fun _ => .absent
          | first :: _ => .ok first.value) ∧
      p.AskedThrough s.trace subjects 1 ((selectFirst id q source).run s).2.trace := by
  obtain ⟨t, htrace, hstep⟩ := Scan.run_step_pending hs hq hsubjects id
  rw [← htrace, selectFirst, run_bind, hstep, Scan.step, ← Selector.inquire_inGenerator,
    ← Inquiry.picked_inGenerator, ← Selector.inquire_inGenerator]
  cases hpicked : (p.inGenerator.inquire t.trace subjects).picked subjects with
  | nil =>
    have hasked := Selector.askedThrough_of_picked_nil hpicked 0
    rw [Scan.run_seek_of_picked_nil hpicked]
    cases hending : (p.inGenerator.inquire t.trace subjects).ending <;>
      exact ⟨rfl, hasked.of_inGenerator⟩
  | cons found more =>
    obtain ⟨before, rest, rfl, hends, rfl, hseek⟩ := Scan.run_seek_of_picked_cons hpicked
    rw [hseek]
    exact ⟨rfl, ((p.inGenerator.askedThrough_zero _ rest).succ hends hpicked).of_inGenerator⟩

theorem run_select_of_run_compile (hsubjects : source.sourceSubjects = .ok subjects)
    {id : CacheId} (hrun : (Action.compile id q).run s = (.ok p, t)) :
    ((select id q source).run s).1 = (p.inquire t.trace subjects).inGenerator.ending.map
        (fun _ => ((p.inquire t.trace subjects).picked subjects).map Subject.value) ∧
      ((select id q source).run s).2.trace = (p.inquire t.trace subjects).trace := by
  rw [select, run_bind_of_ok hrun, selectSubjects_selector,
    Selector.matchingIn_of_sourceSubjects hsubjects, run_bind, run_ofProbe, Selector.matching_run,
    Selector.inquire_inGenerator, Inquiry.picked_inGenerator]
  cases (p.inquire t.trace subjects).inGenerator.ending <;> exact ⟨rfl, rfl⟩

theorem run_select (hs : s.Faithful) (hq : q.compile = .ok p)
    (hsubjects : source.sourceSubjects = .ok subjects) (id : CacheId) :
    ((select id q source).run s).1 = (p.inquire s.trace subjects).inGenerator.ending.map
        (fun _ => ((p.inquire s.trace subjects).picked subjects).map Subject.value) ∧
      ((select id q source).run s).2.trace = (p.inquire s.trace subjects).trace := by
  obtain ⟨t, hrun, htrace⟩ := run_compile_of_ok hs hq id
  rw [← htrace]
  exact run_select_of_run_compile hsubjects hrun

/-- Where every question has an answer, a selection answers the nodes at which it is yes. -/
theorem run_select_of_yields {trees : List Node} {verdict : Location → Bool}
    (hsource : source.Offers trees) {id : CacheId}
    (hrun : (Action.compile id q).run s = (.ok p, t))
    (h : ∀ l ∈ trees.flatMap Node.locations, (p.holds (.position l)).Yields (verdict l)) :
    ((select id q source).run s).1 =
      .ok (((trees.flatMap Node.locations).filter verdict).map fun l => .node l.node) := by
  obtain ⟨hending, hanswers⟩ := Selector.inquire_of_yields h t.trace
  rw [(run_select_of_run_compile hsource.sourceSubjects hrun).1,
    Inquiry.ending_inGenerator_eq_ok_iff.mpr hending, Inquiry.picked_of_answers_eq_map hanswers]
  simp [Except.map, Subject.value, Function.comp_def]

end Selection

/-- **Selection is a filter in document order, and can be had one match after the other.** The
subjects of a source are the positions of its trees, each once. The eager form asks about all of them
and answers the nodes at those answered with yes. The first match, and any number of steps of the lazy
form, are the same matches from the front, found by asking about no more subjects than up to the last
of them. A failure comes in the place of what would follow the matches before it. It is the one that the
question raised, or, if that says that there is no more to deliver, what becomes of it in a
generator. -/
theorem select_filters_in_document_order {s : Session} (hs : s.Faithful) {q : Query} {p : Selector}
    (hq : q.compile = .ok p) {source : Value} {trees : List Node} (hsource : source.Offers trees)
    (id : CacheId) :
    let positions := trees.flatMap Node.locations
    let subjects := positions.map Subject.position
    let asked := p.inquire s.trace subjects
    let found := asked.picked subjects
    let told := asked.inGenerator
    (∀ t ∈ trees, t.InDocumentOrder (fun _ => True) (t.locations.map Location.path) ∧
      ∀ l ∈ t.locations, l.root = t ∧ t.at? l.path = some l.node) ∧
    (asked.ending = .ok () → asked.answers.length = subjects.length) ∧
    (p.IsTotal → asked.ending = .ok () ∧
      List.Forall₂ (fun l b => b = true ↔ p.HoldsAt l) positions asked.answers) ∧
    (((select id q source).run s).1 = told.ending.map (fun _ => found.map Subject.value) ∧
      ((select id q source).run s).2.trace = asked.trace) ∧
    (((selectFirst id q source).run s).1 =
        (match found with
          | [] => told.ending.map fun _ => .absent
          | first :: _ => .ok first.value) ∧
      p.AskedThrough s.trace subjects 1 ((selectFirst id q source).run s).2.trace) ∧
    ∀ k, (((Scan.pending id q source).advances k).run s).1 =
        .ok ((List.range k).map (told.nth subjects)) ∧
      p.AskedThrough s.trace subjects k (((Scan.pending id q source).advances k).run s).2.trace := by
  intro positions subjects asked found told
  have hsubjects := hsource.sourceSubjects
  refine ⟨fun t _ => t.locations_inDocumentOrder, Selector.length_answers,
    fun hp => hp.inquire positions s.trace, run_select hs hq hsubjects id,
    run_selectFirst hs hq hsubjects id, fun k => ?_⟩
  obtain ⟨t, htrace, hrun⟩ := Scan.run_advances_pending hs hq hsubjects id k
  obtain ⟨hanswers, hasked⟩ := Scan.run_advances_running p.inGenerator k subjects t
  rw [← hrun, htrace, Selector.inquire_inGenerator] at hanswers
  rw [← hrun, htrace] at hasked
  exact ⟨hanswers, hasked.of_inGenerator⟩

/-- The first tree has a match before a position where the question fails, and the second is not
reached. -/
theorem select_filters_in_document_order_failing :
    let item : Node := .element "li" none [.text "a"]
    let source : Value := .list [.absent, .node (.element "ul" none [item]), .node item]
    let p : Selector := ⟨fun x => do
      Probe.note "item" x.value
      match x.kind? with
      | some .text => throw (.raised (.value "text"))
      | _ => pure (x.tag? == some "li"), "item"⟩
    ((select .shared (.selector p) source).run {}).1 = .error (.raised (.value "text")) ∧
      ((selectFirst .shared (.selector p) source).run {}).1 = .ok (.node item) ∧
      ∃ l, (((Scan.pending .shared (.selector p) source).advances 3).run {}).1 =
        .ok [.ok (some (.position l)), .error (.raised (.value "text")), .ok none] := by
  intro item source p
  have hsource : source.Offers [.element "ul" none [item], item] :=
    .list [none, some (.element "ul" none [item]), some item]
  obtain ⟨-, -, -, ⟨hselect, -⟩, ⟨hfirst, -⟩, hscan⟩ :=
    select_filters_in_document_order Session.faithful_default (Query.compile_selector p) hsource
      .shared
  exact ⟨hselect.trans (by decide +kernel), hfirst.trans (by with_unfolding_all rfl), _,
    (hscan 3).1.trans (by with_unfolding_all rfl)⟩

/-- A question may say that there is no more to deliver. Neither form hands that on: the failure of a
selection is another one. -/
theorem select_hands_no_exhaustion_on :
    let n : Node := .element "p" none []
    let p : Selector := ⟨fun _ => throw (.raised .exhaustion), "next"⟩
    let told : Failure := .raised (.runtime "generator raised StopIteration")
    ((p.holds (.position (Location.ofRoot n))).run {}).1 = .error (.raised .exhaustion) ∧
      ((select .shared (.selector p) (.node n)).run {}).1 = .error told ∧
      (((Scan.pending .shared (.selector p) (.node n)).advances 2).run {}).1 =
        .ok [.error told, .ok none] ∧
      told ≠ .raised .exhaustion := by
  intro n p told
  exact ⟨rfl, by decide +kernel, by with_unfolding_all rfl, by decide⟩

end MarkupQuery
