import Mathlib.Data.List.Forall2
import MarkupQuery.Proofs.Selector.Answer
import MarkupQuery.Selection

/-!
# Asking about one subject after the other

A selector is asked about the subjects of a list in turn, up to the first question that fails. Of such
an inquiry there remain the answers, how it ended and the sightings. Collecting all matches is an
inquiry about the whole list (`Selector.matching_run`); looking for the first match is one about the
shortest prefix that has a match (`Selector.firstMatching_of_picked_cons`).
-/

namespace MarkupQuery

/-- What comes of asking a selector about a list of subjects. -/
structure Inquiry where
  /-- The answers, in the order of the subjects, up to the first failure. -/
  answers : List Bool
  ending : Except Failure Unit
  trace : Trace

namespace Inquiry

variable {α : Type}

/-- The subjects that were answered with yes, in order. -/
def picked (i : Inquiry) (xs : List α) : List α := ((xs.zip i.answers).filter Prod.snd).map Prod.fst

/-- An inquiry with one more answer before the others. -/
def answered (b : Bool) (i : Inquiry) : Inquiry := { i with answers := b :: i.answers }

@[simp] theorem answers_answered (b : Bool) (i : Inquiry) :
    (i.answered b).answers = b :: i.answers := rfl

theorem picked_of_answers_eq_nil {i : Inquiry} (h : i.answers = []) (xs : List α) :
    i.picked xs = [] := by
  rw [picked, h, List.zip_nil_right, List.filter_nil, List.map_nil]

theorem mem_of_mem_picked {i : Inquiry} {x : α} {xs : List α} (h : x ∈ i.picked xs) : x ∈ xs := by
  obtain ⟨⟨_, b⟩, hpair, rfl⟩ := List.mem_map.mp h
  exact (List.of_mem_zip (List.mem_of_mem_filter hpair)).1

/-- With the answers that a test gives, those are picked that pass it. -/
theorem picked_of_answers_eq_map {ι : Type} {i : Inquiry} {test : ι → Bool} {ls : List ι}
    (h : i.answers = ls.map test) (f : ι → α) : i.picked (ls.map f) = (ls.filter test).map f := by
  rw [picked, h]
  clear h
  induction ls with
  | nil => rfl
  | cons l ls ih =>
    rw [List.map_cons, List.map_cons, List.zip_cons_cons]
    cases hl : test l with
    | true => rw [List.filter_cons_of_pos rfl, List.filter_cons_of_pos hl, List.map_cons, ih,
        List.map_cons]
    | false =>
      rw [List.filter_cons_of_neg Bool.false_ne_true, List.filter_cons_of_neg (by simp [hl]), ih]

@[simp] theorem picked_answered_true (i : Inquiry) (x : α) (xs : List α) :
    (i.answered true).picked (x :: xs) = x :: i.picked xs := rfl

@[simp] theorem picked_answered_false (i : Inquiry) (x : α) (xs : List α) :
    (i.answered false).picked (x :: xs) = i.picked xs := rfl

/-- An inquiry of which something tells that delivers one thing after the other: how it ended may be told
in another way. -/
def inGenerator (i : Inquiry) : Inquiry := { i with ending := i.ending.mapError Failure.inGenerator }

theorem inGenerator_answered (b : Bool) (i : Inquiry) :
    (i.answered b).inGenerator = i.inGenerator.answered b := rfl

@[simp] theorem picked_inGenerator (i : Inquiry) (xs : List α) :
    i.inGenerator.picked xs = i.picked xs := rfl

theorem ending_inGenerator_eq_ok_iff {i : Inquiry} :
    i.inGenerator.ending = .ok () ↔ i.ending = .ok () := by
  rw [inGenerator]
  cases i.ending <;> simp [Except.mapError]

/-- An inquiry that has found `k` matches and has not gone on after the last of them. -/
structure EndsAtMatch (i : Inquiry) (k : Nat) : Prop where
  complete : i.ending = .ok ()
  count : i.answers.count true = k
  last : ∀ b ∈ i.answers.getLast?, b = true

/-- What the `n`th look at an inquiry shows, counted from zero: a match; after the matches how it
ended; and then nothing. -/
def nth (i : Inquiry) (xs : List α) (n : Nat) : Except Failure (Option α) :=
  match (i.picked xs)[n]? with
  | some x => .ok (some x)
  | none => if n = (i.picked xs).length then i.ending.map fun _ => none else .ok none

theorem endsAtMatch_inGenerator_iff {i : Inquiry} {k : Nat} :
    i.inGenerator.EndsAtMatch k ↔ i.EndsAtMatch k :=
  ⟨fun h => ⟨ending_inGenerator_eq_ok_iff.mp h.complete, h.count, h.last⟩,
    fun h => ⟨ending_inGenerator_eq_ok_iff.mpr h.complete, h.count, h.last⟩⟩

variable {i j : Inquiry} {x : α} {xs ys : List α}

theorem map_nth_of_picked_nil (h : i.picked xs = []) (k : Nat) :
    (List.range (k + 1)).map (i.nth xs) =
      (i.ending.map fun _ => none) :: List.replicate k (.ok none) := by
  have hfirst : i.nth xs 0 = i.ending.map fun _ => none := by simp [nth, h]
  have hlater : i.nth xs ∘ Nat.succ = fun _ => .ok none := funext fun n => by simp [nth, h]
  rw [List.range_succ_eq_map, List.map_cons, List.map_map, hfirst, hlater, List.map_const',
    List.length_range]

theorem map_nth_of_picked_cons (h : i.picked xs = x :: j.picked ys) (hending : i.ending = j.ending)
    (k : Nat) : (List.range (k + 1)).map (i.nth xs) =
      .ok (some x) :: (List.range k).map (j.nth ys) := by
  have hfirst : i.nth xs 0 = .ok (some x) := by simp [nth, h]
  have hlater : i.nth xs ∘ Nat.succ = j.nth ys := funext fun n => by simp [nth, h, hending]
  rw [List.range_succ_eq_map, List.map_cons, List.map_map, hfirst, hlater]

end Inquiry

namespace Selector

variable (p : Selector)

/-- Asks a selector about subjects in turn. -/
def inquire (trace : Trace) : List Subject → Inquiry
  | [] => ⟨[], .ok (), trace⟩
  | s :: rest =>
    match (p.holds s).run trace with
    | (.ok b, seen) => (inquire seen rest).answered b
    | (.error f, seen) => ⟨[], .error f, seen⟩

variable {p} {trace seen : Trace} {s : Subject} {b : Bool}

theorem inquire_nil : p.inquire trace [] = ⟨[], .ok (), trace⟩ := rfl

theorem inquire_of_ok (h : (p.holds s).run trace = (.ok b, seen)) (rest : List Subject) :
    p.inquire trace (s :: rest) = (p.inquire seen rest).answered b := by
  rw [inquire, h]

theorem inquire_of_error {f : Failure} (h : (p.holds s).run trace = (.error f, seen))
    (rest : List Subject) : p.inquire trace (s :: rest) = ⟨[], .error f, seen⟩ := by
  rw [inquire, h]

/-- Inside a generator the same is asked and answered. -/
theorem inquire_inGenerator (p : Selector) (trace : Trace) (subjects : List Subject) :
    p.inGenerator.inquire trace subjects = (p.inquire trace subjects).inGenerator := by
  induction subjects generalizing trace with
  | nil => rfl
  | cons s rest ih =>
    have hasked : (p.inGenerator.holds s).run trace =
      (((p.holds s).run trace).1.mapError Failure.inGenerator, ((p.holds s).run trace).2) := rfl
    rcases hs : (p.holds s).run trace with ⟨f | b, seen⟩
    · rw [hs] at hasked
      rw [inquire_of_error hasked, inquire_of_error hs]
      rfl
    · rw [hs] at hasked
      rw [inquire_of_ok hasked, inquire_of_ok hs, ih, Inquiry.inGenerator_answered]

/-- Only a failure leaves subjects without an answer. -/
theorem length_answers {subjects : List Subject} (h : (p.inquire trace subjects).ending = .ok ()) :
    (p.inquire trace subjects).answers.length = subjects.length := by
  induction subjects generalizing trace with
  | nil => rfl
  | cons s rest ih =>
    rcases hs : (p.holds s).run trace with ⟨f | b, seen⟩
    · rw [inquire_of_error hs] at h
      cases h
    · rw [inquire_of_ok hs] at h ⊢
      rw [Inquiry.answers_answered, List.length_cons, List.length_cons, ih h]

/-- After an inquiry that did not fail, the next one goes on from where it has led. -/
theorem inquire_append {subjects : List Subject} (h : (p.inquire trace subjects).ending = .ok ())
    (rest : List Subject) : p.inquire trace (subjects ++ rest) =
      { p.inquire (p.inquire trace subjects).trace rest with
        answers := (p.inquire trace subjects).answers ++
          (p.inquire (p.inquire trace subjects).trace rest).answers } := by
  induction subjects generalizing trace with
  | nil => rfl
  | cons s subjects ih =>
    rcases hs : (p.holds s).run trace with ⟨f | b, seen⟩
    · rw [inquire_of_error hs] at h
      cases h
    · rw [inquire_of_ok hs] at h
      rw [List.cons_append, inquire_of_ok hs, inquire_of_ok hs, ih h]
      rfl

theorem endsAtMatch_append {before after : List Subject} {j k : Nat}
    (h : (p.inquire trace before).EndsAtMatch j)
    (hafter : (p.inquire (p.inquire trace before).trace after).EndsAtMatch k) :
    (p.inquire trace (before ++ after)).EndsAtMatch (j + k) := by
  rw [inquire_append h.complete]
  refine ⟨hafter.complete, by rw [List.count_append, h.count, hafter.count], fun b hb => ?_⟩
  rw [List.getLast?_append, Option.mem_def, Option.or_eq_some_iff] at hb
  rcases hb with hb | ⟨-, hb⟩
  · exact hafter.last b hb
  · exact h.last b hb

/-- Where every question has an answer, all are answered. -/
theorem inquire_of_yields {verdict : Location → Bool} {positions : List Location}
    (h : ∀ l ∈ positions, (p.holds (.position l)).Yields (verdict l)) (trace : Trace) :
    (p.inquire trace (positions.map .position)).ending = .ok () ∧
      (p.inquire trace (positions.map .position)).answers = positions.map verdict := by
  induction positions generalizing trace with
  | nil => exact ⟨rfl, rfl⟩
  | cons l positions ih =>
    obtain ⟨seen, hseen⟩ : ∃ seen, (p.holds (.position l)).run trace = (.ok (verdict l), seen) :=
      ⟨_, Prod.ext (h l List.mem_cons_self trace) rfl⟩
    obtain ⟨hending, hanswers⟩ := ih (fun m hm => h m (List.mem_cons_of_mem _ hm)) seen
    rw [List.map_cons, inquire_of_ok hseen, Inquiry.answers_answered, hanswers, List.map_cons]
    exact ⟨hending, rfl⟩

/-- A total selector answers every question, and tells where it holds. -/
theorem IsTotal.inquire (hp : p.IsTotal) (positions : List Location) (trace : Trace) :
    (p.inquire trace (positions.map .position)).ending = .ok () ∧
      List.Forall₂ (fun l b => b = true ↔ p.HoldsAt l) positions
        (p.inquire trace (positions.map .position)).answers := by
  have hanswers (l : Location) : p.AnswersAt l := hp l
  obtain ⟨hending, hall⟩ := inquire_of_yields (fun l (_ : l ∈ positions) =>
    (hanswers l).yields_verdict) trace
  rw [hall, List.forall₂_map_right_iff, List.forall₂_same]
  exact ⟨hending, fun l _ => (hanswers l).verdict_iff⟩

/-! ## Collecting all matches -/

theorem matching_run (subjects : List Subject) (trace : Trace) :
    (p.matching subjects).run trace =
      ((p.inquire trace subjects).ending.map fun _ => (p.inquire trace subjects).picked subjects,
        (p.inquire trace subjects).trace) := by
  induction subjects generalizing trace with
  | nil => rfl
  | cons s rest ih =>
    rw [matching, run_bind]
    rcases hs : (p.holds s).run trace with ⟨f | b, seen⟩
    · rw [inquire_of_error hs]
      rfl
    · rw [inquire_of_ok hs]
      cases b with
      | false =>
        rw [Inquiry.picked_answered_false]
        exact ih seen
      | true =>
        rw [Inquiry.picked_answered_true]
        dsimp only
        rw [if_pos rfl, run_bind, ih seen]
        rcases hrest : p.inquire seen rest with ⟨answers, _ | _, last⟩ <;> rfl

theorem mem_of_run_matching {subjects found : List Subject} {after : Trace}
    (h : (p.matching subjects).run trace = (.ok found, after)) (hs : s ∈ found) : s ∈ subjects := by
  rw [matching_run] at h
  cases hending : (p.inquire trace subjects).ending with
  | error f =>
    rw [hending] at h
    cases h
  | ok u =>
    rw [hending] at h
    cases h
    exact Inquiry.mem_of_mem_picked hs

/-- Of a feed all matches are positions in trees. -/
theorem exists_position_of_run_matchingDelivered {id n : Nat} {found : List Subject} {after : Trace}
    (h : (p.matchingDelivered id n).run trace = (.ok found, after)) (hs : s ∈ found) :
    ∃ l, s = .position l := by
  induction n generalizing trace found after with
  | zero =>
    cases h
    cases hs
  | succ n ih =>
    obtain ⟨answer, t, -, h⟩ := run_bind_eq_ok h
    cases answer with
    | none =>
      cases h
      cases hs
    | some tree =>
      obtain ⟨here, u, hhere, h⟩ := run_bind_eq_ok h
      obtain ⟨more, v, hmore, h⟩ := run_bind_eq_ok h
      cases h
      rcases List.mem_append.mp hs with hs | hs
      · cases tree with
        | none => cases mem_of_run_matching hhere hs
        | some n =>
          obtain ⟨l, -, rfl⟩ := List.mem_map.mp (mem_of_run_matching hhere hs)
          exact ⟨l, rfl⟩
      · exact ih hmore hs

/-- A source that can be gone through again is asked about all of its subjects. -/
theorem matchingIn_of_sourceSubjects {source : Value} {subjects : List Subject}
    (h : source.sourceSubjects = .ok subjects) : p.matchingIn source = p.matching subjects := by
  unfold matchingIn
  split
  · cases h
  · rw [h]
    rfl

/-! ## Looking for the first match -/

theorem firstMatching_of_picked_nil {subjects : List Subject}
    (h : (p.inquire trace subjects).picked subjects = []) :
    (p.firstMatching subjects).run trace =
      ((p.inquire trace subjects).ending.map fun _ => none, (p.inquire trace subjects).trace) := by
  induction subjects generalizing trace with
  | nil => rfl
  | cons s rest ih =>
    rw [firstMatching, run_bind]
    rcases hs : (p.holds s).run trace with ⟨f | b, seen⟩
    · rw [inquire_of_error hs]
      rfl
    · rw [inquire_of_ok hs] at h ⊢
      cases b with
      | false =>
        rw [Inquiry.picked_answered_false] at h
        exact ih h
      | true =>
        rw [Inquiry.picked_answered_true] at h
        cases h

/-- The first match is found by asking about the subjects up to it. The others are those that remain
to be found from there. -/
theorem firstMatching_of_picked_cons {subjects more : List Subject}
    (h : (p.inquire trace subjects).picked subjects = s :: more) :
    ∃ before rest, subjects = (before ++ [s]) ++ rest ∧
      (p.inquire trace (before ++ [s])).EndsAtMatch 1 ∧
      (p.firstMatching subjects).run trace =
        (.ok (some (s, rest)), (p.inquire trace (before ++ [s])).trace) ∧
      (p.inquire (p.inquire trace (before ++ [s])).trace rest).picked rest = more := by
  induction subjects generalizing trace with
  | nil => cases h
  | cons next subjects ih =>
    rw [firstMatching, run_bind]
    rcases hnext : (p.holds next).run trace with ⟨f | b, seen⟩
    · rw [inquire_of_error hnext, Inquiry.picked_of_answers_eq_nil rfl] at h
      cases h
    · rw [inquire_of_ok hnext] at h
      cases b with
      | true =>
        rw [Inquiry.picked_answered_true] at h
        obtain ⟨rfl, rfl⟩ := List.cons.inj h
        refine ⟨[], subjects, rfl, ?_, ?_, ?_⟩ <;> rw [List.nil_append, inquire_of_ok hnext]
        · exact ⟨rfl, rfl, by simp [inquire_nil]⟩
        · rfl
        · rfl
      | false =>
        rw [Inquiry.picked_answered_false] at h
        obtain ⟨before, rest, rfl, hends, hrun, hmore⟩ := ih h
        refine ⟨next :: before, rest, rfl, ?_, ?_, ?_⟩ <;>
          rw [List.cons_append, inquire_of_ok hnext]
        · -- there is a later answer, so the last one is as before
          refine ⟨hends.complete, by simpa using hends.count, ?_⟩
          have hlast := hends.last
          have hcount := hends.count
          cases hanswers : (p.inquire seen (before ++ [s])).answers with
          | nil => rw [hanswers] at hcount; cases hcount
          | cons b bs =>
            rw [hanswers] at hlast
            rwa [Inquiry.answers_answered, hanswers, List.getLast?_cons_cons]
        · exact hrun
        · exact hmore

end Selector
end MarkupQuery
