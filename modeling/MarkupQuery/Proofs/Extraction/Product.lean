import Mathlib.Data.List.Forall2
import MarkupQuery.Proofs.Extraction.Agreement
import MarkupQuery.Proofs.Mapping

/-!
# A call with several extractions

Such a call is the product of its runs. It makes each of them once and in order, whatever becomes of
the others. If all of them answer, so does the call, with the shape that the number of extractions and
the keys ask for (`Extraction.Answer`); if any of them fails, the call fails, once, with a report of
all that failed (`Failure.Reports`). Only a run that asks for the program to end ends the call as well.

A run comes to the same in a call as by itself if nothing in it goes by earlier calls
(`Extraction.settles_run`). That takes a source that can be gone through again: a feed is used up by
the first run that goes through it.

Main statement: `Extraction.extract_is_product`.
-/

namespace MarkupQuery

/-! ## Running in turn -/

open MarkupQuery.Action

variable {α β : Type}

namespace Action

/-- Actions are run in turn: each of them once, from the session that those before it have left,
whether they answered or failed. What comes of it is the list of their outcomes. After one that asks
for the program to end none is run, and what comes of it is this. -/
inductive RunsInTurn :
    Session → List (Action α) → Except Failure (List (Except Failure α)) → Session → Prop
  | nil (s : Session) : RunsInTurn s [] (.ok []) s
  | cons {s t : Session} {a : Action α} {as : List (Action α)}
      {r : Except Failure (List (Except Failure α))}
      (h : ∀ f, (a.run s).1 = .error f → f.isInterrupt = false)
      (hrest : RunsInTurn (a.run s).2 as r t) :
      RunsInTurn s (a :: as) (r.map ((a.run s).1 :: ·)) t
  | interrupted {s : Session} {a : Action α} (as : List (Action α)) {f : Failure}
      (h : (a.run s).1 = .error f) (hf : f.isInterrupt = true) :
      RunsInTurn s (a :: as) (.error f) (a.run s).2

/-- What an action comes to by itself, whatever was seen or remembered before it. -/
def Settles (a : Action α) (r : Except Failure α) : Prop :=
  ∀ s : Session, s.Faithful → (a.run s).1 = r

theorem inTurn_runs (as : List (Action α)) (s : Session) :
    ∃ r t, (inTurn as).run s = (r, t) ∧ RunsInTurn s as r t := by
  induction as generalizing s with
  | nil => exact ⟨.ok [], s, rfl, .nil s⟩
  | cons a as ih =>
    obtain ⟨r, t, hrun, hturn⟩ := ih (a.run s).2
    have hafter (h : Failure.caught (a.run s).1 = .ok (a.run s).1) :
        (inTurn (a :: as)).run s = (r.map ((a.run s).1 :: ·), t) := by
      simp only [inTurn, run_bind, run_attempt, h, hrun]
      cases r <;> rfl
    cases hhere : (a.run s).1 with
    | ok v =>
      have hcaught : Failure.caught (a.run s).1 = .ok (a.run s).1 := by rw [hhere]; rfl
      exact ⟨_, t, hafter hcaught, .cons (fun f hf => by rw [hhere] at hf; cases hf) hturn⟩
    | error f =>
      cases hf : f.isInterrupt with
      | true =>
        refine ⟨.error f, (a.run s).2, ?_, .interrupted as hhere hf⟩
        simp only [inTurn, run_bind, run_attempt, hhere, Failure.caught, hf, if_true]
      | false =>
        have hcaught : Failure.caught (a.run s).1 = .ok (a.run s).1 := by
          rw [hhere, Failure.caught, hf]
          rfl
        refine ⟨_, t, hafter hcaught, .cons (fun g hg => ?_) hturn⟩
        rw [hhere] at hg
        exact Except.error.inj hg ▸ hf

theorem RunsInTurn.length_eq {s t : Session} {as : List (Action α)}
    {r : Except Failure (List (Except Failure α))} (h : RunsInTurn s as r t)
    {results : List (Except Failure α)} (hr : r = .ok results) : results.length = as.length := by
  induction h generalizing results with
  | nil =>
    obtain rfl := Except.ok.inj hr
    rfl
  | cons _ _ ih =>
    obtain ⟨rest, hrest, rfl⟩ := map_eq_ok_iff.mp hr
    rw [List.length_cons, List.length_cons, ih hrest]
  | interrupted => cases hr

/-- The first outcome of a row of runs is that of the first action. -/
theorem RunsInTurn.eq_cons {s t : Session} {a : Action α} {as : List (Action α)}
    {results : List (Except Failure α)} (h : RunsInTurn s (a :: as) (.ok results) t) :
    ∃ rest, results = (a.run s).1 :: rest ∧ RunsInTurn (a.run s).2 as (.ok rest) t := by
  generalize hr : (Except.ok results : Except Failure (List (Except Failure α))) = r at h
  cases h with
  | cons _ hrest =>
    obtain ⟨rest, rfl, rfl⟩ := map_eq_ok_iff.mp hr.symm
    exact ⟨rest, rfl, hrest⟩
  | interrupted => cases hr

/-- Only what asks for the program to end ends a row of runs. -/
theorem RunsInTurn.isInterrupt {s t : Session} {as : List (Action α)}
    {r : Except Failure (List (Except Failure α))} (h : RunsInTurn s as r t) {f : Failure}
    (hr : r = .error f) : f.isInterrupt = true := by
  induction h with
  | nil => cases hr
  | @cons s t a as r _ _ ih =>
    cases r with
    | ok results => cases hr
    | error g => exact ih (congrArg Except.error (Except.error.inj hr))
  | interrupted as _ hf => exact Except.error.inj hr ▸ hf

/-- Actions that come to something by themselves come to the same in turn. -/
theorem RunsInTurn.eq_of_settles {s t : Session} {as : List (Action α)}
    {r : Except Failure (List (Except Failure α))} (h : RunsInTurn s as r t) (hs : s.Faithful)
    (hignores : ∀ a ∈ as, a.IgnoresCaches) {results own : List (Except Failure α)}
    (hr : r = .ok results) (hown : List.Forall₂ Settles as own) : own = results := by
  induction h generalizing results own with
  | nil =>
    cases hown
    exact Except.ok.inj hr
  | cons _ _ ih =>
    cases hown with
    | cons hsettles hown =>
      obtain ⟨rest, hrest, rfl⟩ := map_eq_ok_iff.mp hr
      have hafter := (hignores _ List.mem_cons_self).faithful hs
      rw [hsettles _ hs,
        ih hafter (fun b hb => hignores b (List.mem_cons_of_mem _ hb)) hrest hown]
  | interrupted => cases hr

end Action

/-- What follows comes to something by itself if it does so for every answer. -/
theorem Action.settles_bind {a : Action α} {f : α → Action β} (ha : ∃ r, a.Settles r)
    (hignores : a.IgnoresCaches) (hf : ∀ x, ∃ r, (f x).Settles r) : ∃ r, (a >>= f).Settles r := by
  obtain ⟨_ | x, hr⟩ := ha
  · exact ⟨.error _, fun s hs => by rw [run_bind_of_error (Prod.ext (hr s hs) rfl)]⟩
  · obtain ⟨r, hfx⟩ := hf x
    refine ⟨r, fun s hs => ?_⟩
    rw [run_bind_of_ok (Prod.ext (hr s hs) rfl)]
    exact hfx _ (hignores.faithful hs)

namespace Probe

/-- What a computation comes to, whatever was called before it. -/
def Settles (x : Probe α) (r : Except Failure α) : Prop := ∀ t, (x.run t).1 = r

theorem Settles.inGenerator {x : Probe α} {r : Except Failure α} (h : x.Settles r) :
    x.inGenerator.Settles (r.mapError Failure.inGenerator) :=
  fun t => by rw [run_inGenerator, h t]

theorem settles_bind {x : Probe α} {f : α → Probe β} (hx : ∃ r, x.Settles r)
    (hf : ∀ a, ∃ r, (f a).Settles r) : ∃ r, (x >>= f).Settles r := by
  obtain ⟨_ | a, hr⟩ := hx
  · exact ⟨.error _, fun t => by rw [run_bind_of_error (Prod.ext (hr t) rfl)]⟩
  · obtain ⟨r, hfa⟩ := hf a
    exact ⟨r, fun t => by rw [run_bind_of_ok (Prod.ext (hr t) rfl)]; exact hfa _⟩

theorem settles_pure (a : α) : (pure a : Probe α).Settles (.ok a) := fun _ => rfl

end Probe

theorem Selector.settles_matching {p : Selector} (hp : ∀ s, ∃ r, (p.holds s).Settles r)
    (subjects : List Subject) : ∃ r, (p.matching subjects).Settles r := by
  induction subjects with
  | nil => exact ⟨_, Probe.settles_pure []⟩
  | cons s rest ih =>
    refine Probe.settles_bind (hp s) fun b => ?_
    cases b with
    | true => exact Probe.settles_bind ih fun found => ⟨_, Probe.settles_pure (s :: found)⟩
    | false => exact ih

/-- Only a feed is left in another state than it was found. -/
theorem Selector.settles_matchingIn {p : Selector} (hp : ∀ s, ∃ r, (p.holds s).Settles r)
    {source : Value} (hsource : ∀ feed, source ≠ .feed feed) :
    ∃ r, (p.matchingIn source).Settles r := by
  unfold matchingIn
  split
  · next feed => exact absurd rfl (hsource feed)
  · cases source.sourceSubjects with
    | error f => exact ⟨.error f, fun t => rfl⟩
    | ok subjects => exact settles_matching hp subjects

/-! ## Reports of failures -/

namespace Failure

theorem allIndex_iff (failures : List (Nat × Failure)) :
    isIndex.allIndex failures = true ↔ ∀ p ∈ failures, p.2.isIndex = true := by
  induction failures with
  | nil => simp [isIndex.allIndex]
  | cons p failures ih =>
    rw [isIndex.allIndex, Bool.and_eq_true, ih, List.forall_mem_cons]

/-- A failure reports on outcomes: it lists those that are failures, each with its index, in order; it
comes from the first of them; and it is about indices when all of them are. -/
structure Reports (e : Failure) (results : List (Except Failure Value))
    (failures : List (Nat × Failure)) : Prop where
  listed : e = .extractionsFailed results.length failures
  sorted : failures.Pairwise fun p q => p.1 < q.1
  mem_iff : ∀ i f, (i, f) ∈ failures ↔ results[i]? = some (.error f)
  cause : ∃ first rest, failures = first :: rest ∧ e.cause? = some first.2
  className : e.className = if ∀ p ∈ failures, p.2.isIndex = true then "ExtractionIndexError"
    else "ExtractionError"

theorem className_extractionsFailed (n : Nat) (failures : List (Nat × Failure)) :
    (extractionsFailed n failures).className =
      if ∀ p ∈ failures, p.2.isIndex = true then "ExtractionIndexError" else "ExtractionError" := by
  rw [className, isIndex]
  simp only [allIndex_iff]

end Failure

namespace Extraction

theorem mem_failuresFrom {results : List (Except Failure Value)} {start i : Nat} {f : Failure} :
    (i, f) ∈ failuresFrom start results ↔ ∃ j, i = start + j ∧ results[j]? = some (.error f) := by
  induction results generalizing start with
  | nil => simp [failuresFrom]
  | cons r results ih =>
    -- the first outcome has the index that the others count from
    have hlater : (∃ j, i = start + 1 + j ∧ results[j]? = some (.error f)) ↔
        ∃ j, i = start + (j + 1) ∧ (r :: results)[j + 1]? = some (.error f) := by
      simp only [List.getElem?_cons_succ, Nat.add_assoc, Nat.add_comm 1]
    have hsplit : (∃ j, i = start + j ∧ (r :: results)[j]? = some (.error f)) ↔
        (i = start ∧ r = .error f) ∨ (i, f) ∈ failuresFrom (start + 1) results := by
      rw [ih, hlater, ← Nat.or_exists_add_one]
      simp
    rw [hsplit]
    cases r with
    | ok v => simp [failuresFrom]
    | error g => simp [failuresFrom, eq_comm]

theorem failuresFrom_sorted (results : List (Except Failure Value)) (start : Nat) :
    (failuresFrom start results).Pairwise fun p q => p.1 < q.1 := by
  induction results generalizing start with
  | nil => exact List.Pairwise.nil
  | cons r results ih =>
    cases r with
    | ok v => exact ih (start + 1)
    | error f =>
      refine List.pairwise_cons.mpr ⟨fun ⟨i, g⟩ hg => ?_, ih (start + 1)⟩
      obtain ⟨j, rfl, -⟩ := mem_failuresFrom.mp hg
      show start < start + 1 + j
      omega

theorem failuresFrom_eq_nil_of_ok (vs : List Value) (start : Nat) :
    failuresFrom start (vs.map .ok) = [] := by
  induction vs generalizing start with
  | nil => rfl
  | cons v vs ih => exact ih (start + 1)

theorem valuesOf_map_ok (vs : List Value) : valuesOf (vs.map .ok) = vs := by
  induction vs with
  | nil => rfl
  | cons v vs ih => rw [List.map_cons, valuesOf, ih]

/-! ## The answer of a call -/

/-- The answer without keys: the source for no extraction, the bare answer of a single one, and a list
of answers otherwise. -/
def positional (source : Value) : List Value → Value
  | [] => source
  | [v] => v
  | vs => .list vs

/-- The answer of a call whose extractions answered all: positional without keys; under the first key
for one extraction at most; and otherwise a record of keys with answers, as many as there are of
both. -/
inductive Answer (source : Value) : List Key → List Value → Value → Prop
  | positional (vs : List Value) : Answer source [] vs (positional source vs)
  | single (key : Key) (keys : List Key) {vs : List Value} (h : vs.length ≤ 1) :
      Answer source (key :: keys) vs (Key.record [(key, Extraction.positional source vs)])
  | several (key : Key) (keys : List Key) {vs : List Value} (h : 1 < vs.length)
      {fields : Mapping Key Value} (hfields : Mapping.Spells ((key :: keys).zip vs) fields) :
      Answer source (key :: keys) vs (Key.record fields)

theorem gathered_of_ok (source : Value) (vs : List Value) :
    gathered source vs.length (vs.map .ok) = .ok (positional source vs) := by
  rw [gathered, failuresFrom_eq_nil_of_ok, valuesOf_map_ok]
  rcases vs with _ | ⟨v, _ | ⟨w, vs⟩⟩ <;> rfl

theorem answer_keyed (source : Value) (keys : List Key) (vs : List Value) :
    Answer source keys vs (keyed keys vs.length (positional source vs)) := by
  cases keys with
  | nil => exact .positional vs
  | cons key keys =>
    by_cases hlength : vs.length ≤ 1
    · unfold keyed
      dsimp only
      rw [if_pos hlength]
      exact .single key keys hlength
    · rcases vs with _ | ⟨v, _ | ⟨w, vs⟩⟩
      · simp at hlength
      · simp at hlength
      · exact .several key keys (by simp) (Mapping.spells_ofPairs _)

/-- With a failure among the outcomes, the call reports on them. -/
theorem gathered_of_error (source : Value) {results : List (Except Failure Value)} {f : Failure}
    (h : .error f ∈ results) :
    ∃ e, gathered source results.length results = .error e ∧
      e.Reports results (failuresFrom 0 results) := by
  obtain ⟨i, hi⟩ := List.mem_iff_getElem?.mp h
  have hmem : (i, f) ∈ failuresFrom 0 results := mem_failuresFrom.mpr ⟨i, by simp, hi⟩
  have hne : results.length ≠ 0 := by
    rw [Ne, List.length_eq_zero_iff]
    rintro rfl
    exact absurd h List.not_mem_nil
  cases hfailures : failuresFrom 0 results with
  | nil =>
    rw [hfailures] at hmem
    exact absurd hmem List.not_mem_nil
  | cons first rest =>
    refine ⟨.extractionsFailed results.length (first :: rest), ?_, rfl, ?_, ?_,
      ⟨first, rest, rfl, rfl⟩, Failure.className_extractionsFailed _ _⟩
    · rw [gathered, if_neg hne, hfailures]
    · exact hfailures ▸ failuresFrom_sorted results 0
    · intro j g
      rw [← hfailures, mem_failuresFrom]
      simp

/-! ## The call -/

/-- Extractions as flat arguments, query and extractor in turn. -/
def flat (xs : List Extraction) : List Argument :=
  xs.flatMap fun x => [.query x.query, .extractor x.extractor]

theorem compiled_flat {xs : List Extraction} (hcompile : ∀ x ∈ xs, ∃ p, x.query.compile = .ok p)
    (hignores : ∀ x ∈ xs, x.extractor.IgnoresCaches) :
    ∃ ys, compiled (flat xs) = .ok ys ∧ List.Forall₂ Matches ys xs := by
  induction xs with
  | nil => exact ⟨[], rfl, .nil⟩
  | cons x xs ih =>
    obtain ⟨p, hp⟩ := hcompile x List.mem_cons_self
    obtain ⟨ys, hys, hmatch⟩ := ih (fun y hy => hcompile y (List.mem_cons_of_mem _ hy))
      (fun y hy => hignores y (List.mem_cons_of_mem _ hy))
    refine ⟨⟨.selector p, x.extractor⟩ :: ys, ?_, .cons ⟨hp.symm, rfl, ?_⟩ hmatch⟩
    · show compiled (.query x.query :: .extractor x.extractor :: flat xs) = _
      rw [compiled, hp, hys]
      rfl
    · exact hignores x List.mem_cons_self

theorem length_flat (xs : List Extraction) : (flat xs).length = 2 * xs.length := by
  induction xs with
  | nil => rfl
  | cons x xs ih =>
    show (flat xs).length + 1 + 1 = 2 * (xs.length + 1)
    omega

theorem paired_flat {xs : List Extraction} (hcompile : ∀ x ∈ xs, ∃ p, x.query.compile = .ok p)
    (hignores : ∀ x ∈ xs, x.extractor.IgnoresCaches) :
    ∃ ys, paired (flat xs) = .ok ys ∧ List.Forall₂ Matches ys xs := by
  rw [paired, if_neg (by rw [length_flat]; omega)]
  exact compiled_flat hcompile hignores

theorem ignoresCaches_of_mem_flat {xs : List Extraction}
    (hignores : ∀ x ∈ xs, x.extractor.IgnoresCaches) :
    ∀ e, .extractor e ∈ flat xs → e.IgnoresCaches := by
  intro e he
  obtain ⟨x, hx, he⟩ := List.mem_flatMap.mp he
  obtain rfl : e = x.extractor := by simpa using he
  exact hignores x hx

/-- Extracting is running compiled extractions, all of them on the same source. -/
theorem extract_flat_agrees {xs : List Extraction}
    (hcompile : ∀ x ∈ xs, ∃ p, x.query.compile = .ok p)
    (hignores : ∀ x ∈ xs, x.extractor.IgnoresCaches) (id id' : CacheId) (source : Value)
    (keys : List Key) :
    (extract id source keys (flat xs)).Agrees (runKeyed id' source keys xs) := by
  obtain ⟨ys, hys, hmatch⟩ := paired_flat hcompile hignores
  have hcall := extract_agrees (ignoresCaches_of_mem_flat hignores) id id source keys
  rw [hys] at hcall
  exact hcall.trans (runKeyed_agrees_runKeyed hmatch id id' source keys)

/-! ## Runs by themselves -/

/-- Neither the query nor the extractor of an extraction goes by earlier calls. -/
structure IsSteady (x : Extraction) : Prop where
  query : ∀ p, x.query.compile = .ok p → ∀ s, ∃ r, (p.holds s).Settles r
  extractor : ∀ v, ∃ r, (x.extractor.apply v).Settles r

/-- By itself a run on a source that can be gone through again comes to something. -/
theorem settles_run {x : Extraction} (hx : x.IsSteady) {source : Value}
    (hsource : ∀ feed, source ≠ .feed feed) (id : CacheId) : ∃ r, (x.run id source).Settles r := by
  have hselect : ∃ r, (select id x.query source).Settles r := by
    cases hq : x.query.compile with
    | error f =>
      refine ⟨.error f, fun s hs => ?_⟩
      have hcompile : ((compile id x.query).run s).1 = .error f := by
        rw [(compile_agrees id x.query s s hs.alike).1, run_ofExcept, hq]
      rw [select, run_bind_of_error (Prod.ext hcompile rfl)]
    | ok p =>
      obtain ⟨found, hfound⟩ := Selector.settles_matchingIn (p := p.inGenerator)
        (fun s => (hx.query p hq s).imp' _ fun _ hr => hr.inGenerator) hsource
      refine ⟨found.map (List.map Subject.value), fun s hs => ?_⟩
      obtain ⟨t, hrun, -⟩ := run_compile_of_ok hs hq id
      rw [select, run_bind_of_ok hrun, selectSubjects_selector, run_bind, run_ofProbe]
      rw [hfound t.trace]
      cases found <;> rfl
  refine Action.settles_bind hselect (select_agrees rfl id id source).left fun found => ?_
  rcases found with _ | ⟨only, _ | ⟨other, rest⟩⟩
  · exact ⟨.ok .absent, fun s _ => rfl⟩
  · exact hx.extractor only
  · exact hx.extractor _

theorem forall₂_settles_runs {xs : List Extraction} (hxs : ∀ x ∈ xs, x.IsSteady) {source : Value}
    (hsource : ∀ feed, source ≠ .feed feed) (id : CacheId) :
    ∃ own, List.Forall₂ Action.Settles (runs id source xs) own := by
  induction xs with
  | nil => exact ⟨[], .nil⟩
  | cons x xs ih =>
    obtain ⟨hx, hrest⟩ := List.forall_mem_cons.mp hxs
    obtain ⟨r, hr⟩ := settles_run hx hsource id
    obtain ⟨own, hown⟩ := ih hrest
    exact ⟨r :: own, .cons hr hown⟩

/-! ## The product -/

/-- **A call is the product of its runs.** For extractions whose queries compile, the runs on the
source are made once each and in order, and nothing else is called. A run that asks for the program
to end is the last one, and the call comes to the same. Otherwise, when they all answer, the call has
the answer that their answers make up, and when any of them fails, the call fails with a report of all
that failed. What a run comes to by itself it comes to here; and by itself it comes to something if
nothing in it goes by earlier calls, unless the source is a feed. -/
theorem extract_is_product {s : Session} (hs : s.Faithful) {xs : List Extraction}
    (hcompile : ∀ x ∈ xs, ∃ p, x.query.compile = .ok p)
    (hignores : ∀ x ∈ xs, x.extractor.IgnoresCaches) (id : CacheId) (source : Value)
    (keys : List Key) :
    ∃ r t, Action.RunsInTurn s (runs id source xs) r t ∧
      ((extract id source keys (flat xs)).run s).2.trace = t.trace ∧
      (∀ f, r = .error f → f.isInterrupt = true ∧
        ((extract id source keys (flat xs)).run s).1 = .error f) ∧
      ∀ results, r = .ok results →
        (∀ own, List.Forall₂ Action.Settles (runs id source xs) own → own = results) ∧
        ((∀ feed, source ≠ .feed feed) → (∀ x ∈ xs, x.IsSteady) →
          List.Forall₂ Action.Settles (runs id source xs) results) ∧
        (∀ vs, results = vs.map .ok →
          ∃ v, ((extract id source keys (flat xs)).run s).1 = .ok v ∧ Answer source keys vs v) ∧
        ((∃ f, .error f ∈ results) →
          ∃ e failures, ((extract id source keys (flat xs)).run s).1 = .error e ∧
            e.Reports results failures) := by
  obtain ⟨r, t, hrun, hturn⟩ := Action.inTurn_runs (runs id source xs) s
  have hself : List.Forall₂ Matches xs xs :=
    List.forall₂_same.mpr fun x hx => ⟨rfl, rfl, hignores x hx⟩
  obtain ⟨houtcome, hafter⟩ := ((extract_flat_agrees hcompile hignores id id source keys).trans
    (runKeyed_agrees hself id id source keys)) s s hs.alike
  rw [run_bind, hrun] at houtcome hafter
  refine ⟨r, t, hturn, ?_, ?_, ?_⟩
  · cases r with
    | error f => exact hafter.outside.trace
    | ok results =>
      simp only [Action.run_ofExcept] at hafter
      exact hafter.outside.trace
  · rintro f rfl
    exact ⟨hturn.isInterrupt rfl, houtcome⟩
  · rintro results rfl
    have hlength : xs.length = results.length := by
      rw [hturn.length_eq rfl, runs, List.length_map]
    have hown (own : List (Except Failure Value))
        (h : List.Forall₂ Action.Settles (runs id source xs) own) : own = results := by
      refine hturn.eq_of_settles hs (fun a ha => ?_) rfl h
      obtain ⟨x, hx, rfl⟩ := List.mem_map.mp ha
      exact (run_agrees ⟨rfl, rfl, hignores x hx⟩ id id source).left
    simp only [Action.run_ofExcept, hlength] at houtcome
    refine ⟨hown, fun hsource hsteady => ?_, ?_, ?_⟩
    · obtain ⟨own, h⟩ := forall₂_settles_runs hsteady hsource id
      exact hown own h ▸ h
    · rintro vs rfl
      rw [List.length_map, gathered_of_ok] at houtcome
      exact ⟨_, houtcome, answer_keyed source keys vs⟩
    · rintro ⟨f, hf⟩
      obtain ⟨e, he, hreports⟩ := gathered_of_error source hf
      rw [he] at houtcome
      exact ⟨e, _, houtcome, hreports⟩

/-- The second of three runs fails, and the third is made all the same. -/
theorem extract_is_product_second_fails :
    let source : Value := .node (.element "ul" none [.element "li" none [.text "a"]])
    let xs : List Extraction :=
      [⟨.selector (.ofKind [.element]), .text⟩, ⟨.selector .anyNode, .nth 7 true⟩, ⟨.text "*", .tag⟩]
    ∃ results t, Action.RunsInTurn {} (runs .shared source xs) (.ok results) t ∧
      results[1]? = some (.error (.memberOutOfRange 7 3)) ∧
      ∃ e failures, ((extract .shared source [.value (.text "k")] (flat xs)).run {}).1 = .error e ∧
        e.Reports results failures ∧ e.className = "ExtractionIndexError" := by
  intro source xs
  have hcompile : ∀ x ∈ xs, ∃ p, x.query.compile = .ok p := by
    intro x hx
    simp only [xs, List.mem_cons, List.not_mem_nil, or_false] at hx
    rcases hx with rfl | rfl | rfl
    · exact ⟨_, rfl⟩
    · exact ⟨_, rfl⟩
    · exact Query.exists_compile_eq_ok (by decide +kernel)
  have hignores : ∀ x ∈ xs, x.extractor.IgnoresCaches := by
    intro x hx
    simp only [xs, List.mem_cons, List.not_mem_nil, or_false] at hx
    rcases hx with rfl | rfl | rfl <;> exact Extractor.ignoresCaches_ofFunction _ _
  obtain ⟨r, t, hturn, -, hinterrupt, hproduct⟩ :=
    extract_is_product Session.faithful_default hcompile hignores .shared source [.value (.text "k")]
  have houtcome : ((extract .shared source [.value (.text "k")] (flat xs)).run {}).1 =
      .error (.extractionsFailed 3 [(1, .memberOutOfRange 7 3)]) := by decide +kernel
  cases r with
  | error f =>
    obtain ⟨hf, hcall⟩ := hinterrupt f rfl
    rw [houtcome] at hcall
    obtain rfl := Except.error.inj hcall
    cases hf
  | ok results =>
    obtain ⟨-, -, -, herror⟩ := hproduct results rfl
    have hsecond : results[1]? = some (.error (.memberOutOfRange 7 3)) := by
      obtain ⟨later, rfl, hlater⟩ := hturn.eq_cons
      obtain ⟨last, rfl, -⟩ := hlater.eq_cons
      refine congrArg some ?_
      decide +kernel
    obtain ⟨e, failures, he, hreports⟩ := herror ⟨_, List.mem_of_getElem? hsecond⟩
    refine ⟨results, t, hturn, hsecond, e, failures, he, hreports, ?_⟩
    rw [houtcome] at he
    obtain rfl := Except.error.inj he
    rfl

/-- A call is not always the product of what its runs come to by themselves. With a feed for a source,
of which the first run leaves nothing to the second, an answer is missing; and a run that asks for the
program to end leaves the call without a report and the next run without being made. -/
theorem extract_is_no_product :
    let item : Node := .element "li" none
      [.element "h2" none [.text "title"], .element "a" none [.text "link"]]
    let title : Query := .selector (.tagIs "h2")
    let link : Query := .selector (.tagIs "a")
    let xs : List Extraction := [⟨title, .text⟩, ⟨link, .text⟩]
    let s : Session := { trace := { feeds := [Feed.ofTrees [item]] } }
    let quit : Extractor := ⟨fun _ => throw (.raised .interrupt), "quit"⟩
    let spy : Extractor := ⟨fun v => Action.ofProbe (do Probe.note "spy" v; pure v), "spy"⟩
    ((runs .shared (.feed 0) xs).map fun a => (a.run s).1) =
        [.ok (.text "title"), .ok (.text "link")] ∧
      ((extract .shared (.feed 0) [] (flat xs)).run s).1 = .ok (.list [.text "title", .absent]) ∧
      ((extract .shared (.node item) [] (flat [⟨title, quit⟩, ⟨link, spy⟩])).run {}).1 =
        .error (.raised .interrupt) ∧
      ((extract .shared (.node item) [] (flat [⟨title, quit⟩, ⟨link, spy⟩])).run {}).2.trace.toList
        = [] ∧
      ((run .shared (.node item) ⟨link, spy⟩).run {}).2.trace.toList.length = 1 := by
  refine ⟨?_, ?_, ?_, ?_, ?_⟩ <;> with_unfolding_all rfl

end Extraction
end MarkupQuery
