import MarkupQuery.Proofs.Extraction.Product
import MarkupQuery.Proofs.Probe

/-!
# Compiling comes first

A flat call compiles the queries among its arguments, those of the extractions in order and then the
narrowing one, before it does anything else. When a query does not compile, or the arguments do not
come in pairs, the call ends there: no selector has been asked and no extractor applied, and the
complaint is raised as it is, not as a report of failed extractions. Of the arguments in pairs, whatever
stands in the place of a query is read as one, junk included, and whatever stands in the place of an
extractor is left alone, so they are those of a list of extractions (`Extraction.flat`).

When all of them compile, what follows works with the compiled selectors, and compiling a selector
gives it back. What can fail from then on is a source that cannot be gone through, a delivery of a feed,
a question to a selector, or an extractor (`Extraction.FailsOn`).

Main statement: `Extraction.compiling_comes_first`.
-/

namespace MarkupQuery

open MarkupQuery.Action

/-! ## Queries in order -/

namespace Query

/-- The first of some queries that does not compile fails with this. -/
def FirstFault (qs : List Query) (f : Failure) : Prop :=
  ∃ before bad after, qs = before ++ bad :: after ∧ (∀ q ∈ before, ∃ p, q.compile = .ok p) ∧
    bad.compile = .error f

/-- Compiles queries in turn, up to the first that does not compile, and does nothing else. -/
def compileInTurn (id : CacheId) (qs : List Query) : Action (List Selector) :=
  qs.mapM (Action.compile id)

/-- Of queries that do not all compile there is a first that does not. -/
theorem exists_firstFault {qs : List Query} (h : ∃ q ∈ qs, ∃ g, q.compile = .error g) :
    ∃ f, FirstFault qs f := by
  induction qs with
  | nil =>
    obtain ⟨q, hq, -⟩ := h
    exact absurd hq List.not_mem_nil
  | cons q qs ih =>
    cases hcompile : q.compile with
    | error f => exact ⟨f, [], q, qs, rfl, fun r hr => absurd hr List.not_mem_nil, hcompile⟩
    | ok p =>
      obtain ⟨r, hr, g, hg⟩ := h
      have hlater : r ∈ qs := (List.mem_cons.mp hr).resolve_left fun heq => by
        rw [heq, hcompile] at hg
        cases hg
      obtain ⟨f, before, bad, after, rfl, hbefore, hbad⟩ := ih ⟨r, hlater, g, hg⟩
      exact ⟨f, q :: before, bad, after, rfl, List.forall_mem_cons.mpr ⟨⟨p, hcompile⟩, hbefore⟩, hbad⟩

theorem FirstFault.className {qs : List Query} {f : Failure} (h : FirstFault qs f) :
    f.className = "SelectorSyntaxError" := by
  obtain ⟨before, bad, after, -, -, hbad⟩ := h
  exact className_of_compile hbad

theorem FirstFault.mapM_compile {qs : List Query} {f : Failure} (h : FirstFault qs f) :
    qs.mapM Query.compile = .error f := by
  obtain ⟨before, bad, after, rfl, hbefore, hbad⟩ := h
  induction before with
  | nil =>
    rw [List.nil_append, List.mapM_cons, hbad]
    rfl
  | cons q before ih =>
    obtain ⟨p, hp⟩ := hbefore q List.mem_cons_self
    rw [List.cons_append, List.mapM_cons, hp, ih fun r hr => hbefore r (List.mem_cons_of_mem _ hr)]
    rfl

theorem mapM_compile_of_forall₂ {qs : List Query} {ps : List Selector}
    (h : List.Forall₂ (fun q p => q.compile = .ok p) qs ps) : qs.mapM Query.compile = .ok ps := by
  induction h with
  | nil => rfl
  | cons hq _ ih =>
    rw [List.mapM_cons, hq, ih]
    rfl

/-- Compiling through a cache, one query after the other, is compiling them. -/
theorem compileInTurn_agrees (id : CacheId) (qs : List Query) :
    (compileInTurn id qs).Agrees (Action.ofExcept (qs.mapM Query.compile)) := by
  induction qs with
  | nil => exact ignoresCaches_pure []
  | cons q qs ih =>
    rw [compileInTurn, List.mapM_cons, List.mapM_cons, ← ofExcept_bind]
    refine (compile_agrees id q).bind fun p => ?_
    rw [← ofExcept_bind]
    exact ih.bind fun ps => ignoresCaches_pure (p :: ps)

/-- Compiling queries in turn answers as they compile, and calls nothing. -/
theorem run_compileInTurn {s : Session} (hs : s.Faithful) (id : CacheId) (qs : List Query) :
    ((compileInTurn id qs).run s).1 = qs.mapM Query.compile ∧
      ((compileInTurn id qs).run s).2.trace = s.trace := by
  obtain ⟨hanswer, hafter⟩ := compileInTurn_agrees id qs s s hs.alike
  rw [run_ofExcept] at hanswer hafter
  exact ⟨hanswer, hafter.outside.trace⟩

theorem compileInTurn_concat (id : CacheId) (qs : List Query) (q : Query) :
    compileInTurn id (qs ++ [q]) = (do
      let ps ← compileInTurn id qs
      let p ← Action.compile id q
      pure (ps ++ [p])) := by
  simp only [compileInTurn, List.mapM_append, List.mapM_cons, List.mapM_nil, bind_assoc, pure_bind]

end Query

/-! ## Selecting with a compiled selector -/

/-- A selection compiles its query and selects with what it has compiled to. -/
theorem select_eq_compile_bind (id : CacheId) (q : Query) (source : Value) :
    select id q source = (do
      let p ← Action.compile id q
      select id (.selector p) source) := by
  simp only [select, compile_selector_eq_pure, pure_bind]

namespace Selector

/-- A failure of asking a selector about a source: the source cannot be gone through, or a question
about one of its subjects fails. With a feed for a source, a delivery fails, or a question about a
subject of a tree that it delivers. A failure of a question has become one inside a generator. -/
inductive FailsOn (p : Selector) (source : Value) : Failure → Prop
  | source {f : Failure} (hsource : ∀ feed, source ≠ .feed feed)
      (h : source.sourceSubjects = .error f) : p.FailsOn source f
  | question {f : Failure} {subjects : List Subject} {subject : Subject} {trace : Trace}
      (hsubjects : source.sourceSubjects = .ok subjects) (hmem : subject ∈ subjects)
      (h : ((p.holds subject).run trace).1 = .error f) : p.FailsOn source f.inGenerator
  | delivery {f : Failure} {feed : Nat} {trace : Trace} {d : Delivery} (hsource : source = .feed feed)
      (hd : d ∈ trace.feed feed) (h : d.outcome = .error f) : p.FailsOn source f
  | delivered {f : Failure} {feed : Nat} {trace seen : Trace} {d : Delivery} {tree : Option Node}
      {subject : Subject} (hsource : source = .feed feed) (hd : d ∈ trace.feed feed)
      (htree : d.outcome = .ok tree) (hmem : subject ∈ (Value.ofNode? tree).subjects)
      (h : ((p.holds subject).run seen).1 = .error f) : p.FailsOn source f.inGenerator

/-- A question that is put inside a generator fails as it does elsewhere, but for the failure. -/
theorem exists_of_run_inGenerator {p : Selector} {subject : Subject} {trace : Trace} {f : Failure}
    (h : ((p.inGenerator.holds subject).run trace).1 = .error f) :
    ∃ g, ((p.holds subject).run trace).1 = .error g ∧ g.inGenerator = f := by
  change ((p.holds subject).run trace).1.mapError Failure.inGenerator = .error f at h
  cases hasked : ((p.holds subject).run trace).1 with
  | ok b =>
    rw [hasked] at h
    cases h
  | error g =>
    rw [hasked] at h
    exact ⟨g, rfl, Except.error.inj h⟩

theorem exists_of_run_matching {p : Selector} {subjects : List Subject} {trace : Trace} {f : Failure}
    (h : ((p.matching subjects).run trace).1 = .error f) :
    ∃ subject ∈ subjects, ∃ seen : Trace, ((p.holds subject).run seen).1 = .error f := by
  induction subjects generalizing trace with
  | nil => cases h
  | cons subject rest ih =>
    have hrest {seen : Trace} (hseen : ((p.matching rest).run seen).1 = .error f) :
        ∃ subject' ∈ subject :: rest, ∃ seen, ((p.holds subject').run seen).1 = .error f := by
      obtain ⟨subject', hmem, hfails⟩ := ih hseen
      exact ⟨subject', List.mem_cons_of_mem _ hmem, hfails⟩
    rw [matching] at h
    rcases run_bind_eq_error h with hasked | ⟨b, seen, -, hafter⟩
    · exact ⟨subject, List.mem_cons_self, trace, hasked⟩
    · cases b with
      | false => exact hrest hafter
      | true =>
        rcases run_bind_eq_error hafter with hmore | ⟨found, later, -, hfound⟩
        · exact hrest hmore
        · cases hfound

/-- Asking about what a feed delivers fails with a delivery or with a question. -/
theorem failsOn_of_run_matchingDelivered {p : Selector} {feed n : Nat} {trace : Trace} {f : Failure}
    (h : ((p.inGenerator.matchingDelivered feed n).run trace).1 = .error f) :
    p.FailsOn (.feed feed) f := by
  induction n generalizing trace with
  | zero => cases h
  | succ n ih =>
    rw [matchingDelivered] at h
    rcases run_bind_eq_error h with hpull | ⟨answer, seen, hpull, hafter⟩
    · obtain ⟨d, hd, houtcome⟩ := Probe.exists_of_run_pull_eq_error hpull
      exact .delivery rfl hd houtcome
    · cases answer with
      | none => cases hafter
      | some tree =>
        obtain ⟨d, hd, houtcome⟩ := Probe.exists_of_run_pull_eq_some hpull
        rcases run_bind_eq_error hafter with hhere | ⟨here, later, -, hmore⟩
        · obtain ⟨subject, hmem, asked, hasked⟩ := exists_of_run_matching hhere
          obtain ⟨g, hg, rfl⟩ := exists_of_run_inGenerator hasked
          exact .delivered rfl hd houtcome hmem hg
        · rcases run_bind_eq_error hmore with hrest | ⟨more, last, -, hanswer⟩
          · exact ih hrest
          · cases hanswer

theorem failsOn_of_run_matchingIn {p : Selector} {source : Value} {trace : Trace} {f : Failure}
    (h : ((p.inGenerator.matchingIn source).run trace).1 = .error f) : p.FailsOn source f := by
  unfold matchingIn at h
  split at h
  · exact failsOn_of_run_matchingDelivered h
  · next hsource =>
    rcases run_bind_eq_error h with hfails | ⟨subjects, seen, hsubjects, hasking⟩
    · rw [Probe.run_ofExcept] at hfails
      exact .source hsource hfails
    · rw [Probe.run_ofExcept] at hsubjects
      obtain ⟨subject, hmem, asked, hasked⟩ := exists_of_run_matching hasking
      obtain ⟨g, hg, rfl⟩ := exists_of_run_inGenerator hasked
      exact .question (congrArg Prod.fst hsubjects) hmem hg

/-- A selection with a selector that is compiled already fails on its source, if it fails. -/
theorem failsOn_of_run_select {id : CacheId} {p : Selector} {source : Value} {s : Session}
    {f : Failure} (h : ((select id (.selector p) source).run s).1 = .error f) :
    p.FailsOn source f := by
  rw [select, compile_selector_eq_pure, pure_bind, selectSubjects_selector] at h
  rcases run_bind_eq_error h with hasking | ⟨found, u, -, hlogged⟩
  · exact failsOn_of_run_matchingIn hasking
  · -- the event in the journal and the answer do not fail
    cases hlogged

end Selector

namespace Extraction

open Query

/-! ## Runs of compiled extractions -/

/-- Extractions with selectors in the place of their queries. -/
def withSelectors (xs : List Extraction) (ps : List Selector) : List Extraction :=
  List.zipWith (fun x p => ⟨.selector p, x.extractor⟩) xs ps

/-- A failure of an extraction whose query is compiled: it comes from selecting, or from the
extractor. -/
inductive FailsOn (p : Selector) (e : Extractor) (source : Value) : Failure → Prop
  | selecting {f : Failure} (h : p.FailsOn source f) : FailsOn p e source f
  | extracting {f : Failure} {selection : Value} {s : Session}
      (h : ((e.apply selection).run s).1 = .error f) : FailsOn p e source f

/-- One of several extractions on a source fails. -/
def FailsAt (xs : List Extraction) (ps : List Selector) (source : Value) (i : Nat) (f : Failure) :
    Prop :=
  ∃ x p, xs[i]? = some x ∧ ps[i]? = some p ∧ FailsOn p x.extractor source f

/-- A failure of several extractions on a source: a report that lists failures of some of them, or what
asks for the program to end in one of them. -/
inductive ReportsRuns (xs : List Extraction) (ps : List Selector) (source : Value) : Failure → Prop
  | report {failures : List (Nat × Failure)}
      (h : ∀ i g, (i, g) ∈ failures → FailsAt xs ps source i g) :
      ReportsRuns xs ps source (.extractionsFailed xs.length failures)
  | interrupt {i : Nat} {f : Failure} (hf : f.isInterrupt = true) (h : FailsAt xs ps source i f) :
      ReportsRuns xs ps source f

/-- What lists have at an index is related as all of their members are. -/
theorem exists_getElem?_of_forall₂ {α β : Type} {R : α → β → Prop} {as : List α} {bs : List β}
    (h : List.Forall₂ R as bs) {i : Nat} {b : β} (hb : bs[i]? = some b) :
    ∃ a, as[i]? = some a ∧ R a b := by
  induction h generalizing i with
  | nil => simp at hb
  | cons hab _ ih =>
    cases i with
    | zero =>
      obtain rfl := Option.some.inj hb
      exact ⟨_, rfl, hab⟩
    | succ i => exact ih hb

section Runs

variable {id : CacheId} {source : Value} {keys : List Key} {s : Session} {f : Failure} {i : Nat}
  {xs : List Extraction} {ps : List Selector}

theorem failsOn_of_run {p : Selector} {e : Extractor}
    (h : ((run id source ⟨.selector p, e⟩).run s).1 = .error f) : FailsOn p e source f := by
  rw [run] at h
  rcases run_bind_eq_error h with hselect | ⟨found, t, -, happly⟩
  · exact .selecting (Selector.failsOn_of_run_select hselect)
  · rcases found with _ | ⟨only, _ | ⟨other, rest⟩⟩
    · cases happly
    · exact .extracting happly
    · exact .extracting happly

/-- Each extraction is run from some session, and its outcome is kept, unless one asks for the program
to end. -/
theorem run_runEach (id : CacheId) (source : Value) (xs : List Extraction) (index : Nat)
    (s : Session) : ∃ r t, (runEach id source index xs).run s = (r, t) ∧
      (∀ results, r = .ok results →
        List.Forall₂ (fun x r => ∃ u : Session, ((run id source x).run u).1 = r) xs results) ∧
      ∀ f, r = .error f → f.isInterrupt = true ∧
        ∃ (i : Nat) (x : Extraction), xs[i]? = some x ∧ ∃ u : Session, ((run id source x).run u).1 = .error f := by
  induction xs generalizing index s with
  | nil =>
    refine ⟨.ok [], s, rfl, fun results h => ?_, fun f h => nomatch h⟩
    obtain rfl := Except.ok.inj h
    exact .nil
  | cons x xs ih =>
    rcases hx : (run id source x).run s with ⟨result, t⟩
    have hhere : ((run id source x).run s).1 = result := congrArg Prod.fst hx
    -- what the runs after this one come to, when this one is kept
    have hkept (w : Session) : ∃ r u,
        (runEach id source (index + 1) xs >>= fun rest => pure (result :: rest)).run w = (r, u) ∧
        (∀ results, r = .ok results → List.Forall₂
          (fun x r => ∃ u : Session, ((run id source x).run u).1 = r) (x :: xs) results) ∧
        ∀ f, r = .error f → f.isInterrupt = true ∧
          ∃ (i : Nat) (y : Extraction), (x :: xs)[i]? = some y ∧
            ∃ u : Session, ((run id source y).run u).1 = .error f := by
      obtain ⟨r, u, hrun, hall, hinterrupt⟩ := ih (index + 1) w
      cases r with
      | ok rest =>
        refine ⟨.ok (result :: rest), u, by rw [run_bind_of_ok hrun, run_pure], ?_,
          fun f h => nomatch h⟩
        intro results h
        obtain rfl := Except.ok.inj h
        exact .cons ⟨s, hhere⟩ (hall rest rfl)
      | error f =>
        obtain ⟨hf, i, y, hy, hfails⟩ := hinterrupt f rfl
        refine ⟨.error f, u, by rw [run_bind_of_error hrun], (fun results h => nomatch h), ?_⟩
        intro g h
        obtain rfl := Except.error.inj h
        exact ⟨hf, i + 1, y, hy, hfails⟩
    rcases run_runEach_cons hx index xs with ⟨journal, hrun⟩ | ⟨g, hg, rfl, hrun⟩
    · rw [hrun]
      exact hkept _
    · rw [hrun]
      refine ⟨.error g, t, rfl, (fun results h => nomatch h), fun f h => ?_⟩
      obtain rfl := Except.error.inj h
      exact ⟨hg, 0, x, rfl, s, hhere⟩

theorem exists_of_run_runAll (h : ((runAll id source xs).run s).1 = .error f) :
    (∃ results, f = .extractionsFailed xs.length (failuresFrom 0 results) ∧
      List.Forall₂ (fun x r => ∃ u : Session, ((run id source x).run u).1 = r) xs results) ∨
    (f.isInterrupt = true ∧
      ∃ (i : Nat) (x : Extraction), xs[i]? = some x ∧ ∃ u : Session, ((run id source x).run u).1 = .error f) := by
  cases xs with
  | nil => cases h
  | cons x xs =>
    obtain ⟨r, t, hrun, hall, hinterrupt⟩ := run_runEach id source (x :: xs) 0 s
    unfold runAll at h
    cases r with
    | error g =>
      rw [run_bind_of_error hrun] at h
      obtain rfl := Except.error.inj h
      exact .inr (hinterrupt g rfl)
    | ok results =>
      refine .inl ⟨results, ?_, hall results rfl⟩
      rw [run_bind_of_ok hrun] at h
      split at h
      · cases h
      · cases h
      · exact (Except.error.inj h).symm

theorem failsAt_of_getElem? (h : ∃ y, (withSelectors xs ps)[i]? = some y ∧
    ∃ u : Session, ((run id source y).run u).1 = .error f) : FailsAt xs ps source i f := by
  obtain ⟨y, hy, u, hrun⟩ := h
  obtain ⟨x, p, hx, hp, rfl⟩ := List.getElem?_zipWith_eq_some.mp hy
  exact ⟨x, p, hx, hp, failsOn_of_run hrun⟩

theorem reportsRuns_of_run_runKeyed (hlength : xs.length = ps.length)
    (h : ((runKeyed id source keys (withSelectors xs ps)).run s).1 = .error f) :
    ReportsRuns xs ps source f := by
  rw [runKeyed_eq] at h
  rcases run_bind_eq_error h with hall | ⟨extracted, t, -, hanswer⟩
  · rcases exists_of_run_runAll hall with ⟨results, rfl, hruns⟩ | ⟨hf, i, hfails⟩
    · rw [withSelectors, List.length_zipWith, hlength, Nat.min_self, ← hlength]
      refine .report fun i g hg => ?_
      obtain ⟨j, rfl, hj⟩ := mem_failuresFrom.mp hg
      rw [Nat.zero_add]
      exact failsAt_of_getElem? (exists_getElem?_of_forall₂ hruns hj)
    · exact .interrupt hf (failsAt_of_getElem? hfails)
  · cases hanswer

theorem reportsRuns_of_run_extractEach (hlength : xs.length = ps.length) {index : Nat}
    {sources : List Value}
    (h : ((extractEach id keys (withSelectors xs ps) index sources).run s).1 = .error f) :
    ∃ source ∈ sources, ReportsRuns xs ps source f := by
  induction sources generalizing index s with
  | nil => cases h
  | cons source sources ih =>
    rw [extractEach] at h
    rcases run_bind_eq_error h with hhere | ⟨here, t, -, hafter⟩
    · obtain ⟨before, after, hbound⟩ := run_withBound _ _ s
      rw [hbound] at hhere
      exact ⟨source, List.mem_cons_self, reportsRuns_of_run_runKeyed hlength hhere⟩
    · rcases run_bind_eq_error hafter with hrest | ⟨rest, u, -, hanswer⟩
      · obtain ⟨sub, hmem, hreports⟩ := ih hrest
        exact ⟨sub, List.mem_cons_of_mem _ hmem, hreports⟩
      · cases hanswer

end Runs

/-! ## Calls by stages -/

theorem compilePairs_flat (id : CacheId) (xs : List Extraction) :
    compilePairs id (flat xs) = (do
      let ps ← compileInTurn id (xs.map query)
      pure (withSelectors xs ps)) := by
  induction xs with
  | nil => rfl
  | cons x xs ih =>
    show compilePairs id (.query x.query :: .extractor x.extractor :: flat xs) = _
    rw [compilePairs, ih, List.map_cons]
    simp only [compileInTurn, List.mapM_cons, bind_assoc, pure_bind]
    rfl

theorem exists_forall₂_compile {xs : List Extraction}
    (h : ∀ x ∈ xs, ∃ p, x.query.compile = .ok p) :
    ∃ ps, List.Forall₂ (fun x p => x.query.compile = .ok p) xs ps := by
  induction xs with
  | nil => exact ⟨[], .nil⟩
  | cons x xs ih =>
    obtain ⟨⟨p, hp⟩, hxs⟩ := List.forall_mem_cons.mp h
    obtain ⟨ps, hps⟩ := ih hxs
    exact ⟨p :: ps, .cons hp hps⟩

theorem ofArguments_flat (id : CacheId) (xs : List Extraction) :
    ofArguments id (flat xs) = compilePairs id (flat xs) := by
  rw [ofArguments, if_neg (by rw [length_flat]; omega)]

/-- A call compiles first, and then runs the compiled extractions. -/
theorem extract_flat (id : CacheId) (source : Value) (keys : List Key) (xs : List Extraction) :
    extract id source keys (flat xs) = (do
      let ps ← compileInTurn id (xs.map query)
      runKeyed id source keys (withSelectors xs ps)) := by
  rw [extract, ofArguments_flat, compilePairs_flat, bind_assoc]
  simp only [pure_bind]

/-- A narrowed call compiles first, and then narrows and runs the compiled extractions. -/
theorem extractFrom_flat (id : CacheId) (source : Value) (q : Query) (keys : List Key)
    (xs : List Extraction) :
    extractFrom id source q keys (flat xs) = (do
      let ps ← compileInTurn id (xs.map query)
      let p ← Action.compile id q
      let sources ← select id (.selector p) source
      extractEach id keys (withSelectors xs ps) 0 sources) := by
  rw [extractFrom, ofArguments_flat, compilePairs_flat, bind_assoc]
  simp only [pure_bind]
  rw [select_eq_compile_bind]
  simp only [bind_assoc]

section Calls

variable {s : Session} {xs : List Extraction} {q : Query} {f : Failure}

theorem run_extract_of_fault (hs : s.Faithful) (h : FirstFault (xs.map query) f) (id : CacheId)
    (source : Value) (keys : List Key) :
    (extract id source keys (flat xs)).run s =
      (.error f, ((compileInTurn id (xs.map query)).run s).2) := by
  have hanswer := (run_compileInTurn hs id (xs.map query)).1
  rw [h.mapM_compile] at hanswer
  rw [extract_flat]
  exact run_bind_of_error (Prod.ext hanswer rfl)

theorem run_extractFrom_of_fault (hs : s.Faithful) (h : FirstFault (xs.map query ++ [q]) f)
    (id : CacheId) (source : Value) (keys : List Key) :
    (extractFrom id source q keys (flat xs)).run s =
      (.error f, ((compileInTurn id (xs.map query ++ [q])).run s).2) := by
  have hanswer := (run_compileInTurn hs id (xs.map query ++ [q])).1
  rw [h.mapM_compile] at hanswer
  rw [compileInTurn_concat] at hanswer ⊢
  rw [extractFrom_flat]
  rcases hinner : (compileInTurn id (xs.map query)).run s with ⟨_ | ps, t⟩
  · rw [run_bind_of_error hinner] at hanswer
    rw [run_bind_of_error hinner, run_bind_of_error hinner]
    obtain rfl := Except.error.inj hanswer
    rfl
  · rw [run_bind_of_ok hinner] at hanswer
    rw [run_bind_of_ok hinner, run_bind_of_ok hinner]
    rcases hq : (Action.compile id q).run t with ⟨_ | p, u⟩
    · rw [run_bind_of_error hq] at hanswer
      rw [run_bind_of_error hq, run_bind_of_error hq]
      obtain rfl := Except.error.inj hanswer
      rfl
    · rw [run_bind_of_ok hq] at hanswer
      cases hanswer

theorem run_extract_of_compiled (hs : s.Faithful) {ps : List Selector}
    (h : List.Forall₂ (fun x p => x.query.compile = .ok p) xs ps) (id : CacheId) (source : Value)
    (keys : List Key) :
    (extract id source keys (flat xs)).run s =
      (runKeyed id source keys (withSelectors xs ps)).run
        ((compileInTurn id (xs.map query)).run s).2 := by
  have hanswer := (run_compileInTurn hs id (xs.map query)).1
  rw [mapM_compile_of_forall₂ (List.forall₂_map_left_iff.mpr h)] at hanswer
  rw [extract_flat]
  exact run_bind_of_ok (Prod.ext hanswer rfl)

theorem run_extractFrom_of_compiled (hs : s.Faithful) {ps : List Selector} {p : Selector}
    (h : List.Forall₂ (fun x p => x.query.compile = .ok p) xs ps) (hq : q.compile = .ok p)
    (id : CacheId) (source : Value) (keys : List Key) :
    (extractFrom id source q keys (flat xs)).run s = (do
      let sources ← select id (.selector p) source
      extractEach id keys (withSelectors xs ps) 0 sources).run
        ((compileInTurn id (xs.map query ++ [q])).run s).2 := by
  have hanswer := (run_compileInTurn hs id (xs.map query)).1
  rw [mapM_compile_of_forall₂ (List.forall₂_map_left_iff.mpr h)] at hanswer
  have hinner : (compileInTurn id (xs.map query)).run s =
      (.ok ps, ((compileInTurn id (xs.map query)).run s).2) := Prod.ext hanswer rfl
  have hfaithful := (compileInTurn_agrees id (xs.map query)).left.faithful hs
  obtain ⟨t, ht, -⟩ := run_compile_of_ok hfaithful hq id
  rw [extractFrom_flat, compileInTurn_concat, run_bind_of_ok hinner, run_bind_of_ok hinner,
    run_bind_of_ok ht, run_bind_of_ok ht]
  rfl

end Calls

/-- **Compiling comes before everything else.** With an odd number of arguments a call fails and
leaves the session as it was. With queries and extractors in turn, the complaint about the first query
that does not compile, those of the extractions in order and then the narrowing one, is the failure of
the call; all that has happened by then is that queries were compiled, whatever the source and the
extractors are. When all queries compile, the call goes on as a call with their selectors, and all that
can fail then is a source, a question to a selector or an extractor. -/
theorem compiling_comes_first (id : CacheId) (source : Value) (q : Query) (keys : List Key) :
    (∀ (s : Session) (arguments : List Argument), arguments.length % 2 = 1 →
      (extract id source keys arguments).run s =
        (.error (.unpairedArguments arguments.length), s) ∧
      (extractFrom id source q keys arguments).run s =
        (.error (.unpairedArguments arguments.length), s) ∧
      (Failure.unpairedArguments arguments.length).className = "ValueError") ∧
    ∀ (s : Session), s.Faithful → ∀ xs : List Extraction,
      (∀ qs, ((compileInTurn id qs).run s).2.trace = s.trace) ∧
      ((∃ x ∈ xs, ∃ g, x.query.compile = .error g) →
        ∃ f, FirstFault (xs.map query) f ∧ f.className = "SelectorSyntaxError" ∧
          (extract id source keys (flat xs)).run s =
            (.error f, ((compileInTurn id (xs.map query)).run s).2)) ∧
      ((∃ r ∈ xs.map query ++ [q], ∃ g, r.compile = .error g) →
        ∃ f, FirstFault (xs.map query ++ [q]) f ∧ f.className = "SelectorSyntaxError" ∧
          (extractFrom id source q keys (flat xs)).run s =
            (.error f, ((compileInTurn id (xs.map query ++ [q])).run s).2)) ∧
      ((∀ x ∈ xs, ∃ p, x.query.compile = .ok p) →
        ∃ ps, List.Forall₂ (fun x p => x.query.compile = .ok p) xs ps ∧
          (extract id source keys (flat xs)).run s =
            (runKeyed id source keys (withSelectors xs ps)).run
              ((compileInTurn id (xs.map query)).run s).2 ∧
          (∀ f, ((extract id source keys (flat xs)).run s).1 = .error f →
            ReportsRuns xs ps source f) ∧
          ∀ p, q.compile = .ok p →
            (extractFrom id source q keys (flat xs)).run s = (do
              let sources ← select id (.selector p) source
              extractEach id keys (withSelectors xs ps) 0 sources).run
                ((compileInTurn id (xs.map query ++ [q])).run s).2 ∧
            ∀ f, ((extractFrom id source q keys (flat xs)).run s).1 = .error f →
              p.FailsOn source f ∨ ∃ sub, ReportsRuns xs ps sub f) := by
  refine ⟨fun s arguments hodd => ?_, fun s hs xs => ⟨fun qs => (run_compileInTurn hs id qs).2,
    fun hfault => ?_, fun hfault => ?_, fun hcompile => ?_⟩⟩
  · have hrefused : (ofArguments id arguments).run s =
        (.error (.unpairedArguments arguments.length), s) := by
      rw [ofArguments, if_pos hodd]
      rfl
    exact ⟨run_bind_of_error hrefused, run_bind_of_error hrefused, rfl⟩
  · obtain ⟨x, hx, g, hg⟩ := hfault
    obtain ⟨f, hf⟩ := exists_firstFault ⟨x.query, List.mem_map_of_mem hx, g, hg⟩
    exact ⟨f, hf, hf.className, run_extract_of_fault hs hf id source keys⟩
  · obtain ⟨f, hf⟩ := exists_firstFault hfault
    exact ⟨f, hf, hf.className, run_extractFrom_of_fault hs hf id source keys⟩
  · obtain ⟨ps, hps⟩ := exists_forall₂_compile hcompile
    have hrun := run_extract_of_compiled hs hps id source keys
    refine ⟨ps, hps, hrun, fun f hf => ?_, fun p hp => ?_⟩
    · rw [hrun] at hf
      exact reportsRuns_of_run_runKeyed hps.length_eq hf
    · have hrunFrom := run_extractFrom_of_compiled hs hps hp id source keys
      refine ⟨hrunFrom, fun f hf => ?_⟩
      rw [hrunFrom] at hf
      rcases run_bind_eq_error hf with hselect | ⟨sources, t, -, heach⟩
      · exact Or.inl (Selector.failsOn_of_run_select hselect)
      · obtain ⟨sub, -, hreports⟩ := reportsRuns_of_run_extractEach hps.length_eq heach
        exact Or.inr ⟨sub, hreports⟩

/-- A lone query; two queries that do not compile after one that does, with a narrowing query that does
not compile either; and a query that compiles. -/
theorem compiling_comes_first_second_malformed :
    let xs : List Extraction := [⟨.text "*", .text⟩, ⟨.text ">", .tag⟩, ⟨.other .absent, .text⟩]
    let ys : List Extraction := [⟨.text "*", .text⟩]
    (extract .shared .absent [] [.query (.text ">")]).run {} = (.error (.unpairedArguments 1), {}) ∧
    (∃ f, FirstFault (xs.map query ++ [.text "<"]) f ∧ f = .malformedToken ">" ∧
      (extractFrom .shared .absent (.text "<") [] (flat xs)).run {} =
        (.error f, ((compileInTurn .shared (xs.map query ++ [.text "<"])).run {}).2)) ∧
    (∃ f, FirstFault (xs.map query) f ∧ (extract .shared .absent [] (flat xs)).run {} =
      (.error f, ((compileInTurn .shared (xs.map query)).run {}).2)) ∧
    ∃ ps, (extract .shared (.node (.text "a")) [] (flat ys)).run {} =
      (runKeyed .shared (.node (.text "a")) [] (withSelectors ys ps)).run
        ((compileInTurn .shared (ys.map query)).run {}).2 := by
  intro xs ys
  obtain ⟨hodd, heven⟩ := compiling_comes_first .shared .absent (.text "<") []
  obtain ⟨-, hinner, hnarrowing, -⟩ := heven {} Session.faithful_default xs
  have hmalformed : (Query.text ">").compile = .error (.malformedToken ">") := by decide +kernel
  obtain ⟨f, hf, -, hrun⟩ := hnarrowing ⟨.text ">", by simp [xs], _, hmalformed⟩
  obtain ⟨g, hg, -, hrun'⟩ := hinner ⟨⟨.text ">", .tag⟩, by simp [xs], _, hmalformed⟩
  have hfirst : ((extractFrom .shared .absent (.text "<") [] (flat xs)).run {}).1 =
      .error (.malformedToken ">") := by decide +kernel
  rw [hrun] at hfirst
  have hcompile : ∀ y ∈ ys, ∃ p, y.query.compile = .ok p := by
    intro y hy
    obtain rfl := List.mem_singleton.mp hy
    exact Query.exists_compile_eq_ok (by decide +kernel)
  obtain ⟨-, -, -, hcompiled⟩ := (compiling_comes_first .shared (.node (.text "a")) (.text "<") []).2
    {} Session.faithful_default ys
  obtain ⟨ps, -, hrest, -⟩ := hcompiled hcompile
  exact ⟨(hodd {} _ rfl).1, ⟨f, hf, Except.error.inj hfirst, hrun⟩, ⟨g, hg, hrun'⟩, ps, hrest⟩

end Extraction
end MarkupQuery
