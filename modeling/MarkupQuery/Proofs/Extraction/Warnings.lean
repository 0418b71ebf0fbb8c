import MarkupQuery.Proofs.Extraction.Agreement
import MarkupQuery.Proofs.Mapping

/-!
# Warnings of failed extractions

The failures of a call are told twice: while the extractions run, by an event in the journal for each
that fails, and at the end by the failure of the call, which lists them. When the caller's functions
make no events of their own, the two tell the same (`Event.Notes`), in the same order, and a call that
returns makes no such event.

A narrowed call binds the index of each selected node while it extracts from it. So its events, all of
them about the first node at which the extractions fail, say which node this is, and whatever becomes
of the call, the bound fields are afterwards as they were.

Main statement: `Extraction.warnings_mirror_failures`.
-/

namespace MarkupQuery

open MarkupQuery.Action

variable {α β : Type} {s : Session}

/-! ## Events -/

/-- The text of the events that note a failed extraction. -/
def Journal.warningText : String := "Extraction pair failed"

/-- The events that note a failed extraction, in order. -/
def Journal.warnings (j : Journal) : List Event :=
  j.events.toList.filter fun e => e.text == warningText

/-- The names of the fields that such an event has of its own. -/
def Event.warningKeys : List String := ["pair", "selector", "error", "error_type"]

/-- An event notes the failure of an extraction: it is a warning with the index of the extraction and
with the name and the text of the failure. Under other names it has what was bound. -/
structure Event.Notes (bound : Fields) (e : Event) (p : Nat × Failure) : Prop where
  level : e.level = .warning
  pair : e.fields.find? "pair" = some (.whole p.1)
  errorType : e.fields.find? "error_type" = some (.text p.2.className)
  error : e.fields.find? "error" = some (.text p.2.message)
  others : ∀ name, name ∉ warningKeys → e.fields.find? name = bound.find? name

theorem Journal.find?_withBound (j : Journal) (fields : Fields) (name : String) :
    (j.withBound fields).find? name = (fields.find? name).or (j.bound.find? name) := by
  rw [withBound, Mapping.find?_append,
    Mapping.find?_filter j.bound (fun k => (fields.find? k).isNone)]
  cases fields.find? name <;> rfl

theorem Journal.warnings_record (j : Journal) (level : Level) (logger text : String)
    (fields : Fields) : (j.record level logger text fields).warnings =
      j.warnings ++ if text == warningText then [⟨level, logger, text, j.withBound fields⟩] else [] := by
  rw [warnings, warnings, record, Array.toList_push, List.filter_append, List.filter_singleton]
  cases text == warningText <;> rfl

/-- The failures that a failure lists. -/
def Failure.listed : Failure → List (Nat × Failure)
  | .extractionsFailed _ failures => failures
  | _ => []

/-- What comes of a call tells of these failed extractions: an answer of none, a failure of those that
it lists. What asks for the program to end tells of none, however many had failed before it. -/
inductive Failure.TellsOf : Except Failure α → List (Nat × Failure) → Prop
  | answer (a : α) : TellsOf (.ok a) []
  | failure {f : Failure} (h : f.isInterrupt = false) : TellsOf (.error f) f.listed
  | interrupt {f : Failure} (h : f.isInterrupt = true) (failed : List (Nat × Failure)) :
    TellsOf (.error f) failed

theorem Failure.tellsOf_nil {f : Failure} (h : f.listed = []) :
    TellsOf (.error f : Except Failure α) [] := by
  cases hf : f.isInterrupt with
  | false => exact h ▸ .failure hf
  | true => exact .interrupt hf []

theorem Failure.TellsOf.map {r : Except Failure α} {failed : List (Nat × Failure)}
    (h : TellsOf r failed) (f : α → β) : TellsOf (r.map f) failed := by
  cases h with
  | answer a => exact .answer (f a)
  | failure h => exact .failure h
  | interrupt h failed => exact .interrupt h failed

theorem Session.journal_setCache (s : Session) (id : CacheId) (c : Cache) :
    (s.setCache id c).journal = s.journal := by
  cases id <;> rfl

/-! ## Actions -/

namespace Action

variable {a : Action α} {f : α → Action β} {made more : List Event}

/-- From a session, an action makes these warnings, and leaves the bound fields as they are. -/
structure WarnsFrom (s : Session) (a : Action α) (made : List Event) : Prop where
  warnings : (a.run s).2.journal.warnings = s.journal.warnings ++ made
  bound : (a.run s).2.journal.bound = s.journal.bound

/-- An action makes no warnings. -/
def WarnsNot (a : Action α) : Prop := ∀ s, a.WarnsFrom s []

theorem warnsNot_of_journal (h : ∀ s : Session, (a.run s).2.journal = s.journal) : a.WarnsNot :=
  fun s => ⟨by rw [h, List.append_nil], by rw [h]⟩

theorem warnsNot_pure (x : α) : (pure x : Action α).WarnsNot := warnsNot_of_journal fun _ => rfl

theorem warnsNot_ofExcept (r : Except Failure α) : (ofExcept r).WarnsNot :=
  warnsNot_of_journal fun s => by rw [run_ofExcept]

/-- A caller's test cannot reach the journal. -/
theorem warnsNot_ofProbe (p : Probe α) : (ofProbe p).WarnsNot := warnsNot_of_journal fun _ => rfl

theorem warnsNot_log (level : Level) (logger text : String) (fields : Fields)
    (h : (text == Journal.warningText) = false) : (log level logger text fields).WarnsNot :=
  fun s => ⟨by rw [run_log, Journal.warnings_record, h]; rfl, rfl⟩

theorem WarnsFrom.bind_of_ok {x : α} (ha : a.WarnsFrom s made) (hok : (a.run s).1 = .ok x)
    (hf : (f x).WarnsFrom (a.run s).2 more) : (a >>= f).WarnsFrom s (made ++ more) := by
  have hrun : (a >>= f).run s = (f x).run (a.run s).2 := run_bind_of_ok (Prod.ext hok rfl)
  exact ⟨by rw [hrun, hf.warnings, ha.warnings, List.append_assoc],
    by rw [hrun, hf.bound, ha.bound]⟩

theorem WarnsFrom.bind_of_error {e : Failure} (ha : a.WarnsFrom s made)
    (hfail : (a.run s).1 = .error e) : (a >>= f).WarnsFrom s made := by
  have hrun : (a >>= f).run s = (.error e, (a.run s).2) := run_bind_of_error (Prod.ext hfail rfl)
  exact ⟨by rw [hrun, ha.warnings], by rw [hrun, ha.bound]⟩

/-- What follows and makes no warnings makes no difference, be it done or not. -/
theorem WarnsFrom.bind (ha : a.WarnsFrom s made) (hf : ∀ x, (f x).WarnsNot) :
    (a >>= f).WarnsFrom s made := by
  cases hrun : (a.run s).1 with
  | error e => exact ha.bind_of_error hrun
  | ok x =>
    rw [← List.append_nil made]
    exact ha.bind_of_ok hrun (hf x _)

theorem WarnsNot.bind (ha : a.WarnsNot) (hf : ∀ x, (f x).WarnsNot) : (a >>= f).WarnsNot :=
  fun s => (ha s).bind hf

theorem WarnsNot.outcome (ha : a.WarnsNot) : (Action.outcome a).WarnsNot :=
  fun s => ⟨(ha s).warnings, (ha s).bound⟩

/-- What is left to do after some warnings adds its own. -/
theorem WarnsFrom.after {t : Session} (ha : a.WarnsFrom t more)
    (hwarnings : t.journal.warnings = s.journal.warnings ++ made)
    (hbound : t.journal.bound = s.journal.bound) {b : Action α} (hrun : b.run s = a.run t) :
    b.WarnsFrom s (made ++ more) :=
  ⟨by rw [hrun, ha.warnings, hwarnings, List.append_assoc], by rw [hrun, ha.bound, hbound]⟩

/-- Compiling may make an event, but no warning. -/
theorem warnsNot_compile (id : CacheId) (q : Query) : (compile id q).WarnsNot := by
  intro s
  let answer := (s.cache id).compile s.settings.cacheEnabled q
  have hjournal := s.journal_setCache id answer.cache
  have hwarnings : (s.setCache id answer.cache).journal.warnings = s.journal.warnings ++ [] := by
    rw [hjournal, List.append_nil]
  cases hadded : ((s.cache id).compile s.settings.cacheEnabled q).added with
  | none =>
    refine (warnsNot_ofExcept answer.result _).after hwarnings (by rw [hjournal]) ?_
    unfold compile
    simp only [run_bind, run_get, run_set, hadded, answer]
  | some key =>
    have hnote := warnsNot_log .debug "chisel.selectors.compiler" "Compiled selector"
      [("chain", .text (String.intercalate " " key)), ("cache_size", .whole answer.cache.size)] (by decide)
    refine (hnote.bind (fun _ => warnsNot_ofExcept answer.result) _).after hwarnings
      (by rw [hjournal]) ?_
    unfold compile
    simp only [run_bind, run_get, run_set, hadded, answer]

theorem run_withBound_eq (fields : Fields) (a : Action α) (s : Session) :
    (withBound fields a).run s =
      let ran := a.run { s with journal := s.journal.bind fields }
      let saved := s.journal.bound.filter fun p => (fields.find? p.1).isSome
      let after := (ran.2.journal.unbind (fields.map Prod.fst)).bind saved
      (ran.1, { ran.2 with journal := after }) := by
  unfold withBound
  simp only [run_bind, run_get, run_modify, run_outcome]
  exact run_ofExcept _ _

end Action

/-- Whatever keeps a query from being compiled through a cache is an error of its syntax. -/
theorem Cache.className_of_compile {c : Cache} {bySettings : Bool} {q : Query} {f : Failure}
    (h : (c.compile bySettings q).result = .error f) : f.className = "SelectorSyntaxError" := by
  have helements : ∀ elements, Query.compileElements elements = .error f →
      f.className = "SelectorSyntaxError" := fun elements h =>
    Query.className_of_elements (bind_eq_error_iff.mp h |>.resolve_right (by rintro ⟨_, _, h⟩; cases h))
  unfold compile at h
  split at h
  · cases h
  · split at h
    · next hq =>
      cases h
      exact Query.className_of_normalise hq
    · split at h
      · next key _ =>
        split at h
        · rw [compileTokens] at h
          split at h
          · cases h
          · split at h
            · cases h
            · next hkey =>
              cases h
              exact helements _ hkey
        · exact helements _ h
      · exact helements _ h

/-! ## Extractions -/

/-- An extractor leaves the journal as it is, whatever else it does. -/
def Extractor.SparesJournal (e : Extractor) : Prop :=
  ∀ v (s : Session), ((e.apply v).run s).2.journal = s.journal

theorem Extractor.sparesJournal_ofFunction (f : Value → Except Failure Value) (name : String) :
    (ofFunction f name).SparesJournal := by
  intro v s
  show ((ofExcept (f v)).run s).2.journal = s.journal
  rw [run_ofExcept]

theorem warnsNot_select (id : CacheId) (q : Query) (source : Value) :
    (select id q source).WarnsNot := by
  unfold select
  simp only [selectSubjects_selector]
  refine (warnsNot_compile id q).bind fun p => ?_
  refine (warnsNot_ofProbe _).bind fun found => ?_
  exact (warnsNot_log _ _ _ _ (by decide)).bind fun _ => warnsNot_pure _

namespace Extraction

variable {id : CacheId} {source : Value} {keys : List Key} {xs : List Extraction}

theorem warnsNot_run {x : Extraction} (hx : x.extractor.SparesJournal) (id : CacheId)
    (source : Value) : (run id source x).WarnsNot := by
  refine (warnsNot_select id x.query source).bind fun found => ?_
  rcases found with _ | ⟨only, _ | ⟨other, rest⟩⟩
  · exact warnsNot_pure _
  · exact warnsNot_of_journal (hx only)
  · exact warnsNot_of_journal (hx _)

/-- An answer may be put in another form without anything else being done. -/
theorem run_bind_pure (a : Action α) (f : α → β) (s : Session) :
    (a >>= fun x => pure (f x)).run s = ((a.run s).1.map f, (a.run s).2) := by
  rw [run_bind]
  rcases a.run s with ⟨_ | _, _⟩ <;> rfl

/-- The event that a failed extraction makes notes its failure. -/
theorem notes_failure (j : Journal) (logger : String) (index : Nat) (query : Value) (f : Failure) :
    Event.Notes j.bound ⟨.warning, logger, Journal.warningText, j.withBound
      [("pair", .whole index), ("selector", query), ("error", .text f.message),
        ("error_type", .text f.className)]⟩ (index, f) where
  level := rfl
  pair := by rw [j.find?_withBound]; rfl
  errorType := by rw [j.find?_withBound]; rfl
  error := by rw [j.find?_withBound]; rfl
  others name hname := by
    simp only [Event.warningKeys, List.mem_cons, List.not_mem_nil, or_false, not_or] at hname
    obtain ⟨hpair, hselector, herror, htype⟩ := hname
    rw [j.find?_withBound]
    simp [Mapping.find?, Ne.symm hpair, Ne.symm hselector, Ne.symm herror, Ne.symm htype]

/-- Running one extraction makes a warning if it fails, and then the others are run, unless it asks for
the program to end. -/
theorem step_runEach {x : Extraction} (hx : x.extractor.SparesJournal) (id : CacheId)
    (source : Value) (index : Nat) (xs : List Extraction) (s : Session) :
    (∃ r t made, (runEach id source index (x :: xs)).run s =
        (runEach id source (index + 1) xs >>= fun rest => pure (r :: rest)).run t ∧
      t.journal.warnings = s.journal.warnings ++ made ∧ t.journal.bound = s.journal.bound ∧
      List.Forall₂ (Event.Notes s.journal.bound) made (failuresFrom index [r])) ∨
    ∃ f, f.isInterrupt = true ∧ ((runEach id source index (x :: xs)).run s).1 = .error f ∧
      (runEach id source index (x :: xs)).WarnsFrom s [] := by
  have hwarns := warnsNot_run hx id source s
  rcases hrun : (run id source x).run s with ⟨f | v, t⟩
  · obtain ⟨hwarnings, hbound⟩ := hwarns
    rw [hrun] at hwarnings hbound
    cases hf : f.isInterrupt with
    | false =>
      let fields : Fields := [("pair", .whole index), ("selector", x.query.toValue),
        ("error", .text f.message), ("error_type", .text f.className)]
      refine Or.inl ⟨.error f, _,
        [⟨.warning, "chisel.extraction.pipeline", Journal.warningText, t.journal.withBound fields⟩],
        run_runEach_of_error hrun hf index xs, ?_, hbound, .cons ?_ .nil⟩
      · rw [Journal.warnings_record, hwarnings, List.append_nil]
        rfl
      · rw [← hbound]
        exact notes_failure t.journal _ index x.query.toValue f
    | true =>
      have hends := run_runEach_of_interrupt hrun hf index xs
      exact Or.inr ⟨f, hf, congrArg Prod.fst hends, by rw [hends, hwarnings], by rw [hends, hbound]⟩
  · obtain ⟨hwarnings, hbound⟩ := hwarns
    rw [hrun] at hwarnings hbound
    exact Or.inl ⟨.ok v, t, [], run_runEach_of_ok hrun index xs, hwarnings, hbound, .nil⟩

theorem failuresFrom_cons (index : Nat) (r : Except Failure Value)
    (results : List (Except Failure Value)) :
    failuresFrom index (r :: results) = failuresFrom index [r] ++ failuresFrom (index + 1) results := by
  cases r <;> rfl

/-- Running every extraction makes a warning for each that fails, in order, and no other. -/
theorem warnsFrom_runEach (hxs : ∀ x ∈ xs, x.extractor.SparesJournal) (id : CacheId)
    (source : Value) (index : Nat) (s : Session) :
    ∃ made failed, (runEach id source index xs).WarnsFrom s made ∧
      List.Forall₂ (Event.Notes s.journal.bound) made failed ∧
      ((∃ results, ((runEach id source index xs).run s).1 = .ok results ∧
          failed = failuresFrom index results) ∨
        ∃ f, f.isInterrupt = true ∧ ((runEach id source index xs).run s).1 = .error f) := by
  induction xs generalizing index s with
  | nil => exact ⟨[], [], warnsNot_pure [] s, .nil, Or.inl ⟨[], rfl, rfl⟩⟩
  | cons x xs ih =>
    obtain ⟨hx, hrest⟩ := List.forall_mem_cons.mp hxs
    rcases step_runEach hx id source index xs s with
      ⟨r, t, made, hrun, hwarnings, hbound, hnotes⟩ | ⟨f, hf, hends, hwarns⟩
    · obtain ⟨more, failed, hwarns, hmore, hresult⟩ := ih hrest (index + 1) t
      refine ⟨made ++ more, failuresFrom index [r] ++ failed,
        (hwarns.bind fun rest => warnsNot_pure (r :: rest)).after hwarnings hbound hrun,
        List.rel_append hnotes (hbound ▸ hmore), ?_⟩
      rw [hrun, run_bind_pure]
      rcases hresult with ⟨results, hok, rfl⟩ | ⟨f, hf, hends⟩
      · exact Or.inl ⟨r :: results, by rw [hok]; rfl, (failuresFrom_cons index r results).symm⟩
      · exact Or.inr ⟨f, hf, by rw [hends]; rfl⟩
    · exact ⟨[], [], hwarns, .nil, Or.inr ⟨f, hf, hends⟩⟩

/-- A call with several extractions makes the warnings that its failure tells of. -/
theorem warnsFrom_runAll (hxs : ∀ x ∈ xs, x.extractor.SparesJournal) (id : CacheId)
    (source : Value) (s : Session) :
    ∃ made failed, (runAll id source xs).WarnsFrom s made ∧
      Failure.TellsOf ((runAll id source xs).run s).1 failed ∧
      List.Forall₂ (Event.Notes s.journal.bound) made failed := by
  rcases xs with _ | ⟨x, xs⟩
  · exact ⟨[], [], warnsNot_pure source s, .answer source, .nil⟩
  · obtain ⟨made, failed, hwarns, hnotes, hresult⟩ := warnsFrom_runEach hxs id source 0 s
    refine ⟨made, failed, hwarns.bind fun results => ?_, ?_, hnotes⟩
    · split
      · exact warnsNot_pure _
      · exact warnsNot_pure _
      · exact warnsNot_ofExcept (.error _)
    · unfold runAll
      rcases hresult with ⟨results, hok, rfl⟩ | ⟨f, hf, hends⟩
      · rw [run_bind_of_ok (Prod.ext hok rfl)]
        cases failuresFrom 0 results with
        | nil => rcases valuesOf results with _ | ⟨only, _ | ⟨other, rest⟩⟩ <;> exact .answer _
        | cons first failures => exact .failure rfl
      · rw [run_bind_of_error (Prod.ext hends rfl)]
        exact .interrupt hf failed

theorem warnsFrom_runKeyed (hxs : ∀ x ∈ xs, x.extractor.SparesJournal) (id : CacheId)
    (source : Value) (keys : List Key) (s : Session) :
    ∃ made failed, (runKeyed id source keys xs).WarnsFrom s made ∧
      Failure.TellsOf ((runKeyed id source keys xs).run s).1 failed ∧
      List.Forall₂ (Event.Notes s.journal.bound) made failed := by
  obtain ⟨made, failed, hwarns, htells, hnotes⟩ := warnsFrom_runAll hxs id source s
  rw [runKeyed_eq]
  refine ⟨made, failed, hwarns.bind fun extracted => warnsNot_pure _, ?_, hnotes⟩
  rw [run_bind_pure]
  exact htells.map _

/-! ## Flat arguments -/

theorem warnsNot_compilePairs (id : CacheId) (arguments : List Argument) :
    (compilePairs id arguments).WarnsNot := by
  fun_induction compilePairs id arguments with
  | case1 q e rest ih =>
    exact (warnsNot_compile id q).bind fun p => ih.bind fun more => warnsNot_pure _
  | case2 arguments h => exact warnsNot_pure []

theorem warnsNot_ofArguments (id : CacheId) (arguments : List Argument) :
    (ofArguments id arguments).WarnsNot := by
  unfold ofArguments
  split
  · exact warnsNot_ofExcept (.error _)
  · exact warnsNot_compilePairs id arguments

/-- The extractors are those among the arguments. -/
theorem extractor_mem_of_run_compilePairs {arguments : List Argument} {t : Session}
    (h : (compilePairs id arguments).run s = (.ok xs, t)) :
    ∀ x ∈ xs, .extractor x.extractor ∈ arguments := by
  fun_induction compilePairs id arguments generalizing s xs with
  | case1 q e rest ih =>
    obtain ⟨p, u, -, h⟩ := run_bind_eq_ok h
    obtain ⟨more, v, hmore, h⟩ := run_bind_eq_ok h
    cases h
    intro x hx
    rcases List.mem_cons.mp hx with rfl | hx
    · exact List.mem_cons_of_mem _ List.mem_cons_self
    · exact List.mem_cons_of_mem _ (List.mem_cons_of_mem _ (ih hmore x hx))
  | case2 arguments h' =>
    cases h
    exact fun x hx => absurd hx List.not_mem_nil

theorem extractor_mem_of_run_ofArguments {arguments : List Argument} {t : Session}
    (h : (ofArguments id arguments).run s = (.ok xs, t)) :
    ∀ x ∈ xs, .extractor x.extractor ∈ arguments := by
  unfold ofArguments at h
  split at h
  · cases h
  · exact extractor_mem_of_run_compilePairs h

/-- An error of syntax lists no failures. -/
theorem listed_of_className {f : Failure} (h : f.className = "SelectorSyntaxError") :
    f.listed = [] := by
  cases f with
  | extractionsFailed total failures =>
    rw [Failure.className] at h
    split at h <;> simp at h
  | _ => rfl

theorem className_of_run_compile {q : Query} {f : Failure}
    (h : ((compile id q).run s).1 = .error f) : f.className = "SelectorSyntaxError" := by
  obtain ⟨journal, hrun⟩ := run_compile id q s
  rw [hrun] at h
  exact Cache.className_of_compile h

theorem listed_of_run_compilePairs {arguments : List Argument} {f : Failure}
    (h : ((compilePairs id arguments).run s).1 = .error f) : f.listed = [] := by
  fun_induction compilePairs id arguments generalizing s with
  | case1 q e rest ih =>
    rw [run_bind] at h
    rcases hp : (compile id q).run s with ⟨g | p, t⟩
    · rw [hp] at h
      cases h
      exact listed_of_className (className_of_run_compile (congrArg Prod.fst hp))
    · rw [hp] at h
      simp only [run_bind_pure] at h
      refine ih (s := t) ?_
      rcases hmore : ((compilePairs id rest).run t).1 with g | more
      · rw [hmore] at h
        exact h
      · rw [hmore] at h
        cases h
  | case2 arguments h' => cases h

theorem listed_of_run_ofArguments {arguments : List Argument} {f : Failure} {t : Session}
    (h : (ofArguments id arguments).run s = (.error f, t)) : f.listed = [] := by
  unfold ofArguments at h
  split at h
  · cases h
    rfl
  · exact listed_of_run_compilePairs (congrArg Prod.fst h)

variable {arguments : List Argument}

/-- A call makes the warnings that its failure tells of. -/
theorem warnsFrom_extract (hspare : ∀ e, .extractor e ∈ arguments → e.SparesJournal)
    (id : CacheId) (source : Value) (keys : List Key) (s : Session) :
    ∃ made failed, (extract id source keys arguments).WarnsFrom s made ∧
      Failure.TellsOf ((extract id source keys arguments).run s).1 failed ∧
      List.Forall₂ (Event.Notes s.journal.bound) made failed := by
  have hcompiles := warnsNot_ofArguments id arguments s
  rcases hrun : (ofArguments id arguments).run s with ⟨f | xs, t⟩
  · refine ⟨[], [], hcompiles.bind_of_error (congrArg Prod.fst hrun), ?_, .nil⟩
    rw [extract, run_bind_of_error hrun]
    exact Failure.tellsOf_nil (listed_of_run_ofArguments hrun)
  · obtain ⟨hwarnings, hbound⟩ := hcompiles
    rw [hrun] at hwarnings hbound
    have hxs : ∀ x ∈ xs, x.extractor.SparesJournal := fun x hx =>
      hspare _ (extractor_mem_of_run_ofArguments hrun x hx)
    obtain ⟨made, failed, hwarns, htells, hnotes⟩ := warnsFrom_runKeyed hxs id source keys t
    refine ⟨made, failed, hwarns.after hwarnings hbound (run_bind_of_ok hrun), ?_, hbound ▸ hnotes⟩
    rw [extract, run_bind_of_ok hrun]
    exact htells

/-! ## Narrowed calls -/

/-- The keys of the bound fields are all different. -/
def BindsOnce (s : Session) : Prop := (s.journal.bound.map Prod.fst).Nodup

/-- While a field is bound an action makes the warnings that its failure tells of, with the field among
what was bound. Afterwards the fields are bound as before. -/
theorem warns_withBound {a : Action α} (hs : BindsOnce s) (name : String) (v : Value)
    (ha : ∀ t, ∃ made failed, a.WarnsFrom t made ∧ Failure.TellsOf (a.run t).1 failed ∧
      List.Forall₂ (Event.Notes t.journal.bound) made failed) :
    ∃ made failed,
      ((withBound [(name, v)] a).run s).2.journal.warnings = s.journal.warnings ++ made ∧
      ((withBound [(name, v)] a).run s).2.journal.bound.Perm s.journal.bound ∧
      Failure.TellsOf ((withBound [(name, v)] a).run s).1 failed ∧
      List.Forall₂ (Event.Notes (s.journal.bound.put name v)) made failed := by
  obtain ⟨made, failed, ⟨hwarnings, hbound⟩, htells, hnotes⟩ :=
    ha { s with journal := s.journal.bind [(name, v)] }
  have hsaved : (s.journal.bound.filter fun p => (Mapping.find? [(name, v)] p.1).isSome)
      = s.journal.bound.filter fun p => p.1 == name := by
    refine List.filter_congr fun p _ => ?_
    by_cases hp : name = p.1
    · simp [Mapping.find?, hp]
    · simp [Mapping.find?, hp, Ne.symm hp]
  rw [run_withBound_eq]
  refine ⟨made, failed, hwarnings, ?_, htells, hnotes⟩
  show (Mapping.putAll (Mapping.remove (a.run _).2.journal.bound name) _).Perm _
  rw [hbound, hsaved]
  exact Mapping.restored_perm hs name v

/-- Extracting from sources in turn, counted from a given number, comes to one that fails: those before
it are extracted from, and this one is not. The sessions are those at the start, before the one that
fails and at the end. -/
structure StopsAt (id : CacheId) (keys : List Key) (xs : List Extraction) (start : Nat)
    (sources : List Value) (i : Nat) (f : Failure) (s u t : Session) : Prop where
  before : ∃ records, (extractEach id keys xs start (sources.take i)).run s = (.ok records, u)
  here : ∃ source, sources[i]? = some source ∧
    (withBound [("record", .whole ↑(start + i))] (runKeyed id source keys xs)).run u = (.error f, t)

theorem StopsAt.later {start i : Nat} {source v : Value} {sources : List Value} {f : Failure}
    {t u w : Session} (h : StopsAt id keys xs (start + 1) sources i f t u w)
    (hrun : (withBound [("record", .whole start)] (runKeyed id source keys xs)).run s = (.ok v, t)) :
    StopsAt id keys xs start (source :: sources) (i + 1) f s u w := by
  obtain ⟨⟨records, hbefore⟩, sub, hsub, hhere⟩ := h
  refine ⟨⟨v :: records, ?_⟩, sub, hsub, ?_⟩
  · rw [List.take_succ_cons, extractEach, run_bind_of_ok hrun, run_bind_pure, hbefore]
    rfl
  · rwa [show start + (i + 1) = start + 1 + i by omega]

/-- Extracting from sources in turn makes warnings for the first that fails only. -/
theorem warns_extractEach (hxs : ∀ x ∈ xs, x.extractor.SparesJournal) (hs : BindsOnce s)
    (id : CacheId) (keys : List Key) (start : Nat) (sources : List Value) {t : Session}
    {r : Except Failure (List Value)} (hrun : (extractEach id keys xs start sources).run s = (r, t)) :
    ∃ made, t.journal.warnings = s.journal.warnings ++ made ∧
      t.journal.bound.Perm s.journal.bound ∧
      ((∃ records, r = .ok records ∧ made = []) ∨
        ∃ i f u failed, r = .error f ∧ StopsAt id keys xs start sources i f s u t ∧
          Failure.TellsOf r failed ∧
          List.Forall₂ (Event.Notes (u.journal.bound.put "record" (.whole ↑(start + i)))) made
            failed) := by
  induction sources generalizing start s t r with
  | nil =>
    cases hrun
    exact ⟨[], (List.append_nil _).symm, .refl _, Or.inl ⟨[], rfl, rfl⟩⟩
  | cons source sources ih =>
    obtain ⟨made, failed, hwarnings, hbound, htells, hnotes⟩ := warns_withBound hs "record" (.whole start)
      (warnsFrom_runKeyed hxs id source keys)
    rcases hhere : (withBound [("record", .whole start)] (runKeyed id source keys xs)).run s
      with ⟨f | v, u⟩
    · rw [hhere] at hwarnings hbound htells
      rw [extractEach, run_bind_of_error hhere] at hrun
      cases hrun
      refine ⟨made, hwarnings, hbound, Or.inr ⟨0, f, s, failed, rfl,
        ⟨⟨[], rfl⟩, source, rfl, hhere⟩, ?_, hnotes⟩⟩
      cases htells with
      | failure h => exact .failure h
      | interrupt h failed => exact .interrupt h failed
    · -- the first source made no warnings, and the fields are bound as before
      rw [hhere] at hwarnings hbound htells
      obtain rfl : made = [] := by
        cases htells
        exact List.forall₂_nil_right_iff.mp hnotes
      have hu : BindsOnce u := (hbound.map Prod.fst).nodup_iff.mpr hs
      rcases hlater : (extractEach id keys xs (start + 1) sources).run u with ⟨rest, w⟩
      rw [extractEach, run_bind_of_ok hhere, run_bind_pure, hlater] at hrun
      cases hrun
      obtain ⟨more, hmore, hrestored, hrest⟩ := ih hu (start + 1) hlater
      refine ⟨more, by rw [hmore, hwarnings, List.append_nil], hrestored.trans hbound, ?_⟩
      rcases hrest with ⟨records, rfl, hnone⟩ | ⟨i, f, w, failed, rfl, hstops, htells, hnotes⟩
      · exact Or.inl ⟨v :: records, rfl, hnone⟩
      · refine Or.inr ⟨i + 1, f, w, failed, rfl, hstops.later hhere, htells.map _, ?_⟩
        rwa [show start + (i + 1) = start + 1 + i by omega]

theorem warns_extractFrom (hspare : ∀ e, .extractor e ∈ arguments → e.SparesJournal)
    (hs : BindsOnce s) (id : CacheId) (source : Value) (q : Query) (keys : List Key) {t : Session}
    {r : Except Failure (List Value)}
    (hrun : (extractFrom id source q keys arguments).run s = (r, t)) :
    ∃ made, t.journal.warnings = s.journal.warnings ++ made ∧
      t.journal.bound.Perm s.journal.bound ∧
      ((∃ records, r = .ok records ∧ made = []) ∨
        (∃ f, r = .error f ∧ made = [] ∧
          (ofArguments id arguments >>= fun _ => select id q source).run s = (.error f, t)) ∨
        ∃ xs sources t₁ t₂, (ofArguments id arguments).run s = (.ok xs, t₁) ∧
          (select id q source).run t₁ = (.ok sources, t₂) ∧
          ∃ i f u failed, r = .error f ∧ StopsAt id keys xs 0 sources i f t₂ u t ∧
            Failure.TellsOf r failed ∧
            List.Forall₂ (Event.Notes (u.journal.bound.put "record" (.whole i))) made failed) := by
  obtain ⟨hwarnings, hbound⟩ := warnsNot_ofArguments id arguments s
  rcases hargs : (ofArguments id arguments).run s with ⟨f | xs, t₁⟩
  · rw [hargs] at hwarnings hbound
    rw [extractFrom, run_bind_of_error hargs] at hrun
    cases hrun
    exact ⟨[], hwarnings, hbound ▸ .refl _, Or.inr (Or.inl ⟨f, rfl, rfl, run_bind_of_error hargs⟩)⟩
  · rw [hargs] at hwarnings hbound
    rw [extractFrom, run_bind_of_ok hargs] at hrun
    obtain ⟨hwarnings', hbound'⟩ := warnsNot_select id q source t₁
    rw [hwarnings, List.append_nil] at hwarnings'
    rw [hbound] at hbound'
    rcases hselect : (select id q source).run t₁ with ⟨f | sources, t₂⟩
    · rw [hselect] at hwarnings' hbound'
      rw [run_bind_of_error hselect] at hrun
      cases hrun
      exact ⟨[], hwarnings', hbound' ▸ .refl _, Or.inr (Or.inl ⟨f, rfl, rfl,
        (run_bind_of_ok hargs).trans hselect⟩)⟩
    · rw [hselect] at hwarnings' hbound'
      rw [run_bind_of_ok hselect] at hrun
      have hxs : ∀ x ∈ xs, x.extractor.SparesJournal := fun x hx =>
        hspare _ (extractor_mem_of_run_ofArguments hargs x hx)
      have ht₂ : BindsOnce t₂ := by
        rw [BindsOnce, hbound']
        exact hs
      obtain ⟨made, hmade, hrestored, hrest⟩ := warns_extractEach hxs ht₂ id keys 0 sources hrun
      refine ⟨made, by rw [hmade, hwarnings', List.append_nil], hbound' ▸ hrestored, ?_⟩
      rcases hrest with hok | ⟨i, f, u, failed, hfail, hstops, htells, hnotes⟩
      · exact Or.inl hok
      · rw [Nat.zero_add] at hnotes
        exact Or.inr (Or.inr ⟨xs, sources, t₁, t₂, rfl, hselect, i, f, u, failed, hfail, hstops,
          htells, hnotes⟩)

end Extraction

end MarkupQuery
