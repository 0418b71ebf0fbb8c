import MarkupQuery.Proofs.Extraction.Agreement

/-!
# Caches are transparent

A history makes caches, compiles and selects through them, asks them, clears them and changes the
settings in between. Every step of a history keeps every cache faithful, so whatever came before, a
cache answers what the compiler answers, and a call has the same outcome through any cache in any
state.

Main statement: `Session.caches_are_transparent`.
-/

namespace MarkupQuery

/-- What can happen to the caches of a session, and around them. -/
inductive CacheUse where
  /-- A new cache, enabled or not, or as the settings say. -/
  | make (flag : Option Bool)
  | compile (id : CacheId) (q : Query)
  | select (id : CacheId) (q : Query) (source : Value)
  | selectFirst (id : CacheId) (q : Query) (source : Value)
  | advance (scan : Scan)
  | contains (id : CacheId) (q : Query)
  | stats (id : CacheId)
  | clear (id : CacheId)
  /-- Other settings, which may enable or disable caches. -/
  | configure (settings : Settings)
  /-- Whatever else is called in between. -/
  | elsewhere (trace : Trace) (journal : Journal)

namespace Session

/-- The session after something has happened to its caches. A failure is no reason to go back. -/
def use (s : Session) : CacheUse → Session
  | .make flag => (s.openCache flag).2
  | .compile id q => ((Action.compile id q).run s).2
  | .select id q source => ((MarkupQuery.select id q source).run s).2
  | .selectFirst id q source => ((MarkupQuery.selectFirst id q source).run s).2
  | .advance scan => (scan.advance.run s).2
  | .contains _ _ => s
  | .stats _ => s
  | .clear id => s.setCache id (s.cache id).clear
  | .configure settings => { s with settings }
  | .elsewhere trace journal => { s with trace, journal }

/-- The session after a history. -/
def after (s : Session) (history : List CacheUse) : Session := history.foldl use s

/-- Every cache is as it was made. -/
def IsFresh (s : Session) : Prop := ∀ id, ∃ flag, s.cache id = { flag }

/-- A history leads to a session from one with fresh caches. -/
def Reached (s : Session) : Prop := ∃ (start : Session) (history : List CacheUse),
  start.IsFresh ∧ start.after history = s

theorem IsFresh.faithful {s : Session} (h : s.IsFresh) : s.Faithful := by
  intro id
  obtain ⟨flag, hflag⟩ := h id
  rw [hflag]
  exact Cache.faithful_of_entries_eq_nil rfl

theorem Faithful.openCache {s : Session} (hs : s.Faithful) (flag : Option Bool) :
    (s.openCache flag).2.Faithful := by
  intro id
  cases id with
  | shared => exact hs .shared
  | opened i =>
    show ((s.opened ++ [({ flag } : Cache)])[i]?.getD {}).Faithful
    rw [List.getElem?_append]
    split
    · exact hs (.opened i)
    · -- the new cache, or none at all
      cases i - s.opened.length <;> exact Cache.faithful_of_entries_eq_nil rfl

theorem Faithful.use {s : Session} (hs : s.Faithful) (u : CacheUse) : (s.use u).Faithful := by
  cases u with
  | make flag => exact hs.openCache flag
  | compile id q => exact (Action.compile_agrees id q).left.faithful hs
  | select id q source => exact (select_agrees rfl id id source).left.faithful hs
  | selectFirst id q source => exact (selectFirst_agrees rfl id id source).left.faithful hs
  | advance scan => exact (Scan.ignoresCaches_advance scan).faithful hs
  | contains id q => exact hs
  | stats id => exact hs
  | clear id => exact hs.setCache id (s.cache id).faithful_clear
  | configure settings => exact hs.of_caches rfl rfl
  | elsewhere trace journal => exact hs.of_caches rfl rfl

theorem Faithful.after {s : Session} (hs : s.Faithful) (history : List CacheUse) :
    (s.after history).Faithful := by
  induction history generalizing s with
  | nil => exact hs
  | cons u history ih => exact ih (hs.use u)

theorem Reached.faithful {s : Session} (hs : s.Reached) : s.Faithful := by
  obtain ⟨start, history, hfresh, rfl⟩ := hs
  exact hfresh.faithful.after history

end Session

namespace Session

/-- **Caches are transparent.** After any history, compiling through a cache answers what the compiler
answers: the same selector, or the same failure, which is an error of the query's syntax. It makes no
difference that a cache compiles the elements of a chain and not the chain itself. So calls that go
through two caches, each in a session with a history of its own, have the same outcome. -/
theorem caches_are_transparent {s : Session} (hs : s.Reached) :
    (∀ id q, ((Action.compile id q).run s).1 = q.compile) ∧
    (∀ (q : Query) elements, q.normalise = .ok elements →
      (Query.ofElements elements).compile = q.compile) ∧
    (∀ (q : Query) f, q.compile = .error f → f.className = "SelectorSyntaxError") ∧
    ∀ t : Session, t.Reached → s.SameOutside t → ∀ (id id' : CacheId) (source : Value),
      (∀ q, (select id q source).AgreesFrom s t (select id' q source)) ∧
      (∀ q, (selectFirst id q source).AgreesFrom s t (selectFirst id' q source)) ∧
      (∀ x : Extraction, x.extractor.IgnoresCaches →
        (x.run id source).AgreesFrom s t (x.run id' source)) ∧
      (∀ xs : List Extraction, (∀ x ∈ xs, x.extractor.IgnoresCaches) →
        (Extraction.runAll id source xs).AgreesFrom s t (Extraction.runAll id' source xs)) ∧
      ∀ (keys : List Key) (arguments : List Argument),
        (∀ e, .extractor e ∈ arguments → e.IgnoresCaches) →
        (extract id source keys arguments).AgreesFrom s t (extract id' source keys arguments) ∧
        ∀ q, (extractFrom id source q keys arguments).AgreesFrom s t
          (extractFrom id' source q keys arguments) := by
  refine ⟨?_, fun q elements => Query.compile_ofElements, fun q f => Query.className_of_compile, ?_⟩
  · intro id q
    have h := (Action.compile_agrees id q s s hs.faithful.alike).1
    rwa [Action.run_ofExcept] at h
  · intro t ht hst id id' source
    have halike : s.Alike t := ⟨hst, hs.faithful, ht.faithful⟩
    refine ⟨fun q => ?_, fun q => ?_, fun x hx => ?_, fun xs hxs => ?_,
      fun keys arguments he => ⟨?_, fun q => ?_⟩⟩
    · exact (select_agrees rfl id id' source).agreesFrom halike
    · exact (selectFirst_agrees rfl id id' source).agreesFrom halike
    · exact (Extraction.run_agrees ⟨rfl, rfl, hx⟩ id id' source).agreesFrom halike
    · have hmatch := List.forall₂_same.mpr fun x hx => (⟨rfl, rfl, hxs x hx⟩ : Extraction.Matches x x)
      -- both are the runs in turn, gathered
      exact ((Extraction.runAll_agrees hmatch id id source).trans
        (Extraction.runAll_agrees hmatch id' id source).symm).agreesFrom halike
    · exact ((extract_agrees he id id source keys).trans
        (extract_agrees he id' id source keys).symm).agreesFrom halike
    · exact ((extractFrom_agrees he id id source q keys).trans
        (extractFrom_agrees he id' id source q keys).symm).agreesFrom halike

/-- A cache that has the query already, after a failure and a period of being disabled, against one
that was cleared and never used again. -/
theorem caches_are_transparent_two_histories :
    ∃ s t : Session, s.Reached ∧ t.Reached ∧ s.SameOutside t ∧
      ((Action.compile .shared (.text "li  a")).run s).1 = (Query.text "li  a").compile ∧
      (extract .shared (.node (.element "li" none [.element "a" none [.text "x"]])) []
        [.query (.text "li a"), .extractor .text]).AgreesFrom s t
      (extract (.opened 0) (.node (.element "li" none [.element "a" none [.text "x"]])) []
        [.query (.text "li a"), .extractor .text]) := by
  let used : Session := Session.after {}
    [.compile .shared (.list [.text "li", .text "a"]), .compile .shared (.text "li."),
      .configure { cacheEnabled := false }, .compile .shared (.text "li a")]
  let cleared : Session := Session.after {}
    [.make (some true), .compile (.opened 0) (.text "li a"), .clear (.opened 0)]
  have hfresh : IsFresh {} := fun id => ⟨none, by cases id <;> rfl⟩
  have hused : used.Reached := ⟨{}, _, hfresh, rfl⟩
  have hcleared : cleared.Reached := ⟨{}, _, hfresh, rfl⟩
  have houtside : used.SameOutside cleared := by
    constructor <;> simp [used, cleared, after, use, openCache]
  have hextractor : ∀ e, Argument.extractor e ∈ [.query (.text "li a"), .extractor Extractor.text] →
      e.IgnoresCaches := by
    intro e he
    obtain rfl : e = Extractor.text := by simpa using he
    exact Extractor.ignoresCaches_ofFunction _ _
  obtain ⟨hcompile, -, -, hcalls⟩ := caches_are_transparent hused
  exact ⟨used, cleared, hused, hcleared, houtside, hcompile .shared _,
    ((hcalls cleared hcleared houtside .shared (.opened 0) _).2.2.2.2 [] _ hextractor).1⟩

end Session
end MarkupQuery
