import Mathlib.Logic.Function.Basic
import MarkupQuery.Engine
import MarkupQuery.Proofs.Extraction.Confined
import MarkupQuery.Proofs.Session.Transparency

/-!
# Engines are isolated

Engines with different caches work in one session, and their steps follow one another in any order.
A step goes by its own engine, the cache of that engine and the settings, and changes nothing that
another engine could notice. So an engine gives the answers that it gives when its own steps are run
alone, failures and counts included, and a cache that no engine has stays as it is.

The callers' functions must not undermine this: those handed to one engine keep to that engine, as do
its feeds, and extractors make no use of the session themselves. Nor may an engine be given the shared
cache, if that is to stay as it is (`World.engines_meet_outside`).

Main statement: `World.engines_are_isolated`.
-/

namespace MarkupQuery

variable {ι σ α β : Type} {seen : ι → Trace → σ} {i : ι}

namespace EngineAction

/-- The answer of an action, with the engine and the session that it leaves. -/
def runIn (m : EngineAction α) (e : Engine) (s : Session) : (α × Engine) × Session := (m.run e).run s

theorem runIn_bind (m : EngineAction α) (f : α → EngineAction β) (e : Engine) (s : Session) :
    (m >>= f).runIn e s
      = (f (m.runIn e s).1.1).runIn (m.runIn e s).1.2 (m.runIn e s).2 := rfl

/-- What an action of an engine does is confined to a party and to the cache of the engine, which
stays the engine's. -/
structure Confined (seen : ι → Trace → σ) (i : ι) (m : EngineAction α) : Prop where
  same : ∀ (e : Engine) (s t : Session), s.Faithful → s.SameFor (seen i) e.cache t →
    (m.runIn e s).1 = (m.runIn e t).1 ∧
      (m.runIn e s).2.SameFor (seen i) e.cache (m.runIn e t).2
  cache : ∀ (e : Engine) (s : Session), (m.runIn e s).1.2.cache = e.cache
  changed : ∀ (e : Engine) (s : Session), s.Faithful →
    s.ChangedFor seen i e.cache (m.runIn e s).2
  faithful : ∀ (e : Engine) (s : Session), s.Faithful → (m.runIn e s).2.Faithful

theorem Confined.bind {m : EngineAction α} {f : α → EngineAction β} (hm : m.Confined seen i)
    (hf : ∀ a, (f a).Confined seen i) : (m >>= f).Confined seen i where
  same e s t hs hst := by
    obtain ⟨hanswer, hafter⟩ := hm.same e s t hs hst
    have hs' := hm.faithful e s hs
    rw [← hm.cache e t] at hafter
    have hnext := (hf (m.runIn e t).1.1).same _ _ _ hs' hafter
    rw [hm.cache e t] at hnext
    rw [runIn_bind, runIn_bind, hanswer]
    exact hnext
  cache e s := by
    rw [runIn_bind, (hf _).cache, hm.cache]
  changed e s hs := by
    have hnext := (hf (m.runIn e s).1.1).changed (m.runIn e s).1.2 _ (hm.faithful e s hs)
    rw [hm.cache] at hnext
    rw [runIn_bind]
    exact (hm.changed e s hs).trans hnext
  faithful e s hs := (hf _).faithful _ _ (hm.faithful e s hs)

theorem confined_pure (a : α) : (pure a : EngineAction α).Confined seen i :=
  ⟨fun _ _ _ _ h => ⟨rfl, h⟩, fun _ _ => rfl, fun _ s _ => .refl s, fun _ _ hs => hs⟩

theorem Confined.map {m : EngineAction α} (hm : m.Confined seen i) (f : α → β) :
    (f <$> m).Confined seen i := by
  rw [map_eq_pure_bind]
  exact hm.bind fun a => confined_pure (f a)

theorem confined_count (change : Metrics → Metrics) :
    (Engine.count change).Confined seen i :=
  ⟨fun _ _ _ _ h => ⟨rfl, h⟩, fun _ _ => rfl, fun _ s _ => .refl s, fun _ _ hs => hs⟩

/-- Reading what a party can tell from an engine and its session. -/
theorem confined_read {m : EngineAction α} (g : Engine → Session → α)
    (hm : ∀ e s, m.runIn e s = ((g e s, e), s))
    (hg : ∀ (e : Engine) (s t : Session), s.SameFor (seen i) e.cache t → g e s = g e t) :
    m.Confined seen i where
  same e s t _ hst := by
    rw [hm, hm, hg e s t hst]
    exact ⟨rfl, hst⟩
  cache e s := by rw [hm]
  changed e s _ := by
    rw [hm]
    exact .refl s
  faithful e s hs := by rwa [hm]

/-- An action of the session that is confined to the engine's cache. -/
theorem confined_perform {f : Engine → Action α} (hf : ∀ e, (f e).Confined seen i e.cache) :
    (do Engine.perform (f (← get))).Confined seen i where
  same e s t hs hst := by
    obtain ⟨hanswer, hafter⟩ := (hf e).same s t hs hst
    exact ⟨congrArg (·, e) hanswer, hafter⟩
  cache _ _ := rfl
  changed e s hs := (hf e).changed s hs
  faithful e s hs := (hf e).faithful s hs

end EngineAction

namespace Engine

open EngineAction

theorem confined_parserName : parserName.Confined seen i :=
  confined_read (fun e s => (e.settings.getD s.settings).backend.name) (fun _ _ => rfl)
    fun _ _ _ h => by rw [h.settings]

theorem confined_reset : reset.Confined seen i where
  same e s t hs hst := by
    refine ⟨rfl, ?_⟩
    show (s.setCache e.cache (s.cache e.cache).clear).SameFor _ _
      (t.setCache e.cache (t.cache e.cache).clear)
    rw [hst.cache]
    exact hst.setCache _
  cache _ _ := rfl
  changed e s _ := s.changedFor_setCache _
  faithful e s hs := hs.setCache e.cache (s.cache e.cache).faithful_clear

end Engine

/-! ## Steps of an engine -/

/-- What an engine can be asked for. -/
inductive EngineStep where
  | parse (markup : Option String)
  | parseFragment (markup : Option String)
  | select (q : Query) (source : Value)
  | runOn (source : Value) (x : Extraction)
  | extract (source : Value) (keys : List Key) (arguments : List Argument)
  | extractFrom (source : Value) (q : Query) (keys : List Key) (arguments : List Argument)
  | reset
  | contains (q : Query)
  | metrics

/-- What an engine answers: values or a failure, whether its cache has an entry, its counts with the
statistics of its cache, or nothing. -/
inductive EngineAnswer where
  | value (result : Except Failure Value)
  | values (result : Except Failure (List Value))
  | done
  | entry (found : Bool)
  | metrics (counts : Metrics) (stats : CacheStats)

namespace EngineStep

/-- An engine makes a step. -/
def run : EngineStep → EngineAction EngineAnswer
  | .parse markup => .value <$> Engine.parse markup
  | .parseFragment markup => .value <$> Engine.parseFragment markup
  | .select q source => .values <$> Engine.select q source
  | .runOn source x => .value <$> Engine.runOn source x
  | .extract source keys arguments => .value <$> Engine.extract source keys arguments
  | .extractFrom source q keys arguments => .values <$> Engine.extractFrom source q keys arguments
  | .reset => (fun _ => .done) <$> Engine.reset
  | .contains q => (fun found => .entry found.1) <$> Engine.contains q
  | .metrics => do pure (.metrics (← get).metrics (← Engine.cacheStats))

/-- The callers' functions and the sources that a step is given keep to a party. -/
def KeepsTo (seen : ι → Trace → σ) (i : ι) : EngineStep → Prop
  | .select q source => q.KeepsTo seen i ∧ source.KeepsTo seen i
  | .runOn source x => x.KeepsTo seen i ∧ source.KeepsTo seen i
  | .extract source _ arguments => (∀ x ∈ arguments, x.KeepsTo seen i) ∧ source.KeepsTo seen i
  | .extractFrom source q _ arguments =>
    q.KeepsTo seen i ∧ (∀ x ∈ arguments, x.KeepsTo seen i) ∧ source.KeepsToWithin seen i
  | _ => True

open EngineAction

/-- A step whose functions keep to a party is confined to it. -/
theorem confined_run {u : EngineStep} (hu : u.KeepsTo seen i) : u.run.Confined seen i := by
  cases u with
  | parse markup =>
    refine ((confined_count _).bind fun _ => Engine.confined_parserName.bind fun name => ?_).map _
    exact confined_perform fun e => Markup.confined_parse markup (some name)
  | parseFragment markup =>
    refine ((confined_count _).bind fun _ => Engine.confined_parserName.bind fun name => ?_).map _
    exact confined_perform fun e => Markup.confined_parseFragment markup (some name)
  | select q source =>
    refine Confined.map ?_ _
    unfold Engine.select
    rw [← bind_assoc]
    refine (confined_perform fun e => confined_select hu.1 hu.2).bind fun result => ?_
    cases result with
    | ok found => exact (confined_count _).bind fun _ => confined_pure _
    | error f => exact confined_pure _
  | runOn source x =>
    refine ((confined_count _).bind fun _ => ?_).map _
    exact confined_perform fun e => Extraction.confined_run hu.1 hu.2
  | extract source keys arguments =>
    refine ((confined_count _).bind fun _ => ?_).map _
    exact confined_perform fun e => confined_extract hu.1 hu.2 keys
  | extractFrom source q keys arguments =>
    refine ((confined_count _).bind fun _ => ?_).map _
    refine confined_perform fun e => ?_
    refine (confined_extractFrom hu.1 hu.2.1 hu.2.2 keys).bind fun records => ?_
    exact (Action.confined_log _ _ _ _).bind fun _ => Action.confined_pure records
  | reset => exact Engine.confined_reset.map _
  | contains q =>
    refine confined_read (fun e s => .entry ((s.cache e.cache).contains q)) (fun _ _ => rfl) ?_
    exact fun e s t h => by rw [h.cache]
  | metrics =>
    refine confined_read (fun e s => .metrics e.metrics (s.cacheStats e.cache)) (fun _ _ => rfl) ?_
    exact fun e s t h => by rw [Session.cacheStats, Session.cacheStats, h.cache, h.settings]

end EngineStep

/-! ## Engines in one session -/

/-- A session and the engines that work in it. -/
structure World (ι : Type) where
  session : Session
  engines : ι → Engine

namespace World

variable [DecidableEq ι] {w w' w'' : World ι} {j : ι} {u : EngineStep}

/-- One engine makes a step. -/
def step (w : World ι) (i : ι) (u : EngineStep) : EngineAnswer × World ι :=
  let after := u.run.runIn (w.engines i) w.session
  (after.1.1, ⟨after.2, Function.update w.engines i after.1.2⟩)

/-- Engines make steps in the order of a schedule. Every answer is listed with the engine that gave
it. -/
def run (w : World ι) : List (ι × EngineStep) → List (ι × EngineAnswer) × World ι
  | [] => ([], w)
  | (i, u) :: rest =>
    let (answer, w') := w.step i u
    let (answers, w'') := w'.run rest
    ((i, answer) :: answers, w'')

/-- The entries of every cache are what their keys compile to, and no two engines share a cache. -/
structure OwnCaches (w : World ι) : Prop where
  faithful : w.session.Faithful
  distinct : Function.Injective fun i => (w.engines i).cache

/-- An engine cannot tell two worlds apart. -/
structure SameFor (seen : ι → Trace → σ) (i : ι) (w w' : World ι) : Prop where
  engine : w.engines i = w'.engines i
  session : w.session.SameFor (seen i) (w.engines i).cache w'.session

omit [DecidableEq ι] in
theorem SameFor.trans (h : w.SameFor seen i w') (h' : w'.SameFor seen i w'') :
    w.SameFor seen i w'' :=
  ⟨h.engine.trans h'.engine, h.session.trans (h.engine ▸ h'.session)⟩

theorem cache_step (hu : u.KeepsTo seen i) (w : World ι) (j : ι) :
    ((w.step i u).2.engines j).cache = (w.engines j).cache := by
  show (Function.update w.engines i _ j).cache = _
  by_cases hij : j = i
  · subst hij
    rw [Function.update_self]
    exact (EngineStep.confined_run hu).cache _ _
  · rw [Function.update_of_ne hij]

theorem OwnCaches.step (hw : w.OwnCaches) (hu : u.KeepsTo seen i) : (w.step i u).2.OwnCaches where
  faithful := (EngineStep.confined_run hu).faithful _ _ hw.faithful
  distinct := by
    simp only [cache_step hu]
    exact hw.distinct

/-- A step of its own goes for an engine as it goes in any world that it cannot tell apart. -/
theorem SameFor.step (h : w.SameFor seen i w') (hw : w.OwnCaches) (hu : u.KeepsTo seen i) :
    (w.step i u).1 = (w'.step i u).1 ∧ (w.step i u).2.SameFor seen i (w'.step i u).2 := by
  obtain ⟨hanswer, hafter⟩ :=
    (EngineStep.confined_run hu).same (w.engines i) w.session w'.session hw.faithful h.session
  refine ⟨?_, ?_, ?_⟩
  · show (u.run.runIn (w.engines i) w.session).1.1 = (u.run.runIn (w'.engines i) w'.session).1.1
    rw [hanswer, h.engine]
  · show Function.update w.engines i _ i = Function.update w'.engines i _ i
    rw [Function.update_self, Function.update_self, hanswer, h.engine]
  · rw [cache_step hu]
    have hsession : (w'.step i u).2.session = (u.run.runIn (w.engines i) w'.session).2 := by
      rw [h.engine]
      rfl
    rw [hsession]
    exact hafter

/-- Of a step of another engine an engine notices nothing. -/
theorem sameFor_step (hw : w.OwnCaches) (hu : u.KeepsTo seen j) (hij : i ≠ j) :
    (w.step j u).2.SameFor seen i w where
  engine := Function.update_of_ne hij _ _
  session := by
    rw [cache_step hu]
    exact ((EngineStep.confined_run hu).changed _ _ hw.faithful).sameFor hij
      fun h => hij (hw.distinct h)

theorem run_cons (w : World ι) (i : ι) (u : EngineStep) (rest : List (ι × EngineStep)) :
    w.run ((i, u) :: rest)
      = ((i, (w.step i u).1) :: ((w.step i u).2.run rest).1, ((w.step i u).2.run rest).2) := rfl

/-- In two worlds that it cannot tell apart an engine answers the same, with other engines at work in
one of them and alone in the other. -/
theorem SameFor.run {schedule : List (ι × EngineStep)}
    (hcalls : ∀ x ∈ schedule, x.2.KeepsTo seen x.1) (hw : w.OwnCaches) (h : w.SameFor seen i w') :
    (w.run schedule).1.filter (·.1 = i) = (w'.run (schedule.filter (·.1 = i))).1 := by
  induction schedule generalizing w w' with
  | nil => rfl
  | cons x rest ih =>
    obtain ⟨j, u⟩ := x
    have hu : u.KeepsTo seen j := hcalls _ List.mem_cons_self
    have hrest := fun x hx => hcalls x (List.mem_cons_of_mem _ hx)
    by_cases hji : j = i
    · subst hji
      obtain ⟨hanswer, hafter⟩ := h.step hw hu
      rw [run_cons, List.filter_cons_of_pos (by simp), List.filter_cons_of_pos (by simp), run_cons,
        hanswer, ih hrest (hw.step hu) hafter]
    · -- the other world makes no step, and is still the same for this engine
      have hafter := (sameFor_step hw hu (Ne.symm hji)).trans h
      rw [run_cons, List.filter_cons_of_neg (by simpa using hji),
        List.filter_cons_of_neg (by simpa using hji)]
      exact ih hrest (hw.step hu) hafter

/-- A run leaves the settings as they are, and every cache that no engine has. -/
theorem run_elsewhere {schedule : List (ι × EngineStep)}
    (hcalls : ∀ x ∈ schedule, x.2.KeepsTo seen x.1) (hw : w.OwnCaches) {id : CacheId}
    (hid : ∀ i, (w.engines i).cache ≠ id) :
    (w.run schedule).2.session.settings = w.session.settings ∧
      (w.run schedule).2.session.cache id = w.session.cache id := by
  induction schedule generalizing w with
  | nil => exact ⟨rfl, rfl⟩
  | cons x rest ih =>
    obtain ⟨j, u⟩ := x
    have hu : u.KeepsTo seen j := hcalls _ List.mem_cons_self
    have hchanged := (EngineStep.confined_run hu).changed (w.engines j) _ hw.faithful
    obtain ⟨hsettings, hcache⟩ := ih (fun x hx => hcalls x (List.mem_cons_of_mem _ hx)) (hw.step hu)
      (fun i => (cache_step hu w i).symm ▸ hid i)
    exact ⟨hsettings.trans hchanged.settings, hcache.trans (hchanged.caches id (hid j).symm)⟩

/-- **Engines are isolated.** Whatever other engines do in between, an engine answers as it does when
its own steps are run alone, and a cache that no engine has keeps its entries and its statistics. The
shared cache is such a cache unless an engine was given it. -/
theorem engines_are_isolated {seen : ι → Trace → σ} {w : World ι} (hfaithful : w.session.Faithful)
    (hdistinct : Function.Injective fun i => (w.engines i).cache)
    {schedule : List (ι × EngineStep)} (hcalls : ∀ x ∈ schedule, x.2.KeepsTo seen x.1) :
    (∀ i, (w.run schedule).1.filter (·.1 = i) = (w.run (schedule.filter (·.1 = i))).1) ∧
    ∀ id, (∀ i, (w.engines i).cache ≠ id) →
      (w.run schedule).2.session.cache id = w.session.cache id ∧
      (w.run schedule).2.session.cacheStats id = w.session.cacheStats id := by
  have hw : w.OwnCaches := ⟨hfaithful, hdistinct⟩
  refine ⟨fun i => SameFor.run hcalls hw ⟨rfl, rfl, rfl, rfl, rfl⟩, fun id hid => ?_⟩
  obtain ⟨hsettings, hcache⟩ := run_elsewhere hcalls hw hid
  refine ⟨hcache, ?_⟩
  rw [Session.cacheStats, Session.cacheStats, hsettings, hcache]

/-- Two engines, one with a test that notes what it was shown, and the other with a query that does
not compile. -/
theorem engines_are_isolated_noting_and_failing :
    ∃ (w : World Bool) (schedule : List (Bool × EngineStep)),
      (w.run schedule).1.filter (·.1 = true) = (w.run (schedule.filter (·.1 = true))).1 ∧
      (w.run (schedule.filter (·.1 = true))).1.length = 3 ∧
      (w.run schedule).2.session.cache .shared = {} := by
  let name : Bool → String := fun b => if b then "second" else "first"
  have hname : Function.Injective name := by
    unfold Function.Injective
    decide
  let seen : Bool → Trace → List Sighting := fun b trace =>
    trace.toList.filter fun sighting => sighting.observer == name b
  let spy : Callback := ⟨fun s => do Probe.note (name false) s.value; pure (.truth true), "spy"⟩
  let tree : Value := .node (.element "ul" none [.element "li" none [.text "a"]])
  let w : World Bool :=
    { session := ((Session.openCache {} (some true)).2.openCache none).2
      engines := fun b => { settings := none, cache := .opened (if b then 1 else 0) } }
  let schedule : List (Bool × EngineStep) :=
    [(false, .select (.callback spy) tree), (true, .runOn tree ⟨.text "li", .compose [.node, .text]⟩),
      (true, .select (.text "li.") tree), (false, .reset), (true, .metrics)]
  have hfaithful : w.session.Faithful := (Session.faithful_default.openCache _).openCache _
  have hdistinct : Function.Injective fun b => (w.engines b).cache := by
    unfold Function.Injective
    decide
  have hcalls : ∀ x ∈ schedule, x.2.KeepsTo seen x.1 := by
    simp only [schedule, List.forall_mem_cons, List.not_mem_nil, false_implies, implies_true, and_true]
    have htree : ∀ b, tree.KeepsTo seen b := fun b => Value.keepsTo_node _
    refine ⟨⟨Query.keepsTo_callback fun s => ?_, htree _⟩, ⟨⟨Query.keepsTo_text _, ?_⟩, htree _⟩,
      ⟨Query.keepsTo_text _, htree _⟩, trivial, trivial⟩
    · exact (Probe.keepsTo_note hname false s.value).bind fun _ => Probe.keepsTo_pure _
    · refine Extractor.keepsTo_compose ?_
      simp only [List.forall_mem_cons, List.not_mem_nil, false_implies, implies_true, and_true]
      exact ⟨Extractor.keepsTo_ofFunction _ _, Extractor.keepsTo_ofFunction _ _⟩
  obtain ⟨hanswers, helsewhere⟩ := engines_are_isolated hfaithful hdistinct hcalls
  refine ⟨w, schedule, hanswers true, rfl, (helsewhere .shared ?_).1⟩
  decide

/-- Engines with different caches still meet in what callers hand to both of them: a test that holds at
its first call only takes the match from the engine that asks it second. And an engine that was given
the shared cache works on it. -/
theorem engines_meet_outside :
    ∃ (w : World Bool) (schedule : List (Bool × EngineStep)) (tree : Value),
      w.session.Faithful ∧ (Function.Injective fun b => (w.engines b).cache) ∧
      (w.run schedule).1.filter (·.1 = true) = [(true, .values (.ok []))] ∧
      (w.run (schedule.filter (·.1 = true))).1 = [(true, .values (.ok [tree]))] ∧
      w.session.cacheStats .shared ≠ (w.run schedule).2.session.cacheStats .shared := by
  let once : Query := .callback ⟨fun s => do
    let before := (← get).toList
    Probe.note "once" s.value
    pure (.truth before.isEmpty), "once"⟩
  let tree : Value := .node (.element "li" none [])
  let w : World Bool :=
    { session := (Session.openCache {} none).2
      engines := fun b => { settings := none, cache := if b then .opened 0 else .shared } }
  let schedule : List (Bool × EngineStep) :=
    [(false, .select once tree), (true, .select once tree), (false, .select (.text "li") tree)]
  refine ⟨w, schedule, tree, Session.faithful_default.openCache _, ?_, ?_, ?_, ?_⟩
  · unfold Function.Injective
    decide
  · with_unfolding_all rfl
  · with_unfolding_all rfl
  · -- the look-up in the shared cache is counted there
    decide +kernel

end World
end MarkupQuery
