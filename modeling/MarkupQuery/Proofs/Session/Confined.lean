import MarkupQuery.Extraction.Pipeline
import MarkupQuery.Proofs.Selector.Outlook
import MarkupQuery.Proofs.Session.Alike

/-!
# Parties in one session

Several parties may work in one session, each with a cache of its own and with functions of its own
for the session to call. What a party can know of earlier calls of its functions is its view of the
trace; a family `seen` gives every party one. A function keeps to its party when it goes by that
view and leaves the views of all others as they are. With views that show nothing, this asks no more
than that answers do not depend on earlier calls.

An action is confined to a party and a cache when it goes by the party's view, that cache and the
settings, and changes nothing else that another party could notice. Confinement is kept by everything
that actions are built with. Compiling through a cache is confined to that cache, and gives selectors
that keep to a party when the callers' tests in the query do.
-/

namespace MarkupQuery

variable {ι σ α β : Type} {seen : ι → Trace → σ} {i : ι} {id : CacheId}

/-! ## Callers' functions -/

namespace Probe

/-- A function goes by what its party has seen, and other parties see nothing of it. -/
structure KeepsTo (seen : ι → Trace → σ) (i : ι) (x : Probe α) : Prop where
  own : ∀ trace trace', seen i trace = seen i trace' →
    (x.run trace).1 = (x.run trace').1 ∧ seen i (x.run trace).2 = seen i (x.run trace').2
  others : ∀ trace j, j ≠ i → seen j (x.run trace).2 = seen j trace

theorem keepsTo_pure (a : α) : (pure a : Probe α).KeepsTo seen i :=
  ⟨fun _ _ h => ⟨rfl, h⟩, fun _ _ _ => rfl⟩

theorem keepsTo_ofExcept (r : Except Failure α) : (ofExcept r).KeepsTo seen i := by
  cases r with
  | ok a => exact keepsTo_pure a
  | error f => exact ⟨fun _ _ h => ⟨rfl, h⟩, fun _ _ _ => rfl⟩

theorem KeepsTo.bind {x : Probe α} {f : α → Probe β} (hx : x.KeepsTo seen i)
    (hf : ∀ a, (f a).KeepsTo seen i) : (x >>= f).KeepsTo seen i where
  own trace trace' h := by
    obtain ⟨hanswer, hafter⟩ := hx.own trace trace' h
    rw [run_bind, run_bind]
    rcases hrun : x.run trace with ⟨r, after⟩
    rcases hrun' : x.run trace' with ⟨r', after'⟩
    rw [hrun, hrun'] at hanswer hafter
    obtain rfl : r = r' := hanswer
    cases r with
    | ok a => exact (hf a).own after after' hafter
    | error e => exact ⟨rfl, hafter⟩
  others trace j hj := by
    have hothers := hx.others trace j hj
    rw [run_bind]
    rcases hrun : x.run trace with ⟨_ | a, after⟩
    · rwa [hrun] at hothers
    · rw [hrun] at hothers
      exact ((hf a).others after j hj).trans hothers

theorem KeepsTo.map {x : Probe α} (hx : x.KeepsTo seen i) (f : α → β) :
    (f <$> x).KeepsTo seen i := by
  rw [map_eq_pure_bind]
  exact hx.bind fun a => keepsTo_pure (f a)

/-- A generator changes no more than a failure. -/
theorem KeepsTo.inGenerator {x : Probe α} (hx : x.KeepsTo seen i) : x.inGenerator.KeepsTo seen i where
  own trace trace' h := by
    obtain ⟨hanswer, hafter⟩ := hx.own trace trace' h
    rw [run_inGenerator, run_inGenerator, hanswer]
    exact ⟨rfl, hafter⟩
  others := hx.others

/-- A feed keeps to a party when whoever asks it does. -/
structure FeedKeepsTo (seen : ι → Trace → σ) (i : ι) (feed : Nat) : Prop where
  pull : (Probe.pull feed).KeepsTo seen i
  remaining : (Probe.remaining feed).KeepsTo seen i

/-- A note under a name of its own keeps to a party that looks at such notes. -/
theorem keepsTo_note {name : ι → String} (hname : Function.Injective name) (i : ι) (v : Value) :
    (note (name i) v).KeepsTo
      (fun j trace => trace.toList.filter fun sighting => sighting.observer == name j) i where
  own trace trace' h := by
    refine ⟨rfl, ?_⟩
    show (trace.push _).toList.filter _ = (trace'.push _).toList.filter _
    rw [Trace.toList_push, Trace.toList_push, List.filter_append, List.filter_append, h]
  others trace j hj := by
    have hne : (name i == name j) = false :=
      beq_eq_false_iff_ne.mpr fun h => hj (hname h).symm
    show (trace.push _).toList.filter _ = _
    rw [Trace.toList_push, List.filter_append, List.filter_singleton, hne, cond_false,
      List.append_nil]

end Probe

namespace Selector

/-- A selector keeps to a party wherever it is asked. -/
def KeepsTo (seen : ι → Trace → σ) (i : ι) (p : Selector) : Prop := ∀ s, (p.holds s).KeepsTo seen i

theorem KeepsTo.inGenerator {p : Selector} (hp : p.KeepsTo seen i) : p.inGenerator.KeepsTo seen i :=
  fun s => (hp s).inGenerator

theorem GoesByOutlook.keepsTo {p : Selector} (hp : p.GoesByOutlook) : p.KeepsTo seen i := by
  intro s
  obtain ⟨b, hb, -⟩ := hp s s rfl
  rw [hb]
  exact Probe.keepsTo_pure b

theorem keepsTo_linksHold {links : List Selector} {above : List Subject}
    (h : ∀ p ∈ links, p.KeepsTo seen i) : (linksHold links above).KeepsTo seen i := by
  fun_induction linksHold links above with
  | case1 => exact Probe.keepsTo_pure true
  | case2 => exact Probe.keepsTo_pure false
  | case3 link links s above ih ih' =>
    refine (h link List.mem_cons_self s).bind fun b => ?_
    cases b with
    | true => exact ih fun p hp => h p (List.mem_cons_of_mem _ hp)
    | false => exact ih' h

theorem keepsTo_chain {links : List Selector} (h : ∀ p ∈ links, p.KeepsTo seen i) :
    (chain links).KeepsTo seen i := by
  refine chain_induction IsNodeTest.anyNode.goesByOutlook.keepsTo (fun last outer name hlast houter s => ?_) h
  refine (hlast s).bind fun b => ?_
  cases b with
  | true => exact keepsTo_linksHold houter
  | false => exact Probe.keepsTo_pure false

theorem keepsTo_matching {p : Selector} (hp : p.KeepsTo seen i) (subjects : List Subject) :
    (p.matching subjects).KeepsTo seen i := by
  induction subjects with
  | nil => exact Probe.keepsTo_pure []
  | cons s rest ih =>
    refine (hp s).bind fun b => ?_
    cases b with
    | true => exact ih.bind fun found => Probe.keepsTo_pure (s :: found)
    | false => exact ih

theorem keepsTo_matchingDelivered {p : Selector} (hp : p.KeepsTo seen i) {feed : Nat}
    (hfeed : Probe.FeedKeepsTo seen i feed) (n : Nat) :
    (p.matchingDelivered feed n).KeepsTo seen i := by
  induction n with
  | zero => exact Probe.keepsTo_pure []
  | succ n ih =>
    refine hfeed.pull.bind fun answer => ?_
    cases answer with
    | none => exact Probe.keepsTo_pure []
    | some tree =>
      refine (keepsTo_matching hp _).bind fun here => ?_
      exact ih.bind fun more => Probe.keepsTo_pure (here ++ more)

end Selector

/-- A source keeps to a party if it is no feed, or a feed of that party. -/
def Value.KeepsTo (seen : ι → Trace → σ) (i : ι) (source : Value) : Prop :=
  ∀ feed, source = .feed feed → Probe.FeedKeepsTo seen i feed

theorem Value.keepsTo_node (n : Node) : (Value.node n).KeepsTo seen i := fun _ h => nomatch h

theorem Selector.keepsTo_matchingIn {p : Selector} (hp : p.KeepsTo seen i) {source : Value}
    (hsource : source.KeepsTo seen i) : (p.matchingIn source).KeepsTo seen i := by
  unfold matchingIn
  split
  · next feed =>
    have hfeed := hsource feed rfl
    exact hfeed.remaining.bind fun n => keepsTo_matchingDelivered hp hfeed n
  · exact (Probe.keepsTo_ofExcept _).bind fun subjects => keepsTo_matching hp subjects

/-- The caller's part of a chain element keeps to a party; a token has none. -/
def ChainElement.KeepsTo (seen : ι → Trace → σ) (i : ι) : ChainElement → Prop
  | .token _ => True
  | .selector p => p.KeepsTo seen i
  | .callback c => ∀ s, (c.answer s).KeepsTo seen i

/-- The selectors and tests in a query keep to a party. -/
def Query.KeepsTo (seen : ι → Trace → σ) (i : ι) (q : Query) : Prop :=
  ∀ elements, q.normalise = .ok elements → ∀ e ∈ elements, e.KeepsTo seen i

theorem Query.KeepsTo.compile {q : Query} (hq : q.KeepsTo seen i) {p : Selector}
    (h : q.compile = .ok p) : p.KeepsTo seen i := by
  refine compile_induction (fun _ => Selector.keepsTo_chain) (fun elements hn e he r hr => ?_) h
  have hkeeps := hq elements hn e he
  cases e with
  | token s => exact (Selector.goesByOutlook_ofToken hr).keepsTo
  | selector r' =>
    obtain rfl := Except.ok.inj hr
    exact hkeeps
  | callback c =>
    obtain rfl := Except.ok.inj hr
    exact fun s => (hkeeps s).map Value.isTruthy

theorem Query.keepsTo_text (s : String) : (Query.text s).KeepsTo seen i := by
  intro elements hn e he
  obtain rfl := Except.ok.inj hn
  obtain ⟨token, -, rfl⟩ := List.mem_map.mp he
  trivial

theorem Query.keepsTo_callback {c : Callback} (hc : ∀ s, (c.answer s).KeepsTo seen i) :
    (Query.callback c).KeepsTo seen i := by
  intro elements hn e he
  obtain rfl := Except.ok.inj hn
  obtain rfl := List.mem_singleton.mp he
  exact hc

theorem Query.keepsTo_selector {p : Selector} (hp : p.KeepsTo seen i) :
    (Query.selector p).KeepsTo seen i := by
  intro elements hn e he
  obtain rfl := Except.ok.inj hn
  obtain rfl := List.mem_singleton.mp he
  exact hp

/-- An extractor that makes no use of the session itself, and keeps to a party. -/
def Extractor.KeepsTo (seen : ι → Trace → σ) (i : ι) (e : Extractor) : Prop :=
  ∀ v, ∃ x : Probe Value, e.apply v = Action.ofProbe x ∧ x.KeepsTo seen i

/-- Two callers' functions after one another are one. -/
theorem Action.ofProbe_bind (x : Probe α) (f : α → Probe β) :
    (ofProbe x >>= fun a => ofProbe (f a)) = ofProbe (x >>= f) := by
  funext s
  show (ofProbe x >>= fun a => ofProbe (f a)).run s = (ofProbe (x >>= f)).run s
  rw [run_bind, run_ofProbe, run_ofProbe, run_bind]
  rcases x.run s.trace with ⟨_ | a, after⟩ <;> rfl

namespace Extractor

theorem keepsTo_ofFunction (f : Value → Except Failure Value) (name : String) :
    (ofFunction f name).KeepsTo seen i := by
  intro v
  refine ⟨Probe.ofExcept (f v), ?_, Probe.keepsTo_ofExcept (f v)⟩
  show Action.ofExcept (f v) = _
  cases f v <;> rfl

theorem keepsTo_compose {es : List Extractor} (h : ∀ e ∈ es, e.KeepsTo seen i) :
    (compose es).KeepsTo seen i := by
  intro v
  show ∃ x : Probe Value, applyAll es v = Action.ofProbe x ∧ x.KeepsTo seen i
  induction es generalizing v with
  | nil => exact ⟨pure v, rfl, Probe.keepsTo_pure v⟩
  | cons e es ih =>
    obtain ⟨x, hx, hkeeps⟩ := h e List.mem_cons_self v
    choose y hy hykeeps using ih fun d hd => h d (List.mem_cons_of_mem _ hd)
    refine ⟨x >>= y, ?_, hkeeps.bind hykeeps⟩
    rw [applyAll, hx, funext hy, Action.ofProbe_bind]

end Extractor

/-- The queries and extractors among arguments keep to a party. -/
def Argument.KeepsTo (seen : ι → Trace → σ) (i : ι) : Argument → Prop
  | .query q => q.KeepsTo seen i
  | .extractor e => e.KeepsTo seen i

/-- The query and the extractor of an extraction keep to a party. -/
structure Extraction.KeepsTo (seen : ι → Trace → σ) (i : ι) (x : Extraction) : Prop where
  query : x.query.KeepsTo seen i
  extractor : x.extractor.KeepsTo seen i

/-! ## Sessions -/

namespace Session

/-- A party cannot tell two sessions apart: it has the same view of both, and its cache and the
settings are the same. -/
structure SameFor (view : Trace → σ) (id : CacheId) (s t : Session) : Prop where
  settings : s.settings = t.settings
  opened : s.opened.length = t.opened.length
  cache : s.cache id = t.cache id
  view : view s.trace = view t.trace

/-- From one session to another nothing has changed but for one party: neither the settings, nor the
cache or the view of anybody else. -/
structure ChangedFor (seen : ι → Trace → σ) (i : ι) (id : CacheId) (s t : Session) : Prop where
  settings : t.settings = s.settings
  opened : t.opened.length = s.opened.length
  caches : ∀ other, other ≠ id → t.cache other = s.cache other
  views : ∀ j, j ≠ i → seen j t.trace = seen j s.trace

variable {view : Trace → σ} {s t u : Session}

theorem SameFor.trans (hst : s.SameFor view id t) (htu : t.SameFor view id u) :
    s.SameFor view id u :=
  ⟨hst.settings.trans htu.settings, hst.opened.trans htu.opened, hst.cache.trans htu.cache,
    hst.view.trans htu.view⟩

theorem ChangedFor.refl (s : Session) : s.ChangedFor seen i id s :=
  ⟨rfl, rfl, fun _ _ => rfl, fun _ _ => rfl⟩

theorem ChangedFor.trans (hst : s.ChangedFor seen i id t) (htu : t.ChangedFor seen i id u) :
    s.ChangedFor seen i id u where
  settings := htu.settings.trans hst.settings
  opened := htu.opened.trans hst.opened
  caches other h := (htu.caches other h).trans (hst.caches other h)
  views j h := (htu.views j h).trans (hst.views j h)

/-- What has changed for one party only is the same for another one with another cache. -/
theorem ChangedFor.sameFor (h : s.ChangedFor seen i id t) {j : ι} (hj : j ≠ i) {other : CacheId}
    (hother : other ≠ id) : t.SameFor (seen j) other s :=
  ⟨h.settings, h.opened, h.caches other hother, h.views j hj⟩

theorem cache_setJournal (s : Session) (journal : Journal) (id : CacheId) :
    ({ s with journal } : Session).cache id = s.cache id := by
  cases id <;> rfl

theorem cache_setTrace (s : Session) (trace : Trace) (id : CacheId) :
    ({ s with trace } : Session).cache id = s.cache id := by
  cases id <;> rfl

theorem opened_setCache (s : Session) (id : CacheId) (c : Cache) :
    (s.setCache id c).opened.length = s.opened.length := by
  cases id with
  | shared => rfl
  | opened k => exact List.length_set

theorem cache_setCache_of_ne (s : Session) {id other : CacheId} (h : other ≠ id) (c : Cache) :
    (s.setCache id c).cache other = s.cache other := by
  cases id with
  | shared =>
    cases other with
    | shared => exact absurd rfl h
    | opened j => rfl
  | opened k =>
    cases other with
    | shared => rfl
    | opened j =>
      have hjk : k ≠ j := fun e => h (congrArg CacheId.opened e.symm)
      show (s.opened.set k c)[j]?.getD {} = _
      rw [List.getElem?_set_ne hjk]
      rfl

/-- A cache that is set is the same in sessions with as many caches. -/
theorem cache_setCache_congr (h : s.opened.length = t.opened.length) (id : CacheId) (c : Cache) :
    (s.setCache id c).cache id = (t.setCache id c).cache id := by
  cases id with
  | shared => rfl
  | opened k =>
    show (s.opened.set k c)[k]?.getD {} = (t.opened.set k c)[k]?.getD {}
    rw [List.getElem?_set, List.getElem?_set, if_pos rfl, if_pos rfl, h]

theorem SameFor.setJournal (h : s.SameFor view id t) (journal journal' : Journal) :
    ({ s with journal } : Session).SameFor view id { t with journal := journal' } :=
  ⟨h.settings, h.opened, by rw [cache_setJournal, cache_setJournal]; exact h.cache, h.view⟩

theorem SameFor.setCache (h : s.SameFor view id t) (c : Cache) :
    (s.setCache id c).SameFor view id (t.setCache id c) where
  settings := by rw [settings_setCache, settings_setCache, h.settings]
  opened := by rw [opened_setCache, opened_setCache, h.opened]
  cache := cache_setCache_congr h.opened id c
  view := by rw [trace_setCache, trace_setCache, h.view]

theorem changedFor_setJournal (s : Session) (journal : Journal) :
    s.ChangedFor seen i id { s with journal } :=
  ⟨rfl, rfl, fun _ _ => cache_setJournal _ _ _, fun _ _ => rfl⟩

theorem changedFor_setCache (s : Session) (c : Cache) :
    s.ChangedFor seen i id (s.setCache id c) where
  settings := s.settings_setCache id c
  opened := s.opened_setCache id c
  caches _ h := s.cache_setCache_of_ne h c
  views _ _ := by rw [trace_setCache]

end Session

/-! ## Actions -/

namespace Action

/-- An action goes by what one party can tell, and nobody else can tell what it did. -/
structure Confined (seen : ι → Trace → σ) (i : ι) (id : CacheId) (a : Action α) : Prop where
  same : ∀ s t : Session, s.Faithful → s.SameFor (seen i) id t →
    (a.run s).1 = (a.run t).1 ∧ (a.run s).2.SameFor (seen i) id (a.run t).2
  changed : ∀ s : Session, s.Faithful → s.ChangedFor seen i id (a.run s).2
  faithful : ∀ s : Session, s.Faithful → (a.run s).2.Faithful

variable {a : Action α} {f : α → Action β}

/-- What follows needs to be confined only for what may be answered. -/
theorem Confined.bind_of_answers (ha : a.Confined seen i id)
    (hf : ∀ x, (∃ s : Session, s.Faithful ∧ (a.run s).1 = .ok x) → (f x).Confined seen i id) :
    (a >>= f).Confined seen i id where
  same s t hs hst := by
    obtain ⟨hanswer, hafter⟩ := ha.same s t hs hst
    have hs' := ha.faithful s hs
    rw [run_bind, run_bind]
    rcases hrun : a.run s with ⟨r, s'⟩
    rcases hrun' : a.run t with ⟨r', t'⟩
    rw [hrun, hrun'] at hanswer hafter
    rw [hrun] at hs'
    -- both runs go on with the same answer, or both have failed
    obtain rfl : r = r' := hanswer
    cases r with
    | ok x => exact (hf x ⟨s, hs, by rw [hrun]⟩).same s' t' hs' hafter
    | error e => exact ⟨rfl, hafter⟩
  changed s hs := by
    have hchanged := ha.changed s hs
    have hs' := ha.faithful s hs
    rw [run_bind]
    rcases hrun : a.run s with ⟨_ | x, s'⟩
    · rwa [hrun] at hchanged
    · rw [hrun] at hchanged hs'
      exact hchanged.trans ((hf x ⟨s, hs, by rw [hrun]⟩).changed s' hs')
  faithful s hs := by
    have hs' := ha.faithful s hs
    rw [run_bind]
    rcases hrun : a.run s with ⟨_ | x, s'⟩
    · rwa [hrun] at hs'
    · rw [hrun] at hs'
      exact (hf x ⟨s, hs, by rw [hrun]⟩).faithful s' hs'

theorem Confined.bind (ha : a.Confined seen i id) (hf : ∀ x, (f x).Confined seen i id) :
    (a >>= f).Confined seen i id :=
  ha.bind_of_answers fun x _ => hf x

theorem confined_pure (x : α) : (pure x : Action α).Confined seen i id :=
  ⟨fun _ _ _ h => ⟨rfl, h⟩, fun s _ => .refl s, fun _ hs => hs⟩

theorem confined_ofExcept (r : Except Failure α) : (ofExcept r).Confined seen i id := by
  cases r with
  | ok x => exact confined_pure x
  | error f => exact ⟨fun _ _ _ h => ⟨rfl, h⟩, fun s _ => .refl s, fun _ hs => hs⟩

theorem confined_ofProbe {x : Probe α} (hx : x.KeepsTo seen i) :
    (ofProbe x).Confined seen i id where
  same s t _ hst := by
    obtain ⟨hanswer, hafter⟩ := hx.own s.trace t.trace hst.view
    rw [run_ofProbe, run_ofProbe]
    exact ⟨hanswer, hst.settings, hst.opened,
      by rw [Session.cache_setTrace, hst.cache]; exact (Session.cache_setTrace ..).symm, hafter⟩
  changed s _ :=
    ⟨rfl, rfl, fun _ _ => Session.cache_setTrace _ _ _, fun j hj => hx.others s.trace j hj⟩
  faithful _ hs := hs.setTrace _

theorem confined_log (level : Level) (logger text : String) (fields : Fields) :
    (log level logger text fields).Confined seen i id where
  same _ _ _ hst := ⟨rfl, hst.setJournal _ _⟩
  changed s _ := s.changedFor_setJournal _
  faithful _ hs := hs.setJournal _

theorem Confined.attempt (ha : a.Confined seen i id) :
    (Action.attempt a).Confined seen i id where
  same s t hs hst := by
    obtain ⟨hanswer, hafter⟩ := ha.same s t hs hst
    rw [run_attempt, run_attempt, hanswer]
    exact ⟨rfl, hafter⟩
  changed := ha.changed
  faithful := ha.faithful

theorem Confined.withBound (ha : a.Confined seen i id) (fields : Fields) :
    (Action.withBound fields a).Confined seen i id where
  same s t hs hst := by
    obtain ⟨before, after, hrun⟩ := run_withBound fields a s
    obtain ⟨before', after', hrun'⟩ := run_withBound fields a t
    obtain ⟨hanswer, hafter⟩ :=
      ha.same _ _ (hs.setJournal before) (hst.setJournal before before')
    rw [hrun, hrun']
    exact ⟨hanswer, hafter.setJournal after after'⟩
  changed s hs := by
    obtain ⟨before, after, hrun⟩ := run_withBound fields a s
    rw [hrun]
    exact ((s.changedFor_setJournal before).trans (ha.changed _ (hs.setJournal before))).trans
      (Session.changedFor_setJournal _ after)
  faithful s hs := by
    obtain ⟨before, after, hrun⟩ := run_withBound fields a s
    rw [hrun]
    exact (ha.faithful _ (hs.setJournal before)).setJournal after

/-- Compiling is confined to the cache that it goes through. -/
theorem confined_compile (q : Query) : (Action.compile id q).Confined seen i id where
  same s t _ hst := by
    obtain ⟨journal, hrun⟩ := run_compile id q s
    obtain ⟨journal', hrun'⟩ := run_compile id q t
    rw [hrun, hrun', hst.settings, hst.cache]
    exact ⟨rfl, (hst.setCache _).setJournal journal journal'⟩
  changed s _ := by
    obtain ⟨journal, hrun⟩ := run_compile id q s
    rw [hrun]
    exact (s.changedFor_setCache _).trans (Session.changedFor_setJournal _ journal)
  faithful _ hs := (compile_agrees id q).left.faithful hs

/-- What follows compiling gets a selector that keeps to the party when the query does. -/
theorem confined_compile_bind {q : Query} (hq : q.KeepsTo seen i) {f : Selector → Action α}
    (hf : ∀ p, p.KeepsTo seen i → (f p).Confined seen i id) :
    (Action.compile id q >>= f).Confined seen i id := by
  refine (confined_compile q).bind_of_answers fun p ⟨s, hs, hp⟩ => hf p (hq.compile ?_)
  have hanswer := (compile_agrees id q s s hs.alike).1
  rwa [hp, run_ofExcept, eq_comm] at hanswer

end Action
end MarkupQuery
