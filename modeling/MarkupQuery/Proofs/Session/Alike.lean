import MarkupQuery.Proofs.Selector.Memo
import MarkupQuery.Proofs.Steps
import MarkupQuery.Session

/-!
# Sessions that differ in what is remembered

Two sessions are alike when the caller's functions have left the same trace in both and the settings
are the same, except for the switch that caches follow. What their caches remember may differ, as
long as every entry is what its key compiles to, and so may their journals.

Two actions agree when they cannot be told apart by this measure: from sessions alike they answer the
same, be it a value or a failure, and they leave sessions alike, so they have made the same calls in
the same order. Agreement is kept by sequencing and by everything else that actions are built with,
and compiling through a cache agrees with compiling (`Action.compile_agrees`).

An action that agrees with itself takes no notice of caches: it may use them, clear them or open new
ones, as long as neither its answer nor its calls depend on what is in them.
-/

namespace MarkupQuery

namespace Session

/-- Every cache of a session is faithful. -/
def Faithful (s : Session) : Prop := ∀ id, (s.cache id).Faithful

/-- The same trace, and the same settings except for the switch that caches follow. -/
structure SameOutside (s t : Session) : Prop where
  trace : s.trace = t.trace
  settings : { s.settings with cacheEnabled := true } = { t.settings with cacheEnabled := true }

/-- The same trace and settings, and faithful caches in both sessions. -/
structure Alike (s t : Session) : Prop where
  outside : s.SameOutside t
  left : s.Faithful
  right : t.Faithful

variable {s t u : Session}

theorem SameOutside.symm (h : s.SameOutside t) : t.SameOutside s := ⟨h.trace.symm, h.settings.symm⟩

theorem Faithful.alike (hs : s.Faithful) : s.Alike s := ⟨⟨rfl, rfl⟩, hs, hs⟩

theorem Alike.symm (h : s.Alike t) : t.Alike s := ⟨h.outside.symm, h.right, h.left⟩

theorem Alike.trans (hst : s.Alike t) (htu : t.Alike u) : s.Alike u :=
  ⟨⟨hst.outside.trace.trans htu.outside.trace, hst.outside.settings.trans htu.outside.settings⟩,
    hst.left, htu.right⟩

/-! ## Changes of one session -/

theorem Faithful.of_caches (hs : s.Faithful) (hshared : t.shared = s.shared)
    (hopened : t.opened = s.opened) : t.Faithful := by
  intro id
  have hcache : t.cache id = s.cache id := by cases id <;> simp [cache, hshared, hopened]
  exact hcache ▸ hs id

/-- A session with which nothing has happened yet. -/
theorem faithful_default : Faithful {} := fun id => by
  cases id <;> exact Cache.faithful_of_entries_eq_nil rfl

theorem Faithful.setTrace (hs : s.Faithful) (trace : Trace) : Faithful { s with trace } :=
  hs.of_caches rfl rfl

theorem Faithful.setJournal (hs : s.Faithful) (journal : Journal) : Faithful { s with journal } :=
  hs.of_caches rfl rfl

/-- Setting a cache changes that one at most. -/
theorem cache_setCache (s : Session) (id other : CacheId) (c : Cache) :
    (s.setCache id c).cache other = c ∨ (s.setCache id c).cache other = s.cache other := by
  cases id with
  | shared =>
    cases other with
    | shared => exact Or.inl rfl
    | opened j => exact Or.inr rfl
  | opened i =>
    cases other with
    | shared => exact Or.inr rfl
    | opened j =>
      show (s.opened.set i c)[j]?.getD {} = c ∨ (s.opened.set i c)[j]?.getD {} = _
      rw [List.getElem?_set]
      split
      · next hij =>
        subst hij
        split
        · exact Or.inl rfl
        · next hlt => exact Or.inr (by simp [cache, List.getElem?_eq_none (Nat.le_of_not_lt hlt)])
      · exact Or.inr rfl

theorem Faithful.setCache (hs : s.Faithful) (id : CacheId) {c : Cache} (hc : c.Faithful) :
    (s.setCache id c).Faithful := by
  intro other
  rcases s.cache_setCache id other c with h | h
  · rw [h]
    exact hc
  · rw [h]
    exact hs other

@[simp] theorem trace_setCache (s : Session) (id : CacheId) (c : Cache) :
    (s.setCache id c).trace = s.trace := by
  cases id <;> rfl

@[simp] theorem settings_setCache (s : Session) (id : CacheId) (c : Cache) :
    (s.setCache id c).settings = s.settings := by
  cases id <;> rfl

/-- Putting a cache where it is already changes nothing. -/
theorem setCache_cache (s : Session) (id : CacheId) : s.setCache id (s.cache id) = s := by
  cases id with
  | shared => rfl
  | opened i =>
    have hset : s.opened.set i (s.opened[i]?.getD {}) = s.opened := by
      rcases Nat.lt_or_ge i s.opened.length with h | h
      · rw [List.getElem?_eq_getElem h, Option.getD_some, List.set_getElem_self]
      · rw [List.set_eq_of_length_le h]
    show { s with opened := s.opened.set i (s.opened[i]?.getD {}) } = s
    rw [hset]

theorem Alike.setJournal (h : s.Alike t) (journal : Journal) : Alike { s with journal } t :=
  ⟨⟨h.outside.trace, h.outside.settings⟩, h.left.setJournal journal, h.right⟩

theorem Alike.setCache (h : s.Alike t) (id : CacheId) {c : Cache} (hc : c.Faithful) :
    (s.setCache id c).Alike t where
  outside := ⟨(s.trace_setCache id c).trans h.outside.trace, by
    rw [settings_setCache]; exact h.outside.settings⟩
  left := h.left.setCache id hc
  right := h.right

end Session

namespace Action

variable {α β : Type}

/-! ## How actions run -/

theorem run_pure (x : α) (s : Session) : (pure x : Action α).run s = (.ok x, s) := rfl

theorem run_get (s : Session) : (get : Action Session).run s = (.ok s, s) := rfl

theorem run_set (s t : Session) : (set t : Action PUnit).run s = (.ok (), t) := rfl

theorem run_modify (f : Session → Session) (s : Session) :
    (modify f : Action PUnit).run s = (.ok (), f s) := rfl

theorem run_ofExcept (r : Except Failure α) (s : Session) : (ofExcept r).run s = (r, s) := by
  cases r <;> rfl

theorem ofExcept_bind_pure (r : Except Failure α) (f : α → β) :
    (ofExcept r >>= fun x => pure (f x)) = ofExcept (r.map f) := by
  cases r <;> rfl

theorem ofExcept_bind (r : Except Failure α) (f : α → Except Failure β) :
    (ofExcept r >>= fun x => ofExcept (f x)) = ofExcept (r >>= f) := by
  cases r <;> rfl

theorem run_ofProbe (p : Probe α) (s : Session) :
    (ofProbe p).run s = ((p.run s.trace).1, { s with trace := (p.run s.trace).2 }) := rfl

theorem run_log (level : Level) (logger text : String) (fields : Fields) (s : Session) :
    (log level logger text fields).run s =
      (.ok (), { s with journal := s.journal.record level logger text fields }) := rfl

theorem run_outcome (a : Action α) (s : Session) :
    (outcome a).run s = (.ok (a.run s).1, (a.run s).2) := rfl

theorem run_attempt (a : Action α) (s : Session) :
    (attempt a).run s = (Failure.caught (a.run s).1, (a.run s).2) := rfl

/-- Compiling answers what the cache answers and leaves it in its place. -/
theorem run_compile (id : CacheId) (q : Query) (s : Session) :
    ∃ journal, (compile id q).run s =
      (((s.cache id).compile s.settings.cacheEnabled q).result,
        { s.setCache id ((s.cache id).compile s.settings.cacheEnabled q).cache with journal }) := by
  unfold compile
  simp only [run_bind, run_get, run_set]
  cases ((s.cache id).compile s.settings.cacheEnabled q).added with
  | none => exact ⟨_, run_ofExcept _ _⟩
  | some key => exact ⟨_, run_ofExcept _ _⟩

@[simp] theorem trace_compile (id : CacheId) (q : Query) (s : Session) :
    ((compile id q).run s).2.trace = s.trace := by
  obtain ⟨journal, hrun⟩ := run_compile id q s
  rw [hrun]
  exact s.trace_setCache id _

@[simp] theorem settings_compile (id : CacheId) (q : Query) (s : Session) :
    ((compile id q).run s).2.settings = s.settings := by
  obtain ⟨journal, hrun⟩ := run_compile id q s
  rw [hrun]
  exact s.settings_setCache id _

/-- A selector is compiled already. -/
theorem compile_selector_eq_pure (id : CacheId) (p : Selector) :
    compile id (.selector p) = pure p := by
  funext s
  show (compile id (.selector p)).run s = (pure p : Action Selector).run s
  unfold compile
  simp only [run_bind, run_get, run_set, run_pure]
  exact Prod.ext rfl (s.setCache_cache id)

/-- Binding fields changes the journal before and after an action, and nothing else. -/
theorem run_withBound (fields : Fields) (a : Action α) (s : Session) :
    ∃ before after, (withBound fields a).run s =
      ((a.run { s with journal := before }).1,
        { (a.run { s with journal := before }).2 with journal := after }) := by
  unfold withBound
  simp only [run_bind, run_get, run_modify, run_outcome]
  exact ⟨_, _, run_ofExcept _ _⟩

/-! ## Agreement -/

/-- From sessions alike, two actions answer the same and leave sessions alike. -/
def Agrees (a b : Action α) : Prop :=
  ∀ s t, s.Alike t → (a.run s).1 = (b.run t).1 ∧ (a.run s).2.Alike (b.run t).2

/-- An action takes no notice of what caches remember, nor of the journal. -/
def IgnoresCaches (a : Action α) : Prop := a.Agrees a

variable {a b c : Action α} {f g : α → Action β}

/-- Two actions, each from a session of its own, have the same outcome and make the same calls. -/
def AgreesFrom (s t : Session) (a b : Action α) : Prop :=
  (a.run s).1 = (b.run t).1 ∧ (a.run s).2.trace = (b.run t).2.trace

theorem Agrees.agreesFrom (h : a.Agrees b) {s t : Session} (hst : s.Alike t) :
    a.AgreesFrom s t b :=
  ⟨(h s t hst).1, (h s t hst).2.outside.trace⟩

theorem Agrees.symm (h : a.Agrees b) : b.Agrees a := by
  intro s t hst
  obtain ⟨hanswer, hafter⟩ := h t s hst.symm
  exact ⟨hanswer.symm, hafter.symm⟩

theorem Agrees.trans (hab : a.Agrees b) (hbc : b.Agrees c) : a.Agrees c := by
  intro s t hst
  obtain ⟨hanswer, hafter⟩ := hab s t hst
  obtain ⟨hanswer', hafter'⟩ := hbc t t hst.right.alike
  exact ⟨hanswer.trans hanswer', hafter.trans hafter'⟩

theorem Agrees.left (h : a.Agrees b) : a.IgnoresCaches := h.trans h.symm

theorem Agrees.right (h : a.Agrees b) : b.IgnoresCaches := h.symm.trans h

theorem IgnoresCaches.faithful (h : a.IgnoresCaches) {s : Session} (hs : s.Faithful) :
    (a.run s).2.Faithful :=
  (h s s hs.alike).2.left

theorem ignoresCaches_pure (x : α) : (pure x : Action α).IgnoresCaches :=
  fun _ _ h => ⟨rfl, h⟩

theorem ignoresCaches_ofExcept (r : Except Failure α) : (ofExcept r).IgnoresCaches := by
  intro s t h
  rw [run_ofExcept, run_ofExcept]
  exact ⟨rfl, h⟩

/-- A caller's function sees nothing of a session but its trace. -/
theorem ignoresCaches_ofProbe (p : Probe α) : (ofProbe p).IgnoresCaches := by
  intro s t h
  rw [run_ofProbe, run_ofProbe, h.outside.trace]
  exact ⟨rfl, ⟨rfl, h.outside.settings⟩, h.left.setTrace _, h.right.setTrace _⟩

/-- What follows needs to agree only on what may be answered. -/
theorem Agrees.bind_of_answers (h : a.Agrees b)
    (hfg : ∀ x, (∃ t, (b.run t).1 = .ok x) → (f x).Agrees (g x)) :
    (a >>= f).Agrees (b >>= g) := by
  intro s t hst
  obtain ⟨hanswer, hafter⟩ := h s t hst
  rw [run_bind, run_bind]
  rcases hs : a.run s with ⟨r, s'⟩
  rcases ht : b.run t with ⟨r', t'⟩
  rw [hs, ht] at hanswer hafter
  obtain rfl : r = r' := hanswer
  cases r with
  | ok x => exact hfg x ⟨t, by rw [ht]⟩ s' t' hafter
  | error e => exact ⟨rfl, hafter⟩

theorem Agrees.bind (h : a.Agrees b) (hfg : ∀ x, (f x).Agrees (g x)) :
    (a >>= f).Agrees (b >>= g) :=
  h.bind_of_answers fun x _ => hfg x

/-- After a result that is already known. -/
theorem Agrees.ofExcept_bind {r : Except Failure α} (h : a.Agrees (ofExcept r))
    (hfg : ∀ x, r = .ok x → (f x).Agrees (g x)) : (a >>= f).Agrees (ofExcept r >>= g) := by
  refine h.bind_of_answers fun x ⟨t, hx⟩ => hfg x ?_
  rwa [run_ofExcept] at hx

theorem Agrees.outcome (h : a.Agrees b) : (Action.outcome a).Agrees (Action.outcome b) := by
  intro s t hst
  obtain ⟨hanswer, hafter⟩ := h s t hst
  rw [run_outcome, run_outcome, hanswer]
  exact ⟨rfl, hafter⟩

theorem Agrees.attempt (h : a.Agrees b) : (Action.attempt a).Agrees (Action.attempt b) := by
  intro s t hst
  obtain ⟨hanswer, hafter⟩ := h s t hst
  rw [run_attempt, run_attempt, hanswer]
  exact ⟨rfl, hafter⟩

/-- An event in the journal is no difference. -/
theorem log_agrees (level : Level) (logger text : String) (fields : Fields) :
    (log level logger text fields).Agrees (pure ()) := by
  intro s t h
  rw [run_log, run_pure]
  exact ⟨rfl, h.setJournal _⟩

/-- Fields bound for the journal are no difference. -/
theorem Agrees.withBound (h : a.Agrees b) (fields : Fields) :
    (Action.withBound fields a).Agrees b := by
  intro s t hst
  obtain ⟨before, after, hrun⟩ := run_withBound fields a s
  obtain ⟨hanswer, hafter⟩ := h _ t (hst.setJournal before)
  rw [hrun]
  exact ⟨hanswer, hafter.setJournal after⟩

/-- Compiling through a cache is compiling. -/
theorem compile_agrees (id : CacheId) (q : Query) : (compile id q).Agrees (ofExcept q.compile) := by
  intro s t h
  obtain ⟨journal, hrun⟩ := run_compile id q s
  obtain ⟨hresult, hfaithful⟩ := (h.left id).compile s.settings.cacheEnabled q
  rw [hrun, run_ofExcept, hresult]
  exact ⟨rfl, (h.setCache id hfaithful).setJournal journal⟩

theorem run_compile_of_ok {s : Session} (hs : s.Faithful) {q : Query} {p : Selector}
    (hq : q.compile = .ok p) (id : CacheId) :
    ∃ t, (compile id q).run s = (.ok p, t) ∧ t.trace = s.trace := by
  have hanswer := (compile_agrees id q s s hs.alike).1
  rw [run_ofExcept, hq] at hanswer
  exact ⟨((compile id q).run s).2, Prod.ext hanswer rfl, trace_compile id q s⟩

end Action
end MarkupQuery
