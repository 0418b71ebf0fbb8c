import MarkupQuery.Proofs.Selector.Memo

/-!
# The books of a cache

A cache is called to compile queries, each time under the policy that is in force then, and to be
cleared. A ledger follows it: it lists the look-ups made since the last clearing, with the key that
was looked up and what came of it. Only calls that are made while the cache is enabled, and with a
query of tokens alone, look anything up.

The entries and the counts of the cache are at any time what the ledger says they must be
(`Ledger.Balanced`). All that compiling can do to a cache is in `Cache.answer_cases`; the invariant
follows from it for one call, and by induction for a history.

Main statement: `Ledger.entries_and_counts_match_lookUps`.
-/

namespace MarkupQuery

/-! ## Keys of queries -/

namespace Query

theorem tokens?_map_token (key : List String) : tokens? (key.map .token) = some key := by
  induction key with
  | nil => rfl
  | cons s key ih =>
    rw [tokens?] at ih ⊢
    rw [List.map_cons, List.mapM_cons, ih]
    rfl

theorem key?_of_ne_selector {q : Query} (hq : ∀ p, q ≠ .selector p) :
    q.key? = q.normalise.toOption.bind tokens? := by
  cases q with
  | selector p => exact absurd rfl (hq p)
  | _ =>
    rw [key?]
    · cases normalise _ <;> rfl
    · exact hq

/-- A query has a key when it is made of tokens alone. -/
theorem key?_eq_some_iff {q : Query} {key : List String} :
    q.key? = some key ↔ q.normalise = .ok (key.map .token) := by
  by_cases hq : ∃ p, q = .selector p
  · obtain ⟨p, rfl⟩ := hq
    refine iff_of_false (by simp [key?]) fun h => ?_
    have helements : [ChainElement.selector p] = key.map .token := Except.ok.inj h
    cases key <;> simp at helements
  · rw [key?_of_ne_selector fun p hp => hq ⟨p, hp⟩]
    cases q.normalise with
    | error f => simp [Except.toOption]
    | ok elements =>
      constructor
      · intro h
        rw [eq_of_tokens? h]
      · intro h
        rw [Except.ok.inj h]
        exact tokens?_map_token key

end Query

/-! ## Calls -/

/-- What decides whether a cache is enabled at a call: its own flag, if it has one, and the settings. -/
structure CachePolicy where
  flag : Option Bool
  bySettings : Bool

namespace CachePolicy

/-- Whether a cache is enabled under a policy. -/
def enables (policy : CachePolicy) : Bool := policy.flag.getD policy.bySettings

/-- The key that compiling a query looks up, if it looks anything up. -/
def lookedUp? (policy : CachePolicy) (q : Query) : Option (List String) :=
  if policy.enables then q.key? else none

theorem lookedUp?_eq_some_iff {policy : CachePolicy} {q : Query} {key : List String} :
    policy.lookedUp? q = some key ↔
      policy.enables = true ∧ q.normalise = .ok (key.map .token) := by
  rw [lookedUp?, Option.ite_none_right_eq_some, Query.key?_eq_some_iff]

end CachePolicy

/-- A call on a cache. -/
inductive CacheCall where
  | compile (policy : CachePolicy) (q : Query)
  | clear

namespace Cache

/-- A cache under a policy. -/
def under (c : Cache) (policy : CachePolicy) : Cache := { c with flag := policy.flag }

/-- What comes of compiling a query under a policy. -/
def answer (c : Cache) (policy : CachePolicy) (q : Query) : Answer :=
  (c.under policy).compile policy.bySettings q

/-- The keys that have an entry. -/
def storedKeys (c : Cache) : List (List String) := c.entries.map Prod.fst

theorem mem_storedKeys_iff {c : Cache} {key : List String} :
    key ∈ c.storedKeys ↔ ∃ p, c.entries.find? key = some p := by
  rw [storedKeys]
  induction c.entries with
  | nil => simp [Mapping.find?]
  | cons entry entries ih =>
    rw [List.map_cons, List.mem_cons, ih, Mapping.find?]
    by_cases hkey : entry.1 = key
    · simp [hkey]
    · simp [hkey, Ne.symm hkey]

/-- The same entries and the same counts; the flag does not matter. -/
structure SameMemo (c d : Cache) : Prop where
  entries : c.entries = d.entries
  hits : c.hits = d.hits
  misses : c.misses = d.misses

theorem SameMemo.trans {c d e : Cache} (hcd : c.SameMemo d) (hde : d.SameMemo e) : c.SameMemo e :=
  ⟨hcd.entries.trans hde.entries, hcd.hits.trans hde.hits, hcd.misses.trans hde.misses⟩

theorem sameMemo_under (c : Cache) (policy : CachePolicy) : (c.under policy).SameMemo c :=
  ⟨rfl, rfl, rfl⟩

theorem compile_of_key? {q : Query} {key : List String} (h : q.key? = some key) (c : Cache)
    (bySettings : Bool) : c.compile bySettings q =
      if c.isEnabled bySettings then c.compileTokens key
      else ⟨Query.compileElements (key.map .token), c, none⟩ := by
  have hn := Query.key?_eq_some_iff.mp h
  unfold compile
  split
  · cases h
  · simp only [hn, Query.tokens?_map_token]

theorem compile_of_key?_eq_none {q : Query} (h : q.key? = none) (c : Cache) (bySettings : Bool) :
    (c.compile bySettings q).cache = c := by
  unfold compile
  split
  · rfl
  · split
    · rfl
    · next elements hn =>
      -- elements that are all tokens would be a key
      split
      · next key hkey =>
        rw [Query.eq_of_tokens? hkey] at hn
        rw [Query.key?_eq_some_iff.mpr hn] at h
        cases h
      · rfl

/-- All that compiling can do to a cache. Without a look-up nothing happens. A look-up is a hit when
the key has an entry; else it is a miss, which makes an entry when the key compiles. -/
theorem answer_cases (c : Cache) (policy : CachePolicy) (q : Query) :
    (policy.lookedUp? q = none ∧ (c.answer policy q).cache = c.under policy) ∨
    ∃ key, policy.lookedUp? q = some key ∧
      ((∃ p, c.entries.find? key = some p ∧
        c.answer policy q = ⟨.ok p, { c.under policy with hits := c.hits + 1 }, none⟩) ∨
      (∃ p, c.entries.find? key = none ∧ Query.compileElements (key.map .token) = .ok p ∧
        c.answer policy q = ⟨.ok p, { c.under policy with
          misses := c.misses + 1, entries := c.entries ++ [(key, p)] }, some key⟩) ∨
      ∃ f, c.entries.find? key = none ∧ Query.compileElements (key.map .token) = .error f ∧
        c.answer policy q = ⟨.error f, { c.under policy with misses := c.misses + 1 }, none⟩) := by
  have henabled : (c.under policy).isEnabled policy.bySettings = policy.enables := rfl
  rw [answer, CachePolicy.lookedUp?]
  cases hkey : q.key? with
  | none => exact Or.inl ⟨by simp, compile_of_key?_eq_none hkey _ _⟩
  | some key =>
    rw [compile_of_key? hkey, henabled]
    cases policy.enables with
    | false => exact Or.inl ⟨rfl, rfl⟩
    | true =>
      refine Or.inr ⟨key, rfl, ?_⟩
      rw [if_pos rfl, compileTokens]
      cases hfind : c.entries.find? key with
      | some p => exact Or.inl ⟨p, rfl, by simp [under, hfind]⟩
      | none =>
        cases hcompile : Query.compileElements (key.map .token) with
        | ok p => exact Or.inr (Or.inl ⟨p, rfl, rfl, by simp [under, hfind]⟩)
        | error f => exact Or.inr (Or.inr ⟨f, rfl, rfl, by simp [under, hfind]⟩)

/-- A look-up of a stored key is a hit. -/
theorem answer_of_stored {c : Cache} {policy : CachePolicy} {q : Query} {key : List String}
    {p : Selector} (hkey : policy.lookedUp? q = some key) (hp : c.entries.find? key = some p) :
    c.answer policy q = ⟨.ok p, { c.under policy with hits := c.hits + 1 }, none⟩ := by
  rcases c.answer_cases policy q with ⟨hnone, -⟩ | ⟨other, hother, hcases⟩
  · rw [hkey] at hnone
    cases hnone
  · obtain rfl : key = other := Option.some.inj (hkey.symm.trans hother)
    rw [hp] at hcases
    rcases hcases with ⟨r, hr, hanswer⟩ | ⟨r, hnew, -⟩ | ⟨f, hnew, -⟩
    · rw [hanswer, Option.some.inj hr]
    · cases hnew
    · cases hnew

/-- A look-up of a key that does not compile, and so has no entry, is a miss. -/
theorem answer_of_refused {c : Cache} {policy : CachePolicy} {q : Query} {key : List String}
    {f : Failure} (hkey : policy.lookedUp? q = some key) (hnew : c.entries.find? key = none)
    (hf : Query.compileElements (key.map .token) = .error f) :
    c.answer policy q = ⟨.error f, { c.under policy with misses := c.misses + 1 }, none⟩ := by
  rcases c.answer_cases policy q with ⟨hnone, -⟩ | ⟨other, hother, hcases⟩
  · rw [hkey] at hnone
    cases hnone
  · obtain rfl : key = other := Option.some.inj (hkey.symm.trans hother)
    rw [hnew, hf] at hcases
    rcases hcases with ⟨r, hr, -⟩ | ⟨r, -, hr, -⟩ | ⟨g, -, hg, hanswer⟩
    · cases hr
    · cases hr
    · rw [hanswer, Except.error.inj hg]

/-- A cache says that it has a query when the key of the query has an entry. -/
theorem contains_iff (c : Cache) (q : Query) : c.contains q = true ↔
    ∃ key ∈ c.storedKeys, q.normalise = .ok (key.map .token) := by
  rw [contains, Option.any_eq_true]
  simp only [Query.key?_eq_some_iff, mem_storedKeys_iff, Option.isSome_iff_exists]
  exact exists_congr fun key => and_comm

end Cache

/-! ## Ledgers -/

/-- A look-up: the key, and what came of it. -/
structure LookUp where
  key : List String
  result : Except Failure Selector

namespace LookUp

/-- Whether a look-up came to a selector. -/
def succeeded (u : LookUp) : Bool := u.result.isOk

@[simp] theorem succeeded_ok (key : List String) (p : Selector) :
    succeeded ⟨key, .ok p⟩ = true := rfl

@[simp] theorem succeeded_error (key : List String) (f : Failure) :
    succeeded ⟨key, .error f⟩ = false := rfl

/-- The keys of the look-ups that came to a selector, with repetitions. -/
def compiledKeys (us : List LookUp) : List (List String) := (us.filter succeeded).map key

theorem compiledKeys_concat_ok (us : List LookUp) (key : List String) (p : Selector) :
    compiledKeys (us ++ [⟨key, .ok p⟩]) = compiledKeys us ++ [key] := by
  simp [compiledKeys, List.filter_cons]

theorem compiledKeys_concat_error (us : List LookUp) (key : List String) (f : Failure) :
    compiledKeys (us ++ [⟨key, .error f⟩]) = compiledKeys us := by
  simp [compiledKeys]

theorem mem_compiledKeys_iff {us : List LookUp} {key : List String} :
    key ∈ compiledKeys us ↔ ∃ p, ⟨key, .ok p⟩ ∈ us := by
  rw [compiledKeys, List.mem_map]
  constructor
  · rintro ⟨⟨key, f | p⟩, hu, rfl⟩
    · simp at hu
    · exact ⟨p, (List.mem_filter.mp hu).1⟩
  · rintro ⟨p, hp⟩
    exact ⟨⟨key, .ok p⟩, List.mem_filter.mpr ⟨hp, rfl⟩, rfl⟩

end LookUp

/-- A cache, and the look-ups that were made in it since it was cleared last. -/
structure Ledger where
  cache : Cache
  lookUps : List LookUp

namespace Ledger

/-- The ledger of a new cache. -/
def new (flag : Option Bool) : Ledger := ⟨{ flag }, []⟩

/-- The ledger after a call. -/
def call (l : Ledger) : CacheCall → Ledger
  | .compile policy q =>
    let answer := l.cache.answer policy q
    ⟨answer.cache, l.lookUps ++ ((policy.lookedUp? q).map (LookUp.mk · answer.result)).toList⟩
  | .clear => ⟨l.cache.clear, []⟩

/-- The ledger after a history of calls. -/
def after (l : Ledger) (history : List CacheCall) : Ledger := history.foldl call l

/-- The entries and the counts are those that the look-ups account for. -/
structure Balanced (l : Ledger) : Prop where
  /-- A look-up came to what its key compiles to. -/
  result_eq : ∀ u ∈ l.lookUps, u.result = Query.compileElements (u.key.map .token)
  /-- The keys that compiled have an entry each, in the order in which they were first looked up. -/
  stored : l.cache.storedKeys = (LookUp.compiledKeys l.lookUps).eraseDups
  distinct : l.cache.storedKeys.Nodup
  /-- The entry of a key is the selector that its look-ups came to. -/
  entry_iff : ∀ key p, l.cache.entries.find? key = some p ↔ ⟨key, .ok p⟩ ∈ l.lookUps
  lookUps : l.cache.hits + l.cache.misses = l.lookUps.length
  /-- A miss has left an entry, or the look-up failed. -/
  misses : l.cache.misses = l.cache.size + l.lookUps.countP (!·.succeeded)

theorem balanced_new (flag : Option Bool) : (new flag).Balanced where
  result_eq u hu := absurd hu List.not_mem_nil
  stored := rfl
  distinct := List.nodup_nil
  entry_iff key p := by simp [new, Mapping.find?]
  lookUps := rfl
  misses := rfl

/-- The flag makes no difference. -/
theorem Balanced.of_sameMemo {l : Ledger} (h : l.Balanced) {c : Cache} (hc : c.SameMemo l.cache) :
    Balanced ⟨c, l.lookUps⟩ where
  result_eq := h.result_eq
  stored := by rw [Cache.storedKeys, hc.entries]; exact h.stored
  distinct := by rw [Cache.storedKeys, hc.entries]; exact h.distinct
  entry_iff key p := by rw [hc.entries]; exact h.entry_iff key p
  lookUps := by rw [hc.hits, hc.misses]; exact h.lookUps
  misses := by rw [hc.misses, Cache.size, hc.entries]; exact h.misses

/-- A look-up that finds an entry is one more hit. -/
theorem Balanced.hit {l : Ledger} (h : l.Balanced) {key : List String} {p : Selector}
    (hp : l.cache.entries.find? key = some p) :
    Balanced ⟨{ l.cache with hits := l.cache.hits + 1 }, l.lookUps ++ [⟨key, .ok p⟩]⟩ := by
  have hmem := (h.entry_iff key p).mp hp
  refine ⟨?_, ?_, h.distinct, ?_, ?_, ?_⟩
  · intro u hu
    rcases List.mem_append.mp hu with hu | hu
    · exact h.result_eq u hu
    · obtain rfl := List.mem_singleton.mp hu
      exact h.result_eq _ hmem
  · -- the key is there already, so it is not listed again
    have hknown : key ∈ LookUp.compiledKeys l.lookUps := LookUp.mem_compiledKeys_iff.mpr ⟨p, hmem⟩
    show l.cache.storedKeys = _
    rw [h.stored, LookUp.compiledKeys_concat_ok, List.eraseDups_append]
    simp [List.removeAll, hknown]
  · intro other q
    rw [List.mem_append, List.mem_singleton, ← h.entry_iff]
    constructor
    · exact Or.inl
    · rintro (hq | hq)
      · exact hq
      · obtain ⟨rfl, hqp⟩ := LookUp.mk.inj hq
        rw [Except.ok.inj hqp]
        exact hp
  · have hlookUps := h.lookUps
    simp only [List.length_append, List.length_singleton]
    omega
  · have hmisses := h.misses
    simpa [Cache.size] using hmisses

/-- A look-up that finds nothing is one more miss, with an entry for a key that compiles. -/
theorem Balanced.added {l : Ledger} (h : l.Balanced) {key : List String} {p : Selector}
    (hnew : l.cache.entries.find? key = none)
    (hp : Query.compileElements (key.map .token) = .ok p) :
    Balanced ⟨{ l.cache with
      misses := l.cache.misses + 1, entries := l.cache.entries ++ [(key, p)] },
      l.lookUps ++ [⟨key, .ok p⟩]⟩ := by
  have hunknown : key ∉ l.cache.storedKeys := by
    rw [Cache.mem_storedKeys_iff]
    simp [hnew]
  have hkeys : key ∉ LookUp.compiledKeys l.lookUps := by
    rw [← List.mem_eraseDups, ← h.stored]
    exact hunknown
  refine ⟨?_, ?_, ?_, ?_, ?_, ?_⟩
  · intro u hu
    rcases List.mem_append.mp hu with hu | hu
    · exact h.result_eq u hu
    · obtain rfl := List.mem_singleton.mp hu
      exact hp.symm
  · show (l.cache.entries ++ [(key, p)]).map Prod.fst = _
    rw [List.map_append, ← Cache.storedKeys, h.stored, LookUp.compiledKeys_concat_ok,
      List.eraseDups_append]
    simp [List.removeAll, List.eraseDups_cons, hkeys]
  · show ((l.cache.entries ++ [(key, p)]).map Prod.fst).Nodup
    rw [List.map_append, ← Cache.storedKeys, List.map_singleton, List.nodup_append]
    refine ⟨h.distinct, List.pairwise_singleton _ key, fun other hother k hk => ?_⟩
    obtain rfl := List.mem_singleton.mp hk
    rintro rfl
    exact hunknown hother
  · intro other q
    show (l.cache.entries ++ [(key, p)]).find? other = some q ↔ _
    rw [Mapping.find?_concat, Option.or_eq_some_iff, List.mem_append, List.mem_singleton,
      ← h.entry_iff, LookUp.mk.injEq]
    refine or_congr Iff.rfl ?_
    by_cases hkey : key = other
    · subst hkey
      simp [hnew, eq_comm]
    · simp [hkey, Ne.symm hkey]
  · have hlookUps := h.lookUps
    simp only [List.length_append, List.length_singleton]
    omega
  · have hmisses := h.misses
    rw [Cache.size] at hmisses ⊢
    simp at hmisses ⊢
    omega

/-- A look-up of a key that does not compile is one more miss, and nothing else. -/
theorem Balanced.refused {l : Ledger} (h : l.Balanced) {key : List String} {f : Failure}
    (hf : Query.compileElements (key.map .token) = .error f) :
    Balanced ⟨{ l.cache with misses := l.cache.misses + 1 }, l.lookUps ++ [⟨key, .error f⟩]⟩ := by
  refine ⟨?_, ?_, h.distinct, ?_, ?_, ?_⟩
  · intro u hu
    rcases List.mem_append.mp hu with hu | hu
    · exact h.result_eq u hu
    · obtain rfl := List.mem_singleton.mp hu
      exact hf.symm
  · show l.cache.storedKeys = _
    rw [h.stored, LookUp.compiledKeys_concat_error]
  · intro other q
    rw [List.mem_append, List.mem_singleton, ← h.entry_iff]
    simp
  · have hlookUps := h.lookUps
    simp only [List.length_append, List.length_singleton]
    omega
  · have hmisses := h.misses
    rw [Cache.size] at hmisses ⊢
    simp at hmisses ⊢
    omega

/-- Every call keeps the books balanced. -/
theorem Balanced.call {l : Ledger} (h : l.Balanced) (c : CacheCall) : (l.call c).Balanced := by
  cases c with
  | clear => exact balanced_new l.cache.flag
  | compile policy q =>
    rw [Ledger.call]
    rcases l.cache.answer_cases policy q with ⟨hkey, hcache⟩ | ⟨key, hkey, hanswer⟩
    · rw [hkey, hcache, Option.map_none, Option.toList_none, List.append_nil]
      exact h.of_sameMemo (l.cache.sameMemo_under policy)
    · have hunder : Balanced ⟨l.cache.under policy, l.lookUps⟩ :=
        h.of_sameMemo (l.cache.sameMemo_under policy)
      rw [hkey, Option.map_some, Option.toList_some]
      rcases hanswer with ⟨p, hp, hanswer⟩ | ⟨p, hnew, hp, hanswer⟩ | ⟨f, -, hf, hanswer⟩
      · rw [hanswer]
        exact hunder.hit hp
      · rw [hanswer]
        exact hunder.added hnew hp
      · rw [hanswer]
        exact hunder.refused hf

theorem Balanced.after {l : Ledger} (h : l.Balanced) (history : List CacheCall) :
    (l.after history).Balanced := by
  induction history generalizing l with
  | nil => exact h
  | cons c history ih => exact ih (h.call c)

/-! ## Calls that look nothing up -/

/-- Calls without a look-up change neither the entries nor the counts, and are not in the books. -/
theorem after_of_no_lookUp {l : Ledger} {period : List CacheCall}
    (h : ∀ c ∈ period, ∃ policy q, c = .compile policy q ∧ policy.lookedUp? q = none) :
    (l.after period).cache.SameMemo l.cache ∧ (l.after period).lookUps = l.lookUps := by
  induction period generalizing l with
  | nil => exact ⟨⟨rfl, rfl, rfl⟩, rfl⟩
  | cons c period ih =>
    obtain ⟨policy, q, rfl, hkey⟩ := h c List.mem_cons_self
    have hcall : l.call (.compile policy q) = ⟨l.cache.under policy, l.lookUps⟩ := by
      rcases l.cache.answer_cases policy q with ⟨-, hcache⟩ | ⟨key, hsome, -⟩
      · rw [call, hkey, hcache, Option.map_none, Option.toList_none, List.append_nil]
      · rw [hkey] at hsome
        cases hsome
    obtain ⟨hmemo, hlookUps⟩ := ih (l := l.call (.compile policy q))
      fun d hd => h d (List.mem_cons_of_mem _ hd)
    rw [hcall] at hmemo hlookUps
    rw [after, List.foldl_cons, hcall]
    exact ⟨hmemo.trans (l.cache.sameMemo_under policy), hlookUps⟩

theorem Balanced.size_eq {l : Ledger} (h : l.Balanced) :
    l.cache.size = (LookUp.compiledKeys l.lookUps).eraseDups.length := by
  rw [← h.stored, Cache.storedKeys, List.length_map, Cache.size]

/-- **The entries and the counts of a cache are those that its look-ups account for.** Take any history
of calls, each under a policy of its own, and the look-ups made since the last clearing: the books
balance. From there on, a look-up of a stored key is a hit and answers with the stored selector; one
of a key that does not compile is a miss, fails, and stores nothing; the cache has a query just when
its key is stored; and calls made while the cache is disabled, or with queries that are not made of
tokens alone, change neither entries nor counts, however many there are. -/
theorem entries_and_counts_match_lookUps (flag : Option Bool) (history : List CacheCall) :
    ((new flag).after history).Balanced ∧
    ∀ c, c = ((new flag).after history).cache →
      c.size = (LookUp.compiledKeys ((new flag).after history).lookUps).eraseDups.length ∧
      (∀ (policy : CachePolicy) (q : Query) (key : List String), policy.enables = true →
        q.normalise = .ok (key.map .token) →
        (∀ p, c.entries.find? key = some p →
          c.answer policy q = ⟨.ok p, { c.under policy with hits := c.hits + 1 }, none⟩) ∧
        ∀ f, Query.compileElements (key.map .token) = .error f →
          c.answer policy q = ⟨.error f, { c.under policy with misses := c.misses + 1 }, none⟩) ∧
      (∀ q, c.contains q = true ↔ ∃ key ∈ c.storedKeys, q.normalise = .ok (key.map .token)) ∧
      ∀ period, (∀ call ∈ period, ∃ (policy : CachePolicy) (q : Query), call = .compile policy q ∧
          (policy.enables = false ∨ ∀ key : List String, q.normalise ≠ .ok (key.map .token))) →
        ((new flag).after (history ++ period)).cache.SameMemo c := by
  have hbalanced := (balanced_new flag).after history
  refine ⟨hbalanced, ?_⟩
  rintro c rfl
  refine ⟨hbalanced.size_eq, ?_, Cache.contains_iff _, ?_⟩
  · intro policy q key henables hkey
    have hlookUp := CachePolicy.lookedUp?_eq_some_iff.mpr ⟨henables, hkey⟩
    refine ⟨fun p hp => Cache.answer_of_stored hlookUp hp, fun f hf => ?_⟩
    refine Cache.answer_of_refused hlookUp ?_ hf
    -- an entry would have come from a look-up that succeeded
    rw [Option.eq_none_iff_forall_ne_some]
    intro p hp
    have hok := hbalanced.result_eq _ ((hbalanced.entry_iff key p).mp hp)
    rw [hf] at hok
    cases hok
  · intro period hperiod
    rw [after, List.foldl_append, ← after, ← after]
    refine (after_of_no_lookUp fun call hcall => ?_).1
    obtain ⟨policy, q, rfl, hpast⟩ := hperiod call hcall
    refine ⟨policy, q, rfl, ?_⟩
    rw [Option.eq_none_iff_forall_ne_some]
    intro key hkey
    obtain ⟨henables, hn⟩ := CachePolicy.lookedUp?_eq_some_iff.mp hkey
    rcases hpast with hpast | hpast
    · rw [henables] at hpast
      cases hpast
    · exact hpast key hn

/-- One chain twice in different words, a malformed one twice, and one while the cache is disabled. -/
theorem entries_and_counts_match_lookUps_repeated :
    ∃ (l : Ledger) (p : Selector), l = (new none).after
        [.compile ⟨none, true⟩ (.text "*  b"),
          .compile ⟨some true, false⟩ (.list [.text "*", .text "b"]),
          .compile ⟨none, true⟩ (.text "*."), .compile ⟨none, true⟩ (.tuple [.text "*."]),
          .compile ⟨none, false⟩ (.text "c")] ∧
      l.lookUps.length = 4 ∧ l.cache.hits + l.cache.misses = 4 ∧ l.cache.misses = l.cache.size + 2 ∧
      l.cache.entries.find? ["*", "b"] = some p ∧
      (l.cache.answer ⟨none, true⟩ (.text "* b")).result = .ok p ∧
      l.cache.contains (.list [.text "* b"]) = true := by
  let history : List CacheCall :=
    [.compile ⟨none, true⟩ (.text "*  b"), .compile ⟨some true, false⟩ (.list [.text "*", .text "b"]),
      .compile ⟨none, true⟩ (.text "*."), .compile ⟨none, true⟩ (.tuple [.text "*."]),
      .compile ⟨none, false⟩ (.text "c")]
  obtain ⟨hbalanced, hcache⟩ := entries_and_counts_match_lookUps none history
  obtain ⟨-, hcalls, hcontains, -⟩ := hcache _ rfl
  have hlength : ((new none).after history).lookUps.length = 4 := by decide +kernel
  have hfailed : ((new none).after history).lookUps.countP (!·.succeeded) = 2 := by decide +kernel
  have hstored : (((new none).after history).cache.entries.find? ["*", "b"]).isSome = true := by
    decide +kernel
  obtain ⟨p, hp⟩ := Option.isSome_iff_exists.mp hstored
  refine ⟨_, p, rfl, hlength, hbalanced.lookUps.trans hlength, ?_, hp, ?_, ?_⟩
  · rw [← hfailed]
    exact hbalanced.misses
  · rw [(hcalls ⟨none, true⟩ (.text "* b") ["*", "b"] rfl
      (by with_unfolding_all rfl)).1 p hp]
  · exact (hcontains _).mpr
      ⟨["*", "b"], Cache.mem_storedKeys_iff.mpr ⟨p, hp⟩, by with_unfolding_all rfl⟩

end Ledger

end MarkupQuery
