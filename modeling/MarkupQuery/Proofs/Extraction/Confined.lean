import MarkupQuery.Markup.Parsing
import MarkupQuery.Proofs.Extraction.Agreement
import MarkupQuery.Proofs.Selection.Inquiry
import MarkupQuery.Proofs.Session.Confined

/-!
# Calls are confined to their cache

Selecting and extracting reach a cache only by compiling, and every way down to compiling carries the
cache that the call was given. Hence a call is confined to that cache and to the party whose functions
it calls, also when it fails on the way. Parsing touches no cache at all.
-/

namespace MarkupQuery

open MarkupQuery.Action

variable {ι σ α : Type} {seen : ι → Trace → σ} {i : ι} {id : CacheId}

theorem Value.value_of_mem_subjects {v : Value} {s : Subject} (h : s ∈ v.subjects) :
    (∃ n, s.value = .node n) ∨ s.value = v := by
  unfold subjects at h
  split at h
  · cases h
  · obtain ⟨l, -, rfl⟩ := List.mem_map.mp h
    exact Or.inl ⟨l.node, rfl⟩
  · obtain rfl := List.mem_singleton.mp h
    exact Or.inr rfl

/-- A subject of a source that can be gone through again is in a node, or it is a member. -/
theorem Value.value_of_mem_sourceSubjects {source : Value} {offered : List Subject}
    (h : source.sourceSubjects = .ok offered) {s : Subject} (hs : s ∈ offered) :
    (∃ n, s.value = .node n) ∨ ∃ items, source.members = .ok items ∧ s.value ∈ items := by
  unfold sourceSubjects at h
  split at h
  · cases h
    cases hs
  · cases h
    obtain ⟨l, -, rfl⟩ := List.mem_map.mp hs
    exact Or.inl ⟨l.node, rfl⟩
  · cases hitems : source.members with
    | error f =>
      rw [hitems] at h
      cases h
    | ok items =>
      rw [hitems] at h
      cases h
      obtain ⟨v, hv, hsv⟩ := List.mem_flatMap.mp hs
      rcases value_of_mem_subjects hsv with hnode | rfl
      · exact Or.inl hnode
      · exact Or.inr ⟨items, rfl, hv⟩

theorem confined_select {q : Query} (hq : q.KeepsTo seen i) {source : Value}
    (hsource : source.KeepsTo seen i) : (select id q source).Confined seen i id := by
  unfold select
  simp only [selectSubjects_selector]
  refine confined_compile_bind hq fun p hp => ?_
  refine (confined_ofProbe (Selector.keepsTo_matchingIn hp.inGenerator hsource)).bind fun found => ?_
  exact (confined_log _ _ _ _).bind fun _ => confined_pure _

theorem Extractor.KeepsTo.apply {e : Extractor} (he : e.KeepsTo seen i) (v : Value) :
    (e.apply v).Confined seen i id := by
  obtain ⟨x, hx, hkeeps⟩ := he v
  rw [hx]
  exact confined_ofProbe hkeeps

namespace Extraction

theorem confined_run {x : Extraction} (hx : x.KeepsTo seen i) {source : Value}
    (hsource : source.KeepsTo seen i) : (x.run id source).Confined seen i id := by
  unfold run
  refine (confined_select hx.query hsource).bind fun found => ?_
  rcases found with _ | ⟨only, _ | ⟨other, rest⟩⟩
  · exact confined_pure _
  · exact hx.extractor.apply only
  · exact hx.extractor.apply _

variable {xs : List Extraction} {source : Value}

theorem confined_runEach (hxs : ∀ x ∈ xs, x.KeepsTo seen i) (hsource : source.KeepsTo seen i)
    (index : Nat) :
    (runEach id source index xs).Confined seen i id := by
  induction xs generalizing index with
  | nil => exact confined_pure []
  | cons x xs ih =>
    refine (confined_run (hxs x List.mem_cons_self) hsource).attempt.bind fun result => ?_
    have hrest := (ih (fun y hy => hxs y (List.mem_cons_of_mem _ hy)) (index + 1)).bind
      fun rest => confined_pure (result :: rest)
    cases result with
    | ok v => exact hrest
    | error f => exact (confined_log _ _ _ _).bind fun _ => hrest

theorem confined_runAll (hxs : ∀ x ∈ xs, x.KeepsTo seen i) (hsource : source.KeepsTo seen i) :
    (runAll id source xs).Confined seen i id := by
  unfold runAll
  split
  · exact confined_pure source
  · refine (confined_runEach hxs hsource 0).bind fun results => ?_
    split
    · exact confined_pure _
    · exact confined_pure _
    · exact confined_ofExcept (.error _)

theorem confined_runKeyed (hxs : ∀ x ∈ xs, x.KeepsTo seen i) (hsource : source.KeepsTo seen i)
    (keys : List Key) : (runKeyed id source keys xs).Confined seen i id := by
  rw [runKeyed_eq]
  exact (confined_runAll hxs hsource).bind fun extracted => confined_pure _

variable {arguments : List Argument}

/-- What follows compiling the arguments gets extractions that keep to the party when the arguments
do. -/
theorem confined_compilePairs_bind (h : ∀ x ∈ arguments, x.KeepsTo seen i)
    {f : List Extraction → Action α}
    (hf : ∀ xs, (∀ x ∈ xs, x.KeepsTo seen i) → (f xs).Confined seen i id) :
    (compilePairs id arguments >>= f).Confined seen i id := by
  fun_induction compilePairs id arguments generalizing f with
  | case1 q e rest ih =>
    rw [bind_assoc]
    refine confined_compile_bind (h _ List.mem_cons_self) fun p hp => ?_
    rw [bind_assoc]
    refine ih (fun x hx => h x (List.mem_cons_of_mem _ (List.mem_cons_of_mem _ hx))) fun xs hxs => ?_
    rw [pure_bind]
    -- the extractions hold compiled selectors in the place of the queries
    refine hf _ fun x hx => ?_
    rcases List.mem_cons.mp hx with rfl | hx
    · exact ⟨Query.keepsTo_selector hp, h _ (List.mem_cons_of_mem _ List.mem_cons_self)⟩
    · exact hxs x hx
  | case2 arguments =>
    rw [pure_bind]
    exact hf [] fun x hx => absurd hx List.not_mem_nil

theorem confined_ofArguments_bind (h : ∀ x ∈ arguments, x.KeepsTo seen i)
    {f : List Extraction → Action α}
    (hf : ∀ xs, (∀ x ∈ xs, x.KeepsTo seen i) → (f xs).Confined seen i id) :
    (ofArguments id arguments >>= f).Confined seen i id := by
  unfold ofArguments
  split
  · exact (confined_ofExcept (.error _)).bind_of_answers fun _ ⟨_, _, hx⟩ => nomatch hx
  · exact confined_compilePairs_bind h hf

end Extraction

open Extraction

variable {arguments : List Argument}

theorem confined_extract (h : ∀ x ∈ arguments, x.KeepsTo seen i) {source : Value}
    (hsource : source.KeepsTo seen i) (keys : List Key) :
    (extract id source keys arguments).Confined seen i id :=
  confined_ofArguments_bind h fun _ hxs => confined_runKeyed hxs hsource keys

theorem confined_extractEach {xs : List Extraction} (hxs : ∀ x ∈ xs, x.KeepsTo seen i)
    (keys : List Key) (index : Nat) {sources : List Value}
    (hsources : ∀ source ∈ sources, source.KeepsTo seen i) :
    (extractEach id keys xs index sources).Confined seen i id := by
  induction sources generalizing index with
  | nil => exact confined_pure []
  | cons source sources ih =>
    obtain ⟨hsource, hlater⟩ := List.forall_mem_cons.mp hsources
    refine ((confined_runKeyed hxs hsource keys).withBound _).bind fun here => ?_
    exact (ih (index + 1) hlater).bind fun rest => confined_pure _

/-- What is selected from a source is a node or a member of the source. -/
theorem mem_of_run_select {q : Query} {source : Value} {s t : Session} {found : List Value}
    (h : (select id q source).run s = (.ok found, t)) {v : Value} (hv : v ∈ found) :
    (∃ n, v = .node n) ∨ ∃ items, source.members = .ok items ∧ v ∈ items := by
  unfold select at h
  simp only [selectSubjects_selector] at h
  obtain ⟨p, t', -, h⟩ := run_bind_eq_ok h
  obtain ⟨subjects, u, hasked, h⟩ := run_bind_eq_ok h
  cases h
  obtain ⟨s, hs, rfl⟩ := List.mem_map.mp hv
  replace hasked := congrArg Prod.fst hasked
  rw [run_ofProbe] at hasked
  unfold Selector.matchingIn at hasked
  split at hasked
  · obtain ⟨n, seen, -, hdelivered⟩ := run_bind_eq_ok (Prod.ext hasked rfl)
    obtain ⟨l, rfl⟩ := Selector.exists_position_of_run_matchingDelivered hdelivered hs
    exact Or.inl ⟨l.node, rfl⟩
  · obtain ⟨offered, seen, hoffered, hmatching⟩ := run_bind_eq_ok (Prod.ext hasked rfl)
    rw [Probe.run_ofExcept] at hoffered
    exact Value.value_of_mem_sourceSubjects (congrArg Prod.fst hoffered)
      (Selector.mem_of_run_matching hmatching hs)

/-- What a narrowed call is given keeps to a party: its source, and the members of the source, which
may become sources themselves. -/
structure Value.KeepsToWithin (seen : ι → Trace → σ) (i : ι) (source : Value) : Prop where
  itself : source.KeepsTo seen i
  members : ∀ items, source.members = .ok items → ∀ v ∈ items, v.KeepsTo seen i

theorem confined_extractFrom {q : Query} (hq : q.KeepsTo seen i)
    (h : ∀ x ∈ arguments, x.KeepsTo seen i) {source : Value} (hsource : source.KeepsToWithin seen i)
    (keys : List Key) : (extractFrom id source q keys arguments).Confined seen i id :=
  confined_ofArguments_bind h fun _ hxs =>
    (confined_select hq hsource.itself).bind_of_answers fun sources ⟨_, _, hfound⟩ =>
      confined_extractEach hxs keys 0 fun v hv => by
        rcases mem_of_run_select (Prod.ext hfound rfl) hv with ⟨n, rfl⟩ | ⟨items, hitems, hmem⟩
        · exact Value.keepsTo_node n
        · exact hsource.members items hitems v hmem

/-! ## Parsing -/

namespace Markup

theorem confined_parserName (given : Option String) :
    (parserName given).Confined seen i id := by
  have hsettings : parserName.settingsName.Confined seen i id := by
    refine ⟨fun s t _ h => ⟨?_, h⟩, fun s _ => .refl s, fun _ hs => hs⟩
    show Except.ok s.settings.backend.name = Except.ok t.settings.backend.name
    rw [h.settings]
  unfold parserName
  split
  · split
    · exact hsettings
    · exact confined_pure _
  · exact hsettings

theorem confined_parse (markup given : Option String) :
    (parse markup given).Confined seen i id := by
  unfold parse
  split
  · exact confined_pure _
  · refine (confined_parserName given).bind fun parser => ?_
    refine (confined_ofExcept _).bind fun tree => ?_
    exact (confined_log _ _ _ _).bind fun _ => confined_pure _

theorem confined_parseFragment (markup given : Option String) :
    (parseFragment markup given).Confined seen i id := by
  unfold parseFragment
  split
  · exact confined_pure _
  · refine (confined_parserName given).bind fun parser => ?_
    exact (confined_ofExcept _).bind fun tree => confined_pure _

end Markup
end MarkupQuery
