import MarkupQuery.Proofs.Extraction.Product

/-!
# A narrowed call

A narrowed call compiles its extractions once and runs them on every match of the narrowing query. It
is the same as a call of its own for each of the matches, one after the other up to the first that
fails: whether the queries are compiled again for every match makes no difference.

Main statement: `Extraction.extractFrom_maps_extract`.
-/

namespace MarkupQuery

namespace Action

variable {α ι : Type}

/-- Actions are run in turn up to the first that fails. What comes of it is the list of their answers,
or that failure. -/
inductive RunsToFailure : Session → List (Action α) → Except Failure (List α) → Session → Prop
  | nil (s : Session) : RunsToFailure s [] (.ok []) s
  | answered {s t : Session} {a : Action α} {as : List (Action α)} {v : α}
      {r : Except Failure (List α)} (h : (a.run s).1 = .ok v)
      (hrest : RunsToFailure (a.run s).2 as r t) : RunsToFailure s (a :: as) (r.map (v :: ·)) t
  | failed {s : Session} {a : Action α} (as : List (Action α)) {e : Failure}
      (h : (a.run s).1 = .error e) : RunsToFailure s (a :: as) (.error e) (a.run s).2

theorem RunsToFailure.length_eq {s t : Session} {as : List (Action α)}
    {r : Except Failure (List α)} (h : RunsToFailure s as r t) {vs : List α} (hvs : r = .ok vs) :
    vs.length = as.length := by
  induction h generalizing vs with
  | nil =>
    obtain rfl := Except.ok.inj hvs
    rfl
  | @answered s t a as v r _ _ ih =>
    cases r with
    | error e => cases hvs
    | ok rest =>
      obtain rfl := Except.ok.inj hvs
      rw [List.length_cons, List.length_cons, ih rfl]
  | failed => cases hvs

theorem mapM_runsToFailure (f : ι → Action α) (xs : List ι) (s : Session) :
    RunsToFailure s (xs.map f) ((xs.mapM f).run s).1 ((xs.mapM f).run s).2 := by
  induction xs generalizing s with
  | nil => exact .nil s
  | cons x xs ih =>
    rw [List.mapM_cons, List.map_cons, run_bind]
    rcases hx : (f x).run s with ⟨_ | v, t⟩
    · have hfailed := RunsToFailure.failed (xs.map f) (congrArg Prod.fst hx)
      rwa [hx] at hfailed
    · have hlater : RunsToFailure ((f x).run s).2 (xs.map f) ((xs.mapM f).run t).1
          ((xs.mapM f).run t).2 := by
        rw [hx]
        exact ih t
      have hanswered := RunsToFailure.answered (congrArg Prod.fst hx) hlater
      simp only [run_bind]
      rcases hrest : (xs.mapM f).run t with ⟨_ | vs, u⟩
      · rwa [hrest] at hanswered
      · rwa [hrest] at hanswered

theorem mapM_agrees {f g : ι → Action α} (h : ∀ x, (f x).Agrees (g x)) (xs : List ι) :
    (xs.mapM f).Agrees (xs.mapM g) := by
  induction xs with
  | nil => exact ignoresCaches_pure []
  | cons x xs ih =>
    rw [List.mapM_cons, List.mapM_cons]
    exact (h x).bind fun v => ih.bind fun vs => ignoresCaches_pure _

end Action

namespace Extraction

/-- A narrowed call agrees with calls on the matches: both run the same extractions on them. -/
theorem extractFrom_flat_agrees {xs : List Extraction}
    (hcompile : ∀ x ∈ xs, ∃ p, x.query.compile = .ok p)
    (hignores : ∀ x ∈ xs, x.extractor.IgnoresCaches) (id : CacheId) (source : Value) (q : Query)
    (keys : List Key) :
    (extractFrom id source q keys (flat xs)).Agrees (do
      let sources ← select id q source
      sources.mapM fun sub => extract id sub keys (flat xs)) := by
  obtain ⟨ys, hys, hmatch⟩ := paired_flat hcompile hignores
  have hcall := extractFrom_agrees (ignoresCaches_of_mem_flat hignores) id id source q keys
  rw [hys] at hcall
  refine hcall.trans ?_
  refine (select_agrees rfl id id source).bind fun sources => ?_
  refine Action.mapM_agrees (fun sub => ?_) sources
  exact (runKeyed_agrees_runKeyed hmatch id id sub keys).trans
    (extract_flat_agrees hcompile hignores id id sub keys).symm

/-- **A narrowed call is a call on each match in turn.** For extractions whose queries compile, it has
the outcome that mapping the call over the selection has, and makes the same calls. Once the selection
is made, that is one answer for each selected node, in order, or the failure of the first call that
fails; later nodes are then left alone. -/
theorem extractFrom_maps_extract {s : Session} (hs : s.Faithful) {xs : List Extraction}
    (hcompile : ∀ x ∈ xs, ∃ p, x.query.compile = .ok p)
    (hignores : ∀ x ∈ xs, x.extractor.IgnoresCaches) (id : CacheId) (source : Value) (q : Query)
    (keys : List Key) :
    (extractFrom id source q keys (flat xs)).AgreesFrom s s (do
      let sources ← select id q source
      sources.mapM fun sub => extract id sub keys (flat xs)) ∧
    ∀ sources t, (select id q source).run s = (.ok sources, t) →
      ∃ r u, Action.RunsToFailure t (sources.map fun sub => extract id sub keys (flat xs)) r u ∧
        ((extractFrom id source q keys (flat xs)).run s).1 = r ∧
        ((extractFrom id source q keys (flat xs)).run s).2.trace = u.trace ∧
        ∀ records, r = .ok records → records.length = sources.length := by
  have hagrees := (extractFrom_flat_agrees hcompile hignores id source q keys).agreesFrom hs.alike
  refine ⟨hagrees, fun sources t hselect => ?_⟩
  obtain ⟨houtcome, htrace⟩ := hagrees
  rw [run_bind, hselect] at houtcome htrace
  have hruns := Action.mapM_runsToFailure (fun sub => extract id sub keys (flat xs)) sources t
  refine ⟨_, _, hruns, houtcome, htrace, fun records hrecords => ?_⟩
  rw [hruns.length_eq hrecords, List.length_map]

/-- The third of four matches fails, where an extractor has extractions of its own. -/
theorem extractFrom_maps_extract_third_fails :
    let source : Value := .node (.element "ul" none [.element "li" none [.text "a"],
      .element "li" none [], .element "li" none [.text "b"]])
    let inner : Extractor := ⟨(run .shared · ⟨.text "*", .tag⟩), "inner"⟩
    let xs : List Extraction := [⟨.selector .atRoot, inner⟩, ⟨.text "*", .nth 1 true⟩]
    ∃ sources t r u,
      (select .shared (.selector (.ofKind [.element])) source).run {} = (.ok sources, t) ∧
      sources.length = 4 ∧
      Action.RunsToFailure t (sources.map fun sub => extract .shared sub [] (flat xs)) r u ∧
      ((extractFrom .shared source (.selector (.ofKind [.element])) [] (flat xs)).run {}).1 = r ∧
      r = .error (.extractionsFailed 2 [(1, .notASequence 1 "Element")]) := by
  intro source inner xs
  have hcompile : ∀ x ∈ xs, ∃ p, x.query.compile = .ok p := by
    intro x hx
    simp only [xs, List.mem_cons, List.not_mem_nil, or_false] at hx
    rcases hx with rfl | rfl
    · exact ⟨_, rfl⟩
    · exact Query.exists_compile_eq_ok (by decide +kernel)
  have hignores : ∀ x ∈ xs, x.extractor.IgnoresCaches := by
    intro x hx
    simp only [xs, List.mem_cons, List.not_mem_nil, or_false] at hx
    rcases hx with rfl | rfl
    · exact fun v => run_agrees ⟨rfl, rfl, Extractor.ignoresCaches_ofFunction _ _⟩ .shared .shared v
    · exact Extractor.ignoresCaches_ofFunction _ _
  have hselect : ((select .shared (.selector (.ofKind [.element])) source).run {}).1 =
      .ok [source, .node (.element "li" none [.text "a"]), .node (.element "li" none []),
        .node (.element "li" none [.text "b"])] := by with_unfolding_all rfl
  obtain ⟨r, u, hruns, houtcome, -⟩ :=
    (extractFrom_maps_extract Session.faithful_default hcompile hignores .shared source
      (.selector (.ofKind [.element])) []).2 _ _ (Prod.ext hselect rfl)
  refine ⟨_, _, r, u, Prod.ext hselect rfl, rfl, hruns, houtcome, ?_⟩
  rw [← houtcome]
  decide +kernel

end Extraction
end MarkupQuery
