import Mathlib.Data.List.Forall2
import MarkupQuery.Extraction.Pipeline
import MarkupQuery.Proofs.Session.Alike

/-!
# Calls agree whatever cache they go through

Selecting and extracting touch caches only by compiling through them, so two calls agree when they
compile the same and go through any two caches. An extractor may itself do what it likes with caches,
as long as it takes no notice of what they remember; the library's own extractors do not even look at
a session.

Extractions of one call agree with their runs made one after the other, each of them once and
whatever became of those before it (`Action.inTurn`), followed by a function of their outcomes
(`Extraction.gathered`).
-/

namespace MarkupQuery

open MarkupQuery.Action

/-! ## Selections -/

theorem Action.compile_agrees_compile {q q' : Query} (h : q.compile = q'.compile)
    (id id' : CacheId) : (Action.compile id q).Agrees (Action.compile id' q') := by
  have hright := compile_agrees id' q'
  rw [← h] at hright
  exact (compile_agrees id q).trans hright.symm

/-- What has been compiled is handed on as it is. -/
theorem selectSubjects_selector (id : CacheId) (p : Selector) (source : Value) :
    selectSubjects id (.selector p) source = ofProbe (p.inGenerator.matchingIn source) := by
  rw [selectSubjects, compile_selector_eq_pure, pure_bind]

theorem select_agrees {q q' : Query} (h : q.compile = q'.compile) (id id' : CacheId)
    (source : Value) : (select id q source).Agrees (select id' q' source) := by
  unfold select
  simp only [selectSubjects_selector]
  refine (compile_agrees_compile h id id').bind fun p => ?_
  refine (ignoresCaches_ofProbe _).bind fun found => ?_
  exact (log_agrees _ _ _ _).left.bind fun _ => ignoresCaches_pure _

namespace Scan

theorem ignoresCaches_seek (p : Selector) (rest : List Subject) :
    (seek p rest).IgnoresCaches := by
  unfold seek
  refine (ignoresCaches_ofProbe _).bind fun found => ?_
  cases found with
  | none => exact ignoresCaches_pure _
  | some next => exact ignoresCaches_pure _

theorem ignoresCaches_draw (p : Selector) (rest : List Subject) (feed : Nat) :
    (draw p rest feed).IgnoresCaches := by
  unfold draw
  refine (ignoresCaches_ofProbe _).bind fun found => ?_
  cases found with
  | some next => exact ignoresCaches_pure _
  | none =>
    refine (ignoresCaches_ofProbe _).bind fun found => ?_
    cases found with
    | none => exact ignoresCaches_pure _
    | some next => exact ignoresCaches_pure _

theorem step_pending_agrees {q q' : Query} (h : q.compile = q'.compile) (id id' : CacheId)
    (source : Value) : (pending id q source).step.Agrees (pending id' q' source).step := by
  refine (compile_agrees_compile h id id').bind fun p => ?_
  split
  · exact ignoresCaches_draw p.inGenerator [] _
  · exact (ignoresCaches_ofExcept _).bind fun subjects => ignoresCaches_seek p.inGenerator subjects

theorem ignoresCaches_step (scan : Scan) : scan.step.IgnoresCaches := by
  cases scan with
  | pending id q source => exact step_pending_agrees rfl id id source
  | running p rest => exact ignoresCaches_seek p rest
  | drawing p rest feed => exact ignoresCaches_draw p rest feed
  | spent => exact ignoresCaches_pure _

theorem ignoresCaches_advance (scan : Scan) : scan.advance.IgnoresCaches := by
  unfold advance
  refine (ignoresCaches_step scan).outcome.bind fun result => ?_
  cases result with
  | ok found => exact ignoresCaches_pure _
  | error f => exact ignoresCaches_pure _

end Scan

theorem selectFirst_agrees {q q' : Query} (h : q.compile = q'.compile) (id id' : CacheId)
    (source : Value) : (selectFirst id q source).Agrees (selectFirst id' q' source) := by
  unfold selectFirst
  exact (Scan.step_pending_agrees h id id' source).bind fun _ => ignoresCaches_pure _

/-! ## Extractors -/

/-- An extractor takes no notice of what caches remember, nor of the journal. -/
def Extractor.IgnoresCaches (e : Extractor) : Prop := ∀ v, (e.apply v).IgnoresCaches

namespace Extractor

theorem ignoresCaches_ofFunction (f : Value → Except Failure Value) (name : String) :
    (ofFunction f name).IgnoresCaches :=
  fun v => ignoresCaches_ofExcept (f v)

end Extractor

/-! ## Runs in turn -/

/-- Runs every action once, in order and whatever became of those before it, and lists the outcomes.
Only what asks for the program to end is not held up. -/
def Action.inTurn {α : Type} : List (Action α) → Action (List (Except Failure α))
  | [] => pure []
  | a :: as => do
    let result ← attempt a
    let rest ← inTurn as
    pure (result :: rest)

namespace Extraction

/-- Two extractions do the same: they compile the same and have the same extractor, which takes no
notice of caches. -/
structure Matches (x y : Extraction) : Prop where
  query : x.query.compile = y.query.compile
  extractor : x.extractor = y.extractor
  ignores : y.extractor.IgnoresCaches

theorem run_agrees {x y : Extraction} (h : x.Matches y) (id id' : CacheId) (source : Value) :
    (x.run id source).Agrees (y.run id' source) := by
  unfold run
  rw [h.extractor]
  refine (select_agrees h.query id id' source).bind fun found => ?_
  rcases found with _ | ⟨only, _ | ⟨other, rest⟩⟩
  · exact ignoresCaches_pure _
  · exact h.ignores only
  · exact h.ignores _

/-- The runs that a call with several extractions makes. -/
def runs (id : CacheId) (source : Value) (xs : List Extraction) : List (Action Value) :=
  xs.map (·.run id source)

section Steps

variable {id : CacheId} {source : Value} {x : Extraction} {s t : Session} {f : Failure}

theorem run_runEach_of_ok {v : Value} (h : (x.run id source).run s = (.ok v, t)) (index : Nat)
    (xs : List Extraction) : (runEach id source index (x :: xs)).run s =
      (runEach id source (index + 1) xs >>= fun rest => pure (.ok v :: rest)).run t := by
  rw [runEach, run_bind, run_attempt, h]
  rfl

/-- A failed extraction is noted in the journal, and the others are run. -/
theorem run_runEach_of_error (h : (x.run id source).run s = (.error f, t))
    (hf : f.isInterrupt = false) (index : Nat) (xs : List Extraction) :
    (runEach id source index (x :: xs)).run s =
      (runEach id source (index + 1) xs >>= fun rest => pure (.error f :: rest)).run
        { t with
          journal := t.journal.record .warning "chisel.extraction.pipeline" "Extraction pair failed"
            [("pair", .whole index), ("selector", x.query.toValue), ("error", .text f.message),
              ("error_type", .text f.className)] } := by
  rw [runEach, run_bind, run_attempt, h, Failure.caught, hf]
  rfl

/-- After one that asks for the program to end no extraction is run. -/
theorem run_runEach_of_interrupt (h : (x.run id source).run s = (.error f, t))
    (hf : f.isInterrupt = true) (index : Nat) (xs : List Extraction) :
    (runEach id source index (x :: xs)).run s = (.error f, t) := by
  rw [runEach, run_bind, run_attempt, h, Failure.caught, hf]
  rfl

/-- Running an extraction adds its outcome to those of the others, and an event at most, unless it asks
for the program to end. -/
theorem run_runEach_cons {r : Except Failure Value} (h : (x.run id source).run s = (r, t))
    (index : Nat) (xs : List Extraction) :
    (∃ journal, (runEach id source index (x :: xs)).run s =
      (runEach id source (index + 1) xs >>= fun rest => pure (r :: rest)).run { t with journal }) ∨
    ∃ f, f.isInterrupt = true ∧ r = .error f ∧
      (runEach id source index (x :: xs)).run s = (.error f, t) := by
  cases r with
  | ok v => exact Or.inl ⟨t.journal, run_runEach_of_ok h index xs⟩
  | error f =>
    cases hf : f.isInterrupt with
    | false => exact Or.inl ⟨_, run_runEach_of_error h hf index xs⟩
    | true => exact Or.inr ⟨f, hf, rfl, run_runEach_of_interrupt h hf index xs⟩

end Steps

/-- The warnings in between are no difference. -/
theorem runEach_agrees {xs ys : List Extraction} (h : List.Forall₂ Matches xs ys) (id id' : CacheId)
    (source : Value) (index : Nat) :
    (runEach id source index xs).Agrees (inTurn (runs id' source ys)) := by
  induction h generalizing index with
  | nil => exact ignoresCaches_pure []
  | cons hxy _ ih =>
    refine (run_agrees hxy id id' source).attempt.bind fun result => ?_
    have hrest := (ih (index + 1)).bind fun rest => ignoresCaches_pure (result :: rest)
    cases result with
    | ok v => exact hrest
    | error f => exact (log_agrees _ _ _ _).bind fun _ => hrest

/-! ## Answers -/

/-- The answer to a number of extractions with the given outcomes. -/
def gathered (source : Value) (n : Nat) (results : List (Except Failure Value)) :
    Except Failure Value :=
  if n = 0 then .ok source
  else match failuresFrom 0 results, valuesOf results with
    | [], [only] => .ok only
    | [], values => .ok (.list values)
    | failures, _ => .error (.extractionsFailed n failures)

/-- The answers to a number of extractions under the keys, if there are any. -/
def keyed (keys : List Key) (n : Nat) (extracted : Value) : Value :=
  match keys with
  | [] => extracted
  | key :: _ =>
    if n ≤ 1 then Key.record [(key, extracted)]
    else match extracted with
      | .list values => Key.record (Mapping.ofPairs (keys.zip values))
      | v => v

theorem runAll_agrees {xs ys : List Extraction} (h : List.Forall₂ Matches xs ys) (id id' : CacheId)
    (source : Value) : (runAll id source xs).Agrees (do
      let results ← inTurn (runs id' source ys)
      Action.ofExcept (gathered source ys.length results)) := by
  have hlength := h.length_eq
  cases h with
  | nil => exact ignoresCaches_pure source
  | cons hxy hrest =>
    refine (runEach_agrees (.cons hxy hrest) id id' source 0).bind fun results => ?_
    rw [gathered, if_neg (by simp), hlength]
    cases failuresFrom 0 results with
    | nil =>
      rcases valuesOf results with _ | ⟨only, _ | ⟨other, rest⟩⟩ <;> exact ignoresCaches_pure _
    | cons first failures => exact ignoresCaches_ofExcept (.error _)

theorem runKeyed_eq (id : CacheId) (source : Value) (keys : List Key) (xs : List Extraction) :
    runKeyed id source keys xs = (do
      let extracted ← runAll id source xs
      pure (keyed keys xs.length extracted)) := by
  unfold runKeyed
  congr 1
  funext extracted
  rcases keys with _ | ⟨key, keys⟩
  · rfl
  · rcases xs with _ | ⟨x, _ | ⟨y, xs⟩⟩
    · rfl
    · rfl
    · have hmany : ¬ (x :: y :: xs).length ≤ 1 := by simp
      unfold keyed
      dsimp only
      rw [if_neg hmany]
      cases extracted <;> rfl

/-- What a call with compiled extractions answers, by the outcomes of its runs. -/
theorem runKeyed_agrees {xs ys : List Extraction} (h : List.Forall₂ Matches xs ys) (id id' : CacheId)
    (source : Value) (keys : List Key) : (runKeyed id source keys xs).Agrees (do
      let results ← inTurn (runs id' source ys)
      Action.ofExcept ((gathered source ys.length results).map (keyed keys ys.length))) := by
  rw [runKeyed_eq, h.length_eq]
  have hall := (runAll_agrees h id id' source).bind fun extracted =>
    ignoresCaches_pure (keyed keys ys.length extracted)
  simpa only [bind_assoc, ofExcept_bind_pure] using hall

theorem Matches.right {x y : Extraction} (h : x.Matches y) : y.Matches y := ⟨rfl, rfl, h.ignores⟩

theorem forall₂_matches_right {xs ys : List Extraction} (h : List.Forall₂ Matches xs ys) :
    List.Forall₂ Matches ys ys := by
  induction h with
  | nil => exact .nil
  | cons hxy _ ih => exact .cons hxy.right ih

theorem runKeyed_agrees_runKeyed {xs ys : List Extraction} (h : List.Forall₂ Matches xs ys)
    (id id' : CacheId) (source : Value) (keys : List Key) :
    (runKeyed id source keys xs).Agrees (runKeyed id' source keys ys) :=
  (runKeyed_agrees h id id' source keys).trans
    (runKeyed_agrees (forall₂_matches_right h) id' id' source keys).symm

/-! ## Flat arguments -/

/-- The extractions that flat arguments stand for, compiled. -/
def compiled : List Argument → Except Failure (List Extraction)
  | .query q :: .extractor e :: rest => do
    let p ← q.compile
    let more ← compiled rest
    pure (⟨.selector p, e⟩ :: more)
  | _ => pure []

/-- Flat arguments as pairs, compiled. -/
def paired (arguments : List Argument) : Except Failure (List Extraction) :=
  if arguments.length % 2 = 1 then .error (.unpairedArguments arguments.length)
  else compiled arguments

theorem compilePairs_agrees (id : CacheId) (arguments : List Argument) :
    (compilePairs id arguments).Agrees (Action.ofExcept (compiled arguments)) := by
  fun_induction compilePairs id arguments with
  | case1 q e rest ih =>
    rw [compiled, ← ofExcept_bind]
    refine (compile_agrees id q).bind fun p => ?_
    rw [← ofExcept_bind]
    exact ih.bind fun more => ignoresCaches_pure _
  | case2 arguments h =>
    have hnone : compiled arguments = .ok [] := by
      unfold compiled
      split
      · next q e rest => exact absurd rfl (h q e rest)
      · rfl
    rw [hnone]
    exact ignoresCaches_pure []

theorem ofArguments_agrees (id : CacheId) (arguments : List Argument) :
    (ofArguments id arguments).Agrees (Action.ofExcept (paired arguments)) := by
  unfold ofArguments paired
  split
  · exact ignoresCaches_ofExcept (.error _)
  · exact compilePairs_agrees id arguments

/-- The extractors are those among the arguments. -/
theorem extractor_mem_of_compiled {arguments : List Argument} {xs : List Extraction}
    (h : compiled arguments = .ok xs) : ∀ x ∈ xs, .extractor x.extractor ∈ arguments := by
  fun_induction compiled arguments generalizing xs with
  | case1 q e rest ih =>
    cases hp : q.compile with
    | error f =>
      rw [hp] at h
      cases h
    | ok p =>
      cases hmore : compiled rest with
      | error f =>
        rw [hp, hmore] at h
        cases h
      | ok more =>
        rw [hp, hmore] at h
        obtain rfl := Except.ok.inj h
        intro x hx
        rcases List.mem_cons.mp hx with rfl | hx
        · exact List.mem_cons_of_mem _ List.mem_cons_self
        · exact List.mem_cons_of_mem _ (List.mem_cons_of_mem _ (ih hmore x hx))
  | case2 arguments h' =>
    obtain rfl := Except.ok.inj h
    exact fun x hx => absurd hx List.not_mem_nil

theorem matches_of_paired {arguments : List Argument} {xs : List Extraction}
    (h : paired arguments = .ok xs)
    (hignores : ∀ e, .extractor e ∈ arguments → e.IgnoresCaches) :
    List.Forall₂ Matches xs xs := by
  rw [paired] at h
  split at h
  · cases h
  · exact List.forall₂_same.mpr fun x hx =>
      ⟨rfl, rfl, hignores _ (extractor_mem_of_compiled h x hx)⟩

end Extraction

open Extraction

variable {arguments : List Argument}

theorem extract_agrees (hignores : ∀ e, .extractor e ∈ arguments → e.IgnoresCaches)
    (id id' : CacheId) (source : Value) (keys : List Key) :
    (extract id source keys arguments).Agrees
      (Action.ofExcept (paired arguments) >>= runKeyed id' source keys) :=
  (ofArguments_agrees id arguments).ofExcept_bind fun _ hxs =>
    runKeyed_agrees_runKeyed (matches_of_paired hxs hignores) id id' source keys

/-- Extracting from several sources is extracting from each of them in turn, up to the first
failure. -/
theorem extractEach_agrees {xs ys : List Extraction} (h : List.Forall₂ Matches xs ys)
    (id id' : CacheId) (keys : List Key) (index : Nat) (sources : List Value) :
    (extractEach id keys xs index sources).Agrees
      (sources.mapM fun source => runKeyed id' source keys ys) := by
  induction sources generalizing index with
  | nil => exact ignoresCaches_pure []
  | cons source sources ih =>
    rw [List.mapM_cons]
    refine ((runKeyed_agrees_runKeyed h id id' source keys).withBound _).bind fun here => ?_
    exact (ih (index + 1)).bind fun rest => ignoresCaches_pure _

theorem extractFrom_agrees (hignores : ∀ e, .extractor e ∈ arguments → e.IgnoresCaches)
    (id id' : CacheId) (source : Value) (q : Query) (keys : List Key) :
    (extractFrom id source q keys arguments).Agrees (do
      let xs ← Action.ofExcept (paired arguments)
      let sources ← select id' q source
      sources.mapM fun sub => runKeyed id' sub keys xs) :=
  (ofArguments_agrees id arguments).ofExcept_bind fun _ hxs =>
    (select_agrees rfl id id' source).bind fun sources =>
      extractEach_agrees (matches_of_paired hxs hignores) id id' keys 0 sources

end MarkupQuery
