import Mathlib.Algebra.Ring.Nat
import Mathlib.Data.List.DropRight
import MarkupQuery.Proofs.Engine.Isolation

/-!
# What engines count

An engine's counts are a tally of what it was asked and answered since it was last reset. Parses and
extractions are counted whatever comes of them, selections with their matches only when they have
succeeded. What other engines do in between makes no difference, also when they share its cache.

Main statement: `World.metrics_tally_calls`.
-/

namespace MarkupQuery

namespace EngineStep

def isParse : EngineStep → Bool
  | .parse _ => true
  | .parseFragment _ => true
  | _ => false

def isExtraction : EngineStep → Bool
  | .runOn _ _ => true
  | .extract _ _ _ => true
  | .extractFrom _ _ _ _ => true
  | _ => false

def isReset : EngineStep → Bool
  | .reset => true
  | _ => false

end EngineStep

/-- What an engine was asked, and what it answered. -/
abbrev EngineCall := EngineStep × EngineAnswer

/-- The matches of a selection that succeeded. -/
def EngineCall.found? : EngineCall → Option (List Value)
  | (.select _ _, .values (.ok found)) => some found
  | _ => none

/-- The calls after the last reset. -/
def sinceReset (calls : List EngineCall) : List EngineCall := calls.rtakeWhile (!·.1.isReset)

namespace Metrics

/-- The counts of a list of calls. -/
def tally (calls : List EngineCall) : Metrics where
  parses := calls.countP (·.1.isParse)
  selections := (calls.filterMap EngineCall.found?).length
  matchCount := ((calls.filterMap EngineCall.found?).map List.length).sum
  extractions := calls.countP (·.1.isExtraction)

/-- Counts with those of another call. -/
def add (m : Metrics) (c : EngineCall) : Metrics where
  parses := m.parses + if c.1.isParse then 1 else 0
  selections := m.selections + if c.found?.isSome then 1 else 0
  matchCount := m.matchCount + (c.found?.getD []).length
  extractions := m.extractions + if c.1.isExtraction then 1 else 0

theorem tally_concat (calls : List EngineCall) (c : EngineCall) :
    tally (calls ++ [c]) = (tally calls).add c := by
  cases hc : c.found? <;> simp [tally, add, hc, List.countP_append, List.countP_singleton]

theorem tally_sinceReset_concat (calls : List EngineCall) (c : EngineCall) :
    tally (sinceReset (calls ++ [c]))
      = if c.1.isReset then {} else (tally (sinceReset calls)).add c := by
  cases hc : c.1.isReset with
  | true =>
    rw [sinceReset, List.rtakeWhile_concat_neg _ _ c (by simp [hc]), if_pos rfl]
    rfl
  | false =>
    rw [sinceReset, List.rtakeWhile_concat_pos _ _ c (by simp [hc]), tally_concat, if_neg (by simp)]
    rfl

/-- A call that is no parse, no extraction and no selection that succeeded counts for nothing. -/
theorem add_eq_self {m : Metrics} {c : EngineCall} (hparse : c.1.isParse = false)
    (hextraction : c.1.isExtraction = false) (hfound : c.found? = none) : m.add c = m := by
  simp [add, hparse, hextraction, hfound]

end Metrics

namespace EngineStep

open EngineAction

variable (e : Engine) (s : Session)

/-- A selection that finds something to answer counts, with its matches. -/
theorem runIn_select_ok {q : Query} {source : Value} {found : List Value}
    (h : ((Engine.perform (MarkupQuery.select e.cache q source)).runIn e s).1.1 = .ok found) :
    ((Engine.select q source).runIn e s).1 = (.ok found, { e with metrics := { e.metrics with
      selections := e.metrics.selections + 1
      matchCount := e.metrics.matchCount + found.length } }) := by
  rw [Engine.select, runIn_bind]
  show ((Engine.perform (MarkupQuery.select e.cache q source) >>= fun _ => _).runIn e s).1 = _
  rw [runIn_bind, h]
  rfl

theorem runIn_select_error {q : Query} {source : Value} {f : Failure}
    (h : ((Engine.perform (MarkupQuery.select e.cache q source)).runIn e s).1.1 = .error f) :
    ((Engine.select q source).runIn e s).1 = (.error f, e) := by
  rw [Engine.select, runIn_bind]
  show ((Engine.perform (MarkupQuery.select e.cache q source) >>= fun _ => _).runIn e s).1 = _
  rw [runIn_bind, h]
  rfl

/-- A selection counts when it succeeds. -/
theorem metrics_run_select (q : Query) (source : Value) :
    ((EngineStep.select q source).run.runIn e s).1.2.metrics
      = e.metrics.add (.select q source, ((EngineStep.select q source).run.runIn e s).1.1) := by
  show ((Engine.select q source).runIn e s).1.2.metrics
    = e.metrics.add (.select q source, .values ((Engine.select q source).runIn e s).1.1)
  cases h : ((Engine.perform (MarkupQuery.select e.cache q source)).runIn e s).1.1 with
  | ok found =>
    rw [runIn_select_ok e s h]
    rfl
  | error f =>
    rw [runIn_select_error e s h]
    rfl

/-- What a step does to the counts of its engine. -/
theorem metrics_run (u : EngineStep) :
    (u.run.runIn e s).1.2.metrics
      = if u.isReset then {} else e.metrics.add (u, (u.run.runIn e s).1.1) := by
  cases u with
  | select q source => exact metrics_run_select e s q source
  | parse markup => rfl
  | parseFragment markup => rfl
  | runOn source x => rfl
  | extract source keys arguments => rfl
  | extractFrom source q keys arguments => rfl
  | reset => rfl
  | contains q => rfl
  | metrics => rfl

end EngineStep

namespace World

variable {ι : Type} [DecidableEq ι]

/-- What an engine was asked and answered in a run. -/
def callsOf (w : World ι) (i : ι) (schedule : List (ι × EngineStep)) : List EngineCall :=
  (schedule.zip (w.run schedule).1).filterMap fun x =>
    if x.1.1 = i then some (x.1.2, x.2.2) else none

theorem callsOf_cons (w : World ι) (i j : ι) (u : EngineStep) (rest : List (ι × EngineStep)) :
    w.callsOf i ((j, u) :: rest)
      = (if j = i then [(u, (w.step j u).1)] else []) ++ (w.step j u).2.callsOf i rest := by
  rw [callsOf, run_cons, List.zip_cons_cons, List.filterMap_cons]
  by_cases hji : j = i
  · rw [if_pos hji, if_pos hji]
    rfl
  · rw [if_neg hji, if_neg hji]
    rfl

/-- A step of its own adds to the counts of an engine, or sets them to zero. -/
theorem metrics_step_self (w : World ι) (i : ι) (u : EngineStep) {calls : List EngineCall}
    (h : (w.engines i).metrics = Metrics.tally (sinceReset calls)) :
    ((w.step i u).2.engines i).metrics
      = Metrics.tally (sinceReset (calls ++ [(u, (w.step i u).1)])) := by
  show (Function.update w.engines i _ i).metrics = _
  rw [Function.update_self, EngineStep.metrics_run, Metrics.tally_sinceReset_concat, ← h]
  rfl

/-- A step of another engine leaves an engine as it is. -/
theorem engine_step_of_ne (w : World ι) {i j : ι} (hij : i ≠ j) (u : EngineStep) :
    (w.step j u).2.engines i = w.engines i :=
  Function.update_of_ne hij _ _

/-- Through a whole run the counts stay a tally of the engine's calls. -/
theorem metrics_run {w : World ι} {i : ι} {calls : List EngineCall}
    (h : (w.engines i).metrics = Metrics.tally (sinceReset calls))
    (schedule : List (ι × EngineStep)) :
    ((w.run schedule).2.engines i).metrics
      = Metrics.tally (sinceReset (calls ++ w.callsOf i schedule)) := by
  induction schedule generalizing w calls with
  | nil => simpa [run, callsOf] using h
  | cons x rest ih =>
    obtain ⟨j, u⟩ := x
    rw [run_cons, callsOf_cons]
    by_cases hji : j = i
    · subst hji
      rw [if_pos rfl, ← List.append_assoc]
      exact ih (w.metrics_step_self j u h)
    · rw [if_neg hji, List.nil_append]
      exact ih ((congrArg Engine.metrics (w.engine_step_of_ne (Ne.symm hji) u)).trans h)

/-- After a reset nothing is left in the cache of the engine. -/
theorem cache_step_reset (w : World ι) (i : ι) :
    (w.step i .reset).2.session.cache ((w.step i .reset).2.engines i).cache
      = (w.session.cache (w.engines i).cache).clear := by
  have hengine : ((w.step i .reset).2.engines i).cache = (w.engines i).cache := by
    show (Function.update w.engines i _ i).cache = _
    rw [Function.update_self]
    rfl
  rw [hengine]
  show (w.session.setCache _ _).cache _ = _
  cases (w.engines i).cache with
  | shared => rfl
  | opened k =>
    show ((w.session.opened.set k _)[k]?.getD {}) = _
    by_cases hk : k < w.session.opened.length
    · rw [List.getElem?_set_self hk]
      rfl
    · have hset : (w.session.opened.set k (w.session.cache (.opened k)).clear)[k]? = none := by
        rw [List.getElem?_eq_none_iff, List.length_set]
        omega
      have hnone : w.session.opened[k]? = none := by
        rw [List.getElem?_eq_none_iff]
        omega
      rw [hset]
      show ({} : Cache) = (w.session.opened[k]?.getD {}).clear
      rw [hnone]
      rfl

/-- **Engines count what they were asked and answered since the last reset.** Asked for its metrics at
any point of a run, an engine that was fresh at the start tells the number of its parses, of its
selections that succeeded, of the matches of these, and of its extractions; with them come the
statistics of its cache. A selection that fails counts for nothing, and after a reset there are no
counts, no entries and no statistics. -/
theorem metrics_tally_calls {w : World ι} {i : ι} (hfresh : (w.engines i).metrics = {})
    (schedule : List (ι × EngineStep)) :
    let after := (w.run schedule).2
    let reset := (after.step i .reset).2
    (after.step i .metrics).1
        = .metrics (Metrics.tally (sinceReset (w.callsOf i schedule)))
            (after.session.cacheStats (after.engines i).cache) ∧
      (∀ q source f, (after.step i (.select q source)).1 = .values (.error f) →
        ((after.step i (.select q source)).2.engines i).metrics = (after.engines i).metrics) ∧
      (reset.engines i).metrics = {} ∧
      (reset.session.cache (reset.engines i).cache).entries = [] ∧
      ∃ enabled, (reset.step i .metrics).1
        = .metrics {} { size := 0, hits := 0, misses := 0, enabled } := by
  intro after reset
  have hnone : (w.engines i).metrics = Metrics.tally (sinceReset []) := hfresh
  have hcounts : (after.engines i).metrics = Metrics.tally (sinceReset (w.callsOf i schedule)) :=
    metrics_run hnone schedule
  have hreset : (reset.engines i).metrics = {} := by
    rw [after.metrics_step_self i .reset hcounts, Metrics.tally_sinceReset_concat]
    rfl
  refine ⟨?_, ?_, hreset, ?_, ?_⟩
  · show EngineAnswer.metrics (after.engines i).metrics _ = _
    rw [hcounts]
  · intro q source f hfail
    show (Function.update after.engines i _ i).metrics = _
    rw [Function.update_self, EngineStep.metrics_run, if_neg (by simp [EngineStep.isReset])]
    refine Metrics.add_eq_self rfl rfl ?_
    show EngineCall.found? (_, (after.step i (.select q source)).1) = none
    rw [hfail]
    rfl
  · rw [after.cache_step_reset i]
    rfl
  · refine ⟨(reset.session.cache (reset.engines i).cache).isEnabled
      reset.session.settings.cacheEnabled, ?_⟩
    show EngineAnswer.metrics (reset.engines i).metrics
      ((reset.session.cache (reset.engines i).cache).stats _) = _
    rw [hreset, after.cache_step_reset i]
    rfl

/-- A parse of nothing, then a reset, then a selection of two items that succeeds and one that does
not compile, and an extraction that fails. -/
theorem metrics_tally_calls_after_reset :
    ∃ (w : World Unit) (schedule : List (Unit × EngineStep)), (w.engines ()).metrics = {} ∧
      ((w.run schedule).2.step () .metrics).1
        = .metrics { parses := 0, selections := 1, matchCount := 2, extractions := 1 }
            { size := 2, hits := 0, misses := 3, enabled := true } := by
  let tree : Value :=
    .node (.element "ul" none [.element "li" none [.text "a"], .element "li" none []])
  let w : World Unit :=
    { session := (Session.openCache {} (some true)).2
      engines := fun _ => { settings := none, cache := .opened 0 } }
  let schedule : List (Unit × EngineStep) :=
    [((), .parse none), ((), .reset), ((), .select (.text "li") tree), ((), .select (.text "li.") tree),
      ((), .runOn tree ⟨.text "p", .nth 0 true⟩)]
  have hfresh : (w.engines ()).metrics = {} := rfl
  have hcounts : Metrics.tally (sinceReset (w.callsOf () schedule))
      = { parses := 0, selections := 1, matchCount := 2, extractions := 1 } := by
    decide +kernel
  have hstats : (w.run schedule).2.session.cacheStats ((w.run schedule).2.engines ()).cache
      = { size := 2, hits := 0, misses := 3, enabled := true } := by decide +kernel
  refine ⟨w, schedule, hfresh, ?_⟩
  rw [← hcounts, ← hstats]
  exact (metrics_tally_calls hfresh schedule).1

end World
end MarkupQuery
