import MarkupQuery.Probe
import MarkupQuery.Proofs.Steps

/-!
# How callers' functions run

Something that delivers one thing after the other changes no more about the computations it makes than
one kind of failure. So it makes no difference how many such things a computation is nested in, nor
whether its steps are in them one by one or together.

A feed that is asked does what its next delivery says.
-/

namespace MarkupQuery
namespace Probe

variable {α β : Type}

theorem run_ofExcept (r : Except Failure α) (t : Trace) : (ofExcept r).run t = (r, t) := by
  cases r <;> rfl

/-! ## Inside generators -/

@[simp] theorem inGenerator_pure (a : α) : (pure a : Probe α).inGenerator = pure a := rfl

theorem inGenerator_map (f : α → β) (x : Probe α) :
    (f <$> x).inGenerator = f <$> x.inGenerator := by
  funext t
  show (f <$> x).inGenerator.run t = (f <$> x.inGenerator).run t
  rw [map_eq_pure_bind, map_eq_pure_bind, run_inGenerator, run_bind, run_bind, run_inGenerator]
  rcases x.run t with ⟨_ | a, u⟩ <;> rfl

/-- It is enough that the whole is inside a generator. -/
theorem inGenerator_bind_inGenerator (x : Probe α) (f : α → Probe β) :
    (x.inGenerator >>= f).inGenerator = (x >>= f).inGenerator := by
  funext t
  show (x.inGenerator >>= f).inGenerator.run t = (x >>= f).inGenerator.run t
  rw [run_inGenerator, run_inGenerator, run_bind, run_bind, run_inGenerator]
  rcases x.run t with ⟨g | a, u⟩
  · exact congrArg (fun e => (Except.error e, u)) g.inGenerator_inGenerator
  · rfl

/-! ## Feeds -/

section Feeds

variable {id : Nat} {t : Trace}

theorem run_pull_nil (h : t.feed id = []) : (pull id).run t = (.ok none, t) := by
  show pull id t = _
  rw [pull, ExceptT.mk, h]

theorem run_pull_cons {d : Delivery} {rest : Feed} (h : t.feed id = d :: rest) :
    (pull id).run t = match d.outcome with
      | .ok tree => (.ok (some tree), ⟨t.sightings ++ d.sightings, t.feeds.set id rest⟩)
      | .error f => (if f.isExhaustion then .ok none else .error f,
          ⟨t.sightings ++ d.sightings, t.feeds.set id []⟩) := by
  show pull id t = _
  cases houtcome : d.outcome <;> simp only [pull, ExceptT.mk, h, houtcome]

/-- What a feed comes to is the outcome of a delivery. -/
theorem exists_of_run_pull_eq_some {tree : Option Node} {u : Trace}
    (h : (pull id).run t = (.ok (some tree), u)) :
    ∃ d ∈ t.feed id, d.outcome = .ok tree := by
  cases hfeed : t.feed id with
  | nil =>
    rw [run_pull_nil hfeed] at h
    cases h
  | cons d rest =>
    rw [run_pull_cons hfeed] at h
    refine ⟨d, List.mem_cons_self, ?_⟩
    cases houtcome : d.outcome with
    | ok tree' =>
      rw [houtcome] at h
      cases h
      rfl
    | error f =>
      rw [houtcome] at h
      dsimp only at h
      split at h <;> cases h

theorem exists_of_run_pull_eq_error {f : Failure} (h : ((pull id).run t).1 = .error f) :
    ∃ d ∈ t.feed id, d.outcome = .error f := by
  cases hfeed : t.feed id with
  | nil =>
    rw [run_pull_nil hfeed] at h
    cases h
  | cons d rest =>
    rw [run_pull_cons hfeed] at h
    refine ⟨d, List.mem_cons_self, ?_⟩
    cases houtcome : d.outcome with
    | ok tree =>
      rw [houtcome] at h
      cases h
    | error g =>
      rw [houtcome] at h
      dsimp only at h
      split at h
      · cases h
      · exact congrArg Except.error (Except.error.inj h)

end Feeds

end Probe
end MarkupQuery
