import MarkupQuery.Proofs.Selector.Normal
import MarkupQuery.Selector.Cache

/-!
# What caches remember

A cache is faithful when every entry is what its own key compiles to. A new cache is, clearing keeps
it so, and so does compiling, whether the query was found, was new, did not compile or went past the
cache. What a faithful cache answers is what the compiler answers.
-/

namespace MarkupQuery

/-- A pair at the end of a mapping is found when the key is nowhere before it. -/
theorem Mapping.find?_concat {κ ν : Type} [BEq κ] (m : Mapping κ ν) (k j : κ) (v : ν) :
    Mapping.find? (m ++ [(k, v)]) j = (Mapping.find? m j).or (if k == j then some v else none) := by
  induction m with
  | nil => rfl
  | cons p m ih =>
    rw [List.cons_append, find?, find?, ih]
    split <;> rfl

namespace Cache

/-- Every entry is what its key compiles to. -/
def Faithful (c : Cache) : Prop :=
  ∀ key p, c.entries.find? key = some p → Query.compileElements (key.map .token) = .ok p

theorem faithful_of_entries_eq_nil {c : Cache} (h : c.entries = []) : c.Faithful := by
  intro key p hp
  rw [h] at hp
  cases hp

theorem faithful_clear (c : Cache) : c.clear.Faithful := faithful_of_entries_eq_nil rfl

/-- Looking tokens up, or adding them, answers with what they compile to. -/
theorem Faithful.compileTokens {c : Cache} (hc : c.Faithful) (key : List String) :
    (c.compileTokens key).result = Query.compileElements (key.map .token) ∧
      (c.compileTokens key).cache.Faithful := by
  unfold Cache.compileTokens
  split
  · next p hfound => exact ⟨(hc key p hfound).symm, hc⟩
  · split
    · next p hp =>
      refine ⟨hp.symm, fun other q hq => ?_⟩
      rw [Mapping.find?_concat, Option.or_eq_some_iff] at hq
      rcases hq with hq | ⟨-, hq⟩
      · exact hc other q hq
      · -- the entry that was added
        split at hq
        · next hkey =>
          obtain rfl := eq_of_beq hkey
          obtain rfl := Option.some.inj hq
          exact hp
        · cases hq
    · next f hf => exact ⟨hf.symm, hc⟩

/-- A faithful cache answers what the compiler answers, and stays faithful. -/
theorem Faithful.compile {c : Cache} (hc : c.Faithful) (bySettings : Bool) (q : Query) :
    (c.compile bySettings q).result = q.compile ∧ (c.compile bySettings q).cache.Faithful := by
  unfold Cache.compile
  split
  · exact ⟨rfl, hc⟩
  · split
    · next f hf => exact ⟨by rw [Query.compile, hf]; rfl, hc⟩
    · next elements helements =>
      rw [Query.compile_eq_of_normalise helements]
      split
      · next key hkey =>
        rw [Query.eq_of_tokens? hkey]
        split
        · exact hc.compileTokens key
        · exact ⟨rfl, hc⟩
      · exact ⟨rfl, hc⟩

end Cache
end MarkupQuery
