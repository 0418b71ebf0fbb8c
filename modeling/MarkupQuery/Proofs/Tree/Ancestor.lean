import Mathlib.Data.List.Chain
import Mathlib.Data.List.Nodup
import Mathlib.Logic.Relation
import MarkupQuery.Proofs.Tree.Trail

/-!
# Ancestors

A location is a strict ancestor of another when going up from the other, once or more, leads to it.
The ancestors of a location, nearest first, are a list in which each member lies above the one
before, one at each lesser depth (`map_depth_ancestors`); picking from this list is the same as
climbing from one picked ancestor to the next (`sublist_ancestors_iff`).
-/

namespace MarkupQuery
namespace Location

theorem ancestors_of_up?_eq_none {l : Location} (h : l.up? = none) : l.ancestors = [] := by
  unfold ancestors
  split
  · rfl
  · next p hp => simp [h] at hp

theorem ancestors_of_up? {l p : Location} (h : l.up? = some p) : l.ancestors = p :: p.ancestors := by
  rw [ancestors]
  split
  · next hn => simp [h] at hn
  · next q hq =>
    obtain rfl : p = q := Option.some.inj (h.symm.trans hq)
    rfl

/-- Going up from a location, once or more, leads to its strict ancestors. -/
def StrictAncestor (a l : Location) : Prop := Relation.TransGen (fun m p => m.up? = some p) l a

theorem not_strictAncestor_of_up?_eq_none {a l : Location} (h : l.up? = none) :
    ¬ StrictAncestor a l := by
  intro ha
  obtain ⟨p, hp, -⟩ := Relation.TransGen.head'_iff.mp ha
  simp [h] at hp

/-- What lies above a location is its parent or lies above its parent. -/
theorem strictAncestor_iff_of_up? {a l p : Location} (h : l.up? = some p) :
    StrictAncestor a l ↔ a = p ∨ StrictAncestor a p := by
  rw [StrictAncestor, Relation.TransGen.head'_iff]
  constructor
  · rintro ⟨q, hq, hqa⟩
    obtain rfl : p = q := Option.some.inj (h.symm.trans hq)
    exact Relation.reflTransGen_iff_eq_or_transGen.mp hqa
  · intro ha
    exact ⟨p, h, Relation.reflTransGen_iff_eq_or_transGen.mpr ha⟩

theorem isRoot_iff {l : Location} : l.isRoot = true ↔ l.up? = none := by
  rw [isRoot, List.isEmpty_iff, up?_eq_none_iff]

/-- The root location above a location is the one root that going up leads to. -/
theorem eq_top_iff {l r : Location} :
    r = l.top ↔ (r = l ∨ StrictAncestor r l) ∧ r.isRoot = true := by
  fun_induction top l with
  | case1 l h =>
    constructor
    · rintro rfl
      exact ⟨Or.inl rfl, isRoot_iff.mpr h⟩
    · rintro ⟨heq | ha, -⟩
      · exact heq
      · exact absurd ha (not_strictAncestor_of_up?_eq_none h)
  | case2 l p h ih =>
    rw [ih, strictAncestor_iff_of_up? h]
    constructor
    · rintro ⟨ha, hroot⟩
      exact ⟨Or.inr ha, hroot⟩
    · rintro ⟨rfl | ha, hroot⟩
      · -- the location itself has a parent, so it is no root
        rw [isRoot_iff.mp hroot] at h
        cases h
      · exact ⟨ha, hroot⟩

theorem depth_of_up? {l p : Location} (h : l.up? = some p) : l.depth = p.depth + 1 := by
  have hne : l.trail ≠ [] := fun hnil => by simp [up?_eq_none_iff.mpr hnil] at h
  have hpos := List.length_pos_of_ne_nil hne
  rw [depth, depth, trail_of_up? h, List.length_tail]
  omega

/-- The ancestors lie at all depths above a location, each at one of its own. -/
theorem map_depth_ancestors (l : Location) : l.ancestors.map depth = (List.range l.depth).reverse := by
  fun_induction ancestors l with
  | case1 l h => simp [depth, up?_eq_none_iff.mp h]
  | case2 l p h ih =>
    rw [List.map_cons, ih, depth_of_up? h, List.range_succ, List.reverse_concat]

theorem length_ancestors (l : Location) : l.ancestors.length = l.depth := by
  rw [← List.length_map (f := depth), map_depth_ancestors, List.length_reverse, List.length_range]

/-- A location is none of its ancestors, and no ancestor is listed twice. -/
theorem nodup_self_ancestors (l : Location) : (l :: l.ancestors).Nodup := by
  refine List.Nodup.of_map (f := depth) ?_
  rw [List.map_cons, map_depth_ancestors, ← List.reverse_concat, ← List.range_succ,
    List.nodup_reverse]
  exact List.nodup_range

/-- Ancestors picked in order are a climb in which each lies above the one before. -/
theorem sublist_ancestors_iff (l : Location) (picked : List Location) :
    picked.Sublist l.ancestors ↔ (l :: picked).IsChain (fun m a => StrictAncestor a m) := by
  fun_induction ancestors l generalizing picked with
  | case1 l h =>
    cases picked with
    | nil => simp
    | cons a rest =>
      simp only [List.sublist_nil, reduceCtorEq, List.isChain_cons_cons, false_iff]
      exact fun hc => not_strictAncestor_of_up?_eq_none h hc.1
  | case2 l p h ih =>
    cases picked with
    | nil => simp
    | cons a rest =>
      -- the first one picked is the parent, or all of them lie above the parent
      rw [List.isChain_cons_cons, strictAncestor_iff_of_up? h, or_and_right,
        List.sublist_cons_iff, ih, List.isChain_cons_cons, or_comm]
      refine or_congr ?_ Iff.rfl
      constructor
      · rintro ⟨r, hr, hsub⟩
        obtain ⟨rfl, rfl⟩ : a = p ∧ rest = r := by simpa using hr
        exact ⟨rfl, (ih rest).mp hsub⟩
      · rintro ⟨rfl, hc⟩
        exact ⟨rest, rfl, (ih rest).mpr hc⟩

end Location
end MarkupQuery
