import Mathlib.Data.List.Sort
import MarkupQuery.Proofs.Tree.DocumentOrder
import MarkupQuery.Proofs.Tree.Enclosing

/-!
# The locations of a tree

A walk through a tree comes to one location for each position. As long as nothing is edited the
location can be told from the position alone (`Location.eq_of_path_eq`): the trail is what the tree
has around the path. So going up from such a location leads to locations that the walk has come to
before, those at the beginnings of the path (`Location.mem_ancestors_iff`).

The positions at and below a given one are the positions of the subtree there, walked through as a
tree of its own (`Node.forall₂_locations_below`): the same nodes in the same order, with the path to
the subtree put before each path.
-/

namespace MarkupQuery

/-- Lists are mapped to the same when their members are, one by one. -/
theorem map_eq_map_iff_forall₂ {α β γ : Type} {f : α → γ} {g : β → γ} {xs : List α} {ys : List β} :
    xs.map f = ys.map g ↔ List.Forall₂ (fun x y => f x = g y) xs ys := by
  rw [← List.forall₂_map_right_iff (f := g), ← List.forall₂_map_left_iff (R := Eq),
    List.forall₂_eq_eq_eq]

namespace Node

/-! ## Paths -/

theorem at?_append (t : Node) (p q : List Nat) : t.at? (p ++ q) = (t.at? p).bind (·.at? q) := by
  induction p generalizing t with
  | nil => rw [List.nil_append, at?_nil, Option.bind_some]
  | cons i is ih =>
    rw [List.cons_append, at?_cons, at?_cons, Option.bind_assoc]
    simp only [ih]

theorem map_path_locations (t : Node) : t.locations.map Location.path = t.positions := by
  rw [locations, (Location.sound_ofRoot t).following.1, Location.remaining_ofRoot]

/-- The positions that pass a test, in document order. -/
theorem inDocumentOrder_filter (t : Node) (test : Location → Bool) :
    t.InDocumentOrder (fun p => ∃ l ∈ t.locations, l.path = p ∧ test l = true)
      ((t.locations.filter test).map Location.path) where
  sorted := by
    have hsorted := t.positions_sorted
    rw [← map_path_locations] at hsorted
    exact hsorted.sublist (List.filter_sublist.map _)
  mem_iff p := by
    rw [← mem_positions, ← map_path_locations]
    simp only [List.mem_map, List.mem_filter]
    constructor
    · rintro ⟨l, ⟨hl, htest⟩, rfl⟩
      exact ⟨⟨l, hl, rfl⟩, l, hl, rfl, htest⟩
    · rintro ⟨-, l, hl, rfl, htest⟩
      exact ⟨l, ⟨hl, htest⟩, rfl⟩

end Node

/-! ## Location and position -/

/-- Where nothing is marked, the tree and the path tell what stands around a node. -/
theorem eq_of_rebuild_eq {n m : Node} {trail trail' : List Crumb} (hn : Fits n false trail)
    (hm : Fits m false trail') (hmarks : UnmarkedTrail trail) (hmarks' : UnmarkedTrail trail')
    (htree : rebuild n trail = rebuild m trail') (hpath : pathOf trail = pathOf trail') :
    n = m ∧ trail = trail' := by
  induction trail generalizing n m trail' with
  | nil =>
    cases trail' with
    | nil => exact ⟨htree, rfl⟩
    | cons d trail' => simp at hpath
  | cons c trail ih =>
    cases trail' with
    | nil => simp at hpath
    | cons d trail' =>
      obtain ⟨-, -, hkept, hup⟩ := hn
      obtain ⟨-, -, hkept', hup'⟩ := hm
      have hc := hmarks c List.mem_cons_self
      have hd := hmarks' d List.mem_cons_self
      rw [rebuild, rebuild, hkept rfl, hkept' rfl, Node.refill_children, Node.refill_children] at htree
      rw [pathOf_cons, pathOf_cons] at hpath
      obtain ⟨habove, hindex⟩ := List.append_inj' hpath rfl
      rw [hc] at hup
      rw [hd] at hup'
      obtain ⟨hparent, rfl⟩ := ih hup hup' (fun e he => hmarks e (List.mem_cons_of_mem _ he))
        (fun e he => hmarks' e (List.mem_cons_of_mem _ he)) htree habove
      -- the same siblings, cut at the same index
      have hsiblings : c.before.reverse ++ n :: c.after = d.before.reverse ++ m :: d.after := by
        have h := (hkept rfl).trans ((congrArg Node.children hparent).trans (hkept' rfl).symm)
        exact h
      have hlength : c.before.reverse.length = d.before.reverse.length := by
        simpa [Crumb.index] using hindex
      obtain ⟨hbefore, hrest⟩ := List.append_inj hsiblings hlength
      obtain ⟨rfl, hafter⟩ := List.cons.inj hrest
      refine ⟨rfl, ?_⟩
      obtain ⟨parent, before, after, changed⟩ := c
      obtain ⟨parent', before', after', changed'⟩ := d
      simp only [List.reverse_inj] at hbefore
      simp only at hparent hafter hc hd
      rw [hparent, hbefore, hafter, hc, hd]

namespace Location

variable {t : Node} {l m p : Location}

theorem Unmarked.following (hl : l.Unmarked) : ∀ m ∈ l.following, m.Unmarked := by
  fun_induction Location.following l with
  | case1 l h => simp
  | case2 l h ih =>
    intro m hm
    rcases List.mem_cons.mp hm with rfl | hm
    · exact hl
    · exact ih hl.next m hm

/-- A sound location without marks is told by its tree and its path. -/
theorem Sound.eq_of_unmarked (hl : l.Sound) (hm : m.Sound) (hlu : l.Unmarked) (hmu : m.Unmarked)
    (hwhole : l.whole = m.whole) (hpath : l.path = m.path) (hend : l.atEnd = m.atEnd) : l = m := by
  have hlfits := hl.fits
  have hmfits := hm.fits
  rw [hlu.here] at hlfits
  rw [hmu.here] at hmfits
  obtain ⟨hnode, htrail⟩ := eq_of_rebuild_eq hlfits hmfits hlu.above hmu.above hwhole hpath
  obtain ⟨node, trail, changed, atEnd⟩ := l
  obtain ⟨node', trail', changed', atEnd'⟩ := m
  obtain rfl : node = node' := hnode
  obtain rfl : trail = trail' := htrail
  obtain rfl : atEnd = atEnd' := hend
  obtain rfl : changed = false := hlu.here
  obtain rfl : changed' = false := hmu.here
  rfl

/-- The walk through a tree comes to the sound locations in it that have no marks. -/
theorem mem_locations_iff :
    l ∈ t.locations ↔ l.Sound ∧ l.Unmarked ∧ l.whole = t ∧ l.atEnd = false := by
  have hroot := sound_ofRoot t
  have hall := hroot.following.2
  have hmarks := (unmarked_ofRoot t).following
  constructor
  · intro hl
    obtain ⟨hs, hw, hend⟩ := hall l hl
    exact ⟨hs, hmarks l hl, hw, hend⟩
  · rintro ⟨hs, hu, hw, hend⟩
    have hposition : l.path ∈ t.locations.map path := by
      rw [Node.map_path_locations, Node.mem_positions, ← hw, hs.at?_path]
      rfl
    obtain ⟨m, hm, hpath⟩ := List.mem_map.mp hposition
    obtain ⟨hms, hmw, hmend⟩ := hall m hm
    have heq := hms.eq_of_unmarked hs (hmarks m hm) hu (hmw.trans hw.symm) hpath
      (hmend.trans hend.symm)
    exact heq ▸ hm

theorem eq_of_path_eq (hl : l ∈ t.locations) (hm : m ∈ t.locations) (hpath : l.path = m.path) :
    l = m := by
  obtain ⟨hls, hlu, hlw, hlend⟩ := mem_locations_iff.mp hl
  obtain ⟨hms, hmu, hmw, hmend⟩ := mem_locations_iff.mp hm
  exact hls.eq_of_unmarked hms hlu hmu (hlw.trans hmw.symm) hpath (hlend.trans hmend.symm)

theorem at?_of_mem_locations (hl : l ∈ t.locations) : t.at? l.path = some l.node := by
  obtain ⟨hs, -, hw, -⟩ := mem_locations_iff.mp hl
  rw [← hw]
  exact hs.at?_path

/-! ## Ancestors -/

theorem mem_locations_of_up? (hl : l ∈ t.locations) (h : l.up? = some p) :
    p ∈ t.locations ∧ ∃ i, l.path = p.path ++ [i] := by
  obtain ⟨hs, hu, hw, -⟩ := mem_locations_iff.mp hl
  obtain ⟨c, ht, hps, hpw, hpend⟩ := hs.up h
  refine ⟨mem_locations_iff.mpr ⟨hps, hu.up h, hpw.trans hw, hpend⟩, c.index, ?_⟩
  rw [path_eq, path_eq, ht, pathOf_cons]

/-- A location and its ancestors are those at the beginnings of its path. -/
theorem mem_self_ancestors_iff (hl : l ∈ t.locations) :
    m ∈ l :: l.ancestors ↔ m ∈ t.locations ∧ m.path <+: l.path := by
  fun_induction ancestors l with
  | case1 l h =>
    have hpath : l.path = [] := by rw [path_eq, up?_eq_none_iff.mp h, pathOf_nil]
    rw [List.mem_singleton, hpath, List.prefix_nil]
    constructor
    · rintro rfl
      exact ⟨hl, hpath⟩
    · rintro ⟨hm, hroot⟩
      exact eq_of_path_eq hm hl (hroot.trans hpath.symm)
  | case2 l p h ih =>
    obtain ⟨hp, i, hpath⟩ := mem_locations_of_up? hl h
    rw [List.mem_cons, ih hp, hpath, List.prefix_concat_iff, and_or_left, ← hpath]
    refine or_congr ?_ Iff.rfl
    constructor
    · rintro rfl
      exact ⟨hl, rfl⟩
    · rintro ⟨hm, heq⟩
      exact eq_of_path_eq hm hl heq

theorem length_path_of_mem_ancestors (hl : l ∈ t.locations) (hm : m ∈ l.ancestors) :
    m.path.length < l.path.length := by
  fun_induction ancestors l with
  | case1 l h => exact absurd hm List.not_mem_nil
  | case2 l p h ih =>
    obtain ⟨hp, i, hpath⟩ := mem_locations_of_up? hl h
    rw [hpath, List.length_append, List.length_singleton]
    rcases List.mem_cons.mp hm with rfl | hm
    · omega
    · have := ih hp hm
      omega

/-- The ancestors of a location are those at the proper beginnings of its path. -/
theorem mem_ancestors_iff (hl : l ∈ t.locations) :
    m ∈ l.ancestors ↔ m ∈ t.locations ∧ ∃ q, q ≠ [] ∧ l.path = m.path ++ q := by
  constructor
  · intro hm
    have hlength := length_path_of_mem_ancestors hl hm
    obtain ⟨hmt, q, hq⟩ := (mem_self_ancestors_iff hl).mp (List.mem_cons_of_mem _ hm)
    refine ⟨hmt, q, ?_, hq.symm⟩
    rintro rfl
    rw [← hq, List.append_nil] at hlength
    exact absurd hlength (Nat.lt_irrefl _)
  · rintro ⟨hm, q, hne, hq⟩
    have hself : m ∈ l :: l.ancestors := (mem_self_ancestors_iff hl).mpr ⟨hm, q, hq.symm⟩
    rcases List.mem_cons.mp hself with rfl | hanc
    · exact absurd (List.self_eq_append_right.mp hq) hne
    · exact hanc

end Location

namespace Node

/-! ## The positions below a position -/

variable {t : Node} {y : Location}

/-- The locations at and below a given one, in document order. -/
def locationsBelow (t : Node) (y : Location) : List Location :=
  t.locations.filter fun x => y.path.isPrefixOf x.path

theorem mem_locationsBelow {x : Location} :
    x ∈ t.locationsBelow y ↔ x ∈ t.locations ∧ y.path <+: x.path := by
  rw [locationsBelow, List.mem_filter, List.isPrefixOf_iff_prefix]

/-- The paths that lead to a position or further are its path followed by one in its subtree. -/
theorem map_path_locationsBelow (hy : y ∈ t.locations) :
    (t.locationsBelow y).map Location.path = y.node.positions.map (y.path ++ ·) := by
  have hbelow : ((t.locationsBelow y).map Location.path).Pairwise (· < ·) :=
    (t.inDocumentOrder_filter _).sorted
  have hsubtree : (y.node.positions.map (y.path ++ ·)).Pairwise (· < ·) :=
    List.pairwise_map.mpr (y.node.positions_sorted.imp fun h => List.append_left_lt h)
  refine hbelow.eq_of_mem_iff hsubtree fun p => ?_
  have hnode := Location.at?_of_mem_locations hy
  simp only [List.mem_map, mem_locationsBelow]
  constructor
  · rintro ⟨x, ⟨hx, q, hq⟩, rfl⟩
    refine ⟨q, ?_, hq⟩
    have hthere := Location.at?_of_mem_locations hx
    rw [← hq, at?_append, hnode, Option.bind_some] at hthere
    rw [mem_positions, hthere]
    rfl
  · rintro ⟨q, hq, rfl⟩
    have hthere : y.path ++ q ∈ t.locations.map Location.path := by
      rw [map_path_locations, mem_positions, at?_append, hnode, Option.bind_some]
      exact (mem_positions _ _).mp hq
    obtain ⟨x, hx, hpath⟩ := List.mem_map.mp hthere
    exact ⟨x, ⟨hx, q, hpath.symm⟩, hpath⟩

/-- At a path that leads through a position is what its subtree has at the rest of the path. -/
theorem node_eq_of_path_eq_append {x z : Location} (hx : x ∈ t.locations) (hy : y ∈ t.locations)
    (hz : z ∈ y.node.locations) (hpath : x.path = y.path ++ z.path) : x.node = z.node := by
  have hthere := Location.at?_of_mem_locations hx
  rw [hpath, at?_append, Location.at?_of_mem_locations hy, Option.bind_some,
    Location.at?_of_mem_locations hz] at hthere
  exact (Option.some.inj hthere).symm

/-- **The subtree at a position has the nodes at and below it**, in the same order, when it is walked
through as a tree of its own. -/
theorem forall₂_locations_below (hy : y ∈ t.locations) :
    List.Forall₂ (fun z x => x.path = y.path ++ z.path ∧ x.node = z.node) y.node.locations
      (t.locationsBelow y) := by
  have hpaths := map_path_locationsBelow hy
  rw [← map_path_locations, List.map_map, eq_comm] at hpaths
  have hall : List.Forall₂ (fun z x => y.path ++ z.path = x.path) y.node.locations
      (t.locationsBelow y) := map_eq_map_iff_forall₂.mp hpaths
  rw [List.forall₂_iff_get] at hall ⊢
  refine ⟨hall.1, fun i hz hx => ?_⟩
  have hpath := (hall.2 i hz hx).symm
  exact ⟨hpath, node_eq_of_path_eq_append (mem_locationsBelow.mp (List.get_mem _ ⟨i, hx⟩)).1 hy
    (List.get_mem _ ⟨i, hz⟩) hpath⟩

/-- Every position at or below another is one of its subtree. -/
theorem exists_location_below {x : Location} (hy : y ∈ t.locations) (hx : x ∈ t.locationsBelow y) :
    ∃ z ∈ y.node.locations, x.path = y.path ++ z.path := by
  have hpath : x.path ∈ (t.locationsBelow y).map Location.path := List.mem_map_of_mem hx
  rw [map_path_locationsBelow hy, ← map_path_locations, List.map_map] at hpath
  obtain ⟨z, hz, heq⟩ := List.mem_map.mp hpath
  exact ⟨z, hz, heq.symm⟩

end Node
end MarkupQuery
