import MarkupQuery.Proofs.Extraction.Agreement
import MarkupQuery.Proofs.Selection.Filter
import MarkupQuery.Proofs.Selector.Chain
import MarkupQuery.Proofs.Selector.Outlook
import MarkupQuery.Proofs.Tree.Locations

/-!
# Selecting in two stages

What one selection finds may be the source of another. The second one is asked about the positions of
subtrees, each walked through as a tree of its own, where nothing is left of what lies above. A selector
that goes by the node at a position does not notice; it finds in a subtree what it finds at and below
the position of the subtree.

So two selections in turn and a chain of the two selectors find the same positions, with two
differences. The chain wants the second position strictly below the first, while a subtree has its own
root as well. And subtrees overlap: two selections find a position once for each of the subtrees that
it lies in (`Selector.mem_matchesBelow`).

Main statement: `Selector.chain_agrees_with_two_selections`.
-/

namespace MarkupQuery

/-- Members that are all present are kept. -/
theorem reduceOption_map_some {α : Type} (xs : List α) : (xs.map some).reduceOption = xs := by
  induction xs with
  | nil => rfl
  | cons x xs ih => rw [List.map_cons, List.reduceOption_cons_of_some, ih]

/-- A list of nodes offers them as trees. -/
theorem Value.offers_map_node (trees : List Node) : (Value.list (trees.map .node)).Offers trees := by
  have hoffers := Offers.list (trees.map some)
  rwa [reduceOption_map_some, List.map_map] at hoffers

namespace Selector

variable {p q : Selector} {t : Node} {l m x y : Location}

/-! ## Going by the node -/

/-- A selector has an answer everywhere, and it depends on the node at the position alone. -/
def GoesByNode (q : Selector) : Prop :=
  ∀ l m : Location, l.node = m.node →
    ∃ b, (q.holds (.position l)).Yields b ∧ (q.holds (.position m)).Yields b

/-- The library's tests of the node alone go by the node. -/
theorem IsNodeTest.goesByNode (h : q.IsNodeTest) : q.GoesByNode := by
  intro l m hnode
  obtain ⟨b, hl, hm⟩ := h.goesBy_node (.position l) (.position m) (congrArg some hnode)
  exact ⟨b, hl ▸ Probe.yields_pure b, hm ▸ Probe.yields_pure b⟩

theorem GoesByNode.answersAt (h : q.GoesByNode) (l : Location) : q.AnswersAt l :=
  (h l l rfl).imp fun _ hb => hb.1

theorem GoesByNode.holdsAt_congr (h : q.GoesByNode) (hnode : l.node = m.node) :
    q.HoldsAt l ↔ q.HoldsAt m := by
  obtain ⟨b, hl, hm⟩ := h l m hnode
  rw [holdsAt_iff_of_yields hl, holdsAt_iff_of_yields hm]

theorem GoesByNode.verdict_congr (h : q.GoesByNode) (hnode : l.node = m.node) :
    q.verdict l = q.verdict m := by
  rw [Bool.eq_iff_iff, (h.answersAt l).verdict_iff, (h.answersAt m).verdict_iff,
    h.holdsAt_congr hnode]

/-! ## A chain of two -/

/-- A chain of two links holds where the second does, below some place where the first does. -/
theorem chain_pair (hx : x ∈ t.locations) (hp : ∀ y ∈ t.locations, p.AnswersAt y)
    (hq : ∀ y, q.AnswersAt y) :
    (chain [p, q]).AnswersAt x ∧
      ((chain [p, q]).HoldsAt x ↔ q.HoldsAt x ∧ ∃ y ∈ x.ancestors, p.HoldsAt y) := by
  have hlinks : ∀ r ∈ [p] ++ [q], ∀ a ∈ x :: x.ancestors, r.AnswersAt a := by
    intro r hr a ha
    have hat := ((Location.mem_self_ancestors_iff hx).mp ha).1
    rcases List.mem_pair.mp hr with rfl | rfl
    · exact hp a hat
    · exact hq a
  obtain ⟨b, hb, hiff⟩ := chain_yields hlinks
  refine ⟨⟨b, hb⟩, ?_⟩
  rw [List.reverse_singleton, sublistForall₂_singleton_iff] at hiff
  exact (holdsAt_iff_of_yields hb).trans hiff

/-- Below a position where one selector holds lies a position where another does, or: the other
selector holds somewhere in the subtree other than at its root. -/
theorem exists_in_subtree_iff (hq : q.GoesByNode) (hx : x ∈ t.locations) :
    (q.HoldsAt x ∧ ∃ y ∈ x.ancestors, p.HoldsAt y) ↔
      ∃ y ∈ t.locations, p.HoldsAt y ∧
        ∃ z ∈ y.node.locations, z.path ≠ [] ∧ x.path = y.path ++ z.path ∧ q.HoldsAt z := by
  constructor
  · rintro ⟨hholds, y, hy, hpy⟩
    obtain ⟨hyt, r, hr, hpath⟩ := (Location.mem_ancestors_iff hx).mp hy
    obtain ⟨z, hz, hzpath⟩ := Node.exists_location_below hyt
      (Node.mem_locationsBelow.mpr ⟨hx, r, hpath.symm⟩)
    have hnode := Node.node_eq_of_path_eq_append hx hyt hz hzpath
    obtain rfl : r = z.path := List.append_cancel_left (hpath.symm.trans hzpath)
    exact ⟨y, hyt, hpy, z, hz, hr, hzpath, (hq.holdsAt_congr hnode).mp hholds⟩
  · rintro ⟨y, hy, hpy, z, hz, hbelow, hpath, hholds⟩
    have hnode := Node.node_eq_of_path_eq_append hx hy hz hpath
    exact ⟨(hq.holdsAt_congr hnode).mpr hholds, y,
      (Location.mem_ancestors_iff hx).mpr ⟨hy, z.path, hbelow, hpath⟩, hpy⟩

/-! ## Two selections -/

/-- The positions at which one selector holds, each with the positions at and below it at which another
does. -/
def matchesBelow (p q : Selector) (t : Node) : List (Location × Location) :=
  (t.locations.filter p.verdict).flatMap fun y =>
    ((t.locationsBelow y).filter q.verdict).map fun x => (y, x)

/-- A position where the second selector holds is paired with those among it and its ancestors where
the first one does. -/
theorem mem_matchesBelow (hp : ∀ y ∈ t.locations, p.AnswersAt y) (hq : q.GoesByNode) :
    (y, x) ∈ matchesBelow p q t ↔
      x ∈ t.locations ∧ q.HoldsAt x ∧ y ∈ x :: x.ancestors ∧ p.HoldsAt y := by
  simp only [matchesBelow, List.mem_flatMap, List.mem_map, List.mem_filter, Node.mem_locationsBelow,
    Prod.mk.injEq]
  constructor
  · rintro ⟨y, ⟨hy, hpy⟩, x, ⟨⟨hx, hpath⟩, hqx⟩, rfl, rfl⟩
    exact ⟨hx, (hq.answersAt x).verdict_iff.mp hqx, (Location.mem_self_ancestors_iff hx).mpr ⟨hy, hpath⟩,
      (hp y hy).verdict_iff.mp hpy⟩
  · rintro ⟨hx, hqx, habove, hpy⟩
    obtain ⟨hy, hpath⟩ := (Location.mem_self_ancestors_iff hx).mp habove
    exact ⟨y, ⟨hy, (hp y hy).verdict_iff.mpr hpy⟩, x,
      ⟨⟨hx, hpath⟩, (hq.answersAt x).verdict_iff.mpr hqx⟩, rfl, rfl⟩

/-- The pairs come in document order of their first positions, and for the same one in document order
of the second. -/
theorem matchesBelow_sorted (p q : Selector) (t : Node) :
    (matchesBelow p q t).Pairwise fun a b =>
      a.1.path < b.1.path ∨ a.1 = b.1 ∧ a.2.path < b.2.path := by
  have hsorted (u : Node) (test : Location → Bool) :
      (u.locations.filter test).Pairwise fun a b => a.path < b.path :=
    List.pairwise_map.mp (u.inDocumentOrder_filter test).sorted
  refine List.pairwise_flatMap.mpr ⟨fun y _ => ?_, (hsorted t p.verdict).imp fun hlt a ha b hb => ?_⟩
  · rw [Node.locationsBelow, List.filter_filter, List.pairwise_map]
    exact (hsorted t _).imp fun hlt => Or.inr ⟨rfl, hlt⟩
  · obtain ⟨x, -, rfl⟩ := List.mem_map.mp ha
    obtain ⟨x', -, rfl⟩ := List.mem_map.mp hb
    exact Or.inl hlt

/-- In the subtrees at the positions where one selector holds, another finds the nodes of the pairs. -/
theorem map_node_matchesBelow (p : Selector) (hq : q.GoesByNode) (t : Node) :
    ((((t.locations.filter p.verdict).map Location.node).flatMap Node.locations).filter q.verdict).map
        Location.node =
      (matchesBelow p q t).map fun pair => pair.2.node := by
  rw [List.flatMap_map, List.filter_flatMap, List.map_flatMap, matchesBelow, List.map_flatMap]
  refine List.flatMap_congr fun y hy => ?_
  have hbelow := (Node.forall₂_locations_below (List.mem_filter.mp hy).1).imp fun z x h => h.2
  rw [List.map_map]
  exact map_eq_map_iff_forall₂.mpr ((List.rel_filter
    (fun z x h => Bool.eq_iff_iff.mp (hq.verdict_congr h.symm)) hbelow).imp fun z x h => h.symm)

/-- A selection among what another selection has found. -/
theorem run_select_select (hp : ∀ y ∈ t.locations, p.AnswersAt y) (hq : q.GoesByNode)
    {s : Session} (hs : s.Faithful) {outer inner : Query} (houter : outer.compile = .ok p)
    (hinner : inner.compile = .ok q) (id id' : CacheId) :
    ((do
      let narrowed ← select id outer (.node t)
      select id' inner (.list narrowed)).run s).1 =
        .ok ((matchesBelow p q t).map fun pair => .node pair.2.node) := by
  obtain ⟨u, hu, -⟩ := Action.run_compile_of_ok hs houter id
  have hnarrowed : ((select id outer (.node t)).run s).1 =
      .ok (((t.locations.filter p.verdict).map Location.node).map .node) := by
    have hall : ∀ y ∈ [t].flatMap Node.locations, (p.holds (.position y)).Yields (p.verdict y) := by
      rw [List.flatMap_singleton]
      exact fun y hy => (hp y hy).yields_verdict
    rw [run_select_of_yields (.node t) hu hall, List.flatMap_singleton, List.map_map]
    rfl
  have hfaithful : ((select id outer (.node t)).run s).2.Faithful :=
    (select_agrees rfl id id _).left.faithful hs
  rw [run_bind]
  generalize (select id outer (.node t)).run s = outcome at hnarrowed hfaithful ⊢
  obtain ⟨narrowed, s'⟩ := outcome
  obtain rfl : narrowed = _ := hnarrowed
  obtain ⟨v, hv, -⟩ := Action.run_compile_of_ok hfaithful hinner id'
  have hfound := run_select_of_yields (Value.offers_map_node ((t.locations.filter p.verdict).map Location.node)) hv
    fun x _ => (hq.answersAt x).yields_verdict
  have hnodes := congrArg (List.map Value.node) (map_node_matchesBelow p hq t)
  rw [List.map_map, List.map_map] at hnodes
  exact hfound.trans (congrArg Except.ok hnodes)

/-- **A chain of two agrees with a selection among a selection.** Where the first selector has answers
and the second goes by the node, the chain of them holds at the positions strictly below a place where
the first holds at which the second, asked in the subtree there, holds. Selecting with the second among
what the first has found yields a node once for each pair of a position where the second holds and a
place where the first does, at or above it. -/
theorem chain_agrees_with_two_selections (hp : ∀ y ∈ t.locations, p.AnswersAt y)
    (hq : q.GoesByNode) :
    (∀ x ∈ t.locations, (chain [p, q]).AnswersAt x ∧
      ((chain [p, q]).HoldsAt x ↔ ∃ y ∈ t.locations, p.HoldsAt y ∧
        ∃ z ∈ y.node.locations, z.path ≠ [] ∧ x.path = y.path ++ z.path ∧ q.HoldsAt z)) ∧
    ∃ pairs : List (Location × Location),
      pairs.Nodup ∧
      (∀ y x, (y, x) ∈ pairs ↔
        x ∈ t.locations ∧ q.HoldsAt x ∧ y ∈ x :: x.ancestors ∧ p.HoldsAt y) ∧
      (pairs.Pairwise fun a b => a.1.path < b.1.path ∨ a.1 = b.1 ∧ a.2.path < b.2.path) ∧
      ∀ (s : Session), s.Faithful → ∀ outer inner : Query, outer.compile = .ok p →
        inner.compile = .ok q → ∀ id id' : CacheId,
        ((do
          let narrowed ← select id outer (.node t)
          select id' inner (.list narrowed)).run s).1 =
            .ok (pairs.map fun pair => .node pair.2.node) := by
  refine ⟨fun x hx => ?_, matchesBelow p q t, ?_, fun y x => mem_matchesBelow hp hq,
    matchesBelow_sorted p q t,
    fun s hs outer inner houter hinner => run_select_select hp hq hs houter hinner⟩
  · obtain ⟨hanswer, hiff⟩ := chain_pair hx hp hq.answersAt
    exact ⟨hanswer, hiff.trans (exists_in_subtree_iff hq hx)⟩
  · refine (matchesBelow_sorted p q t).imp fun horder heq => ?_
    subst heq
    rcases horder with hlt | ⟨-, hlt⟩ <;> exact absurd hlt (List.lt_irrefl _)

/-- A text in an element within another of the same tag is found twice, once in each. -/
theorem chain_agrees_with_two_selections_nested :
    let t : Node := .element "div" none [.element "div" none [.text "a"]]
    (∀ y ∈ t.locations, (tagIs "div").AnswersAt y) ∧ (ofKind [.text]).GoesByNode ∧
    ∃ pairs : List (Location × Location), pairs.Nodup ∧ pairs.length = 2 ∧
      (∀ y x, (y, x) ∈ pairs → (ofKind [.text]).HoldsAt x ∧ y ∈ x :: x.ancestors ∧
        (tagIs "div").HoldsAt y) ∧
      ((do
        let narrowed ← select .shared (.selector (tagIs "div")) (.node t)
        select .shared (.selector (ofKind [.text])) (.list narrowed)).run {}).1 =
          .ok [.node (.text "a"), .node (.text "a")] := by
  intro t
  have hp : ∀ y ∈ t.locations, (tagIs "div").AnswersAt y := fun y _ => isTotal_looking _ _ y
  have hq : (ofKind [.text]).GoesByNode := (IsNodeTest.ofKind [.text]).goesByNode
  obtain ⟨-, pairs, hnodup, hmem, -, hrun⟩ := chain_agrees_with_two_selections hp hq
  have hfound := hrun {} Session.faithful_default _ _ (Query.compile_selector (tagIs "div"))
    (Query.compile_selector (ofKind [.text])) .shared .shared
  have htwice : ((do
      let narrowed ← select .shared (.selector (tagIs "div")) (.node t)
      select .shared (.selector (ofKind [.text])) (.list narrowed)).run {}).1 =
        .ok [.node (.text "a"), .node (.text "a")] := by with_unfolding_all rfl
  have hlength := congrArg List.length (Except.ok.inj (hfound.symm.trans htwice))
  rw [List.length_map] at hlength
  exact ⟨hp, hq, pairs, hnodup, hlength, fun y x h => ((hmem y x).mp h).2, htwice⟩

end Selector
end MarkupQuery
