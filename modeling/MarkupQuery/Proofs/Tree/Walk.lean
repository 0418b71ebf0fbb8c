import MarkupQuery.Proofs.Tree.Trail
import MarkupQuery.Tree.Order

/-!
# One step in document order

From a position, the rest of a walk leads through the subtree there, then through the siblings to
the right of it, then through those to the right of its parent, and so on up the trail. The list of
these positions is `Location.remaining`. A step takes its first member away, whether it goes down,
to the side or climbs (`Sound.next`).

The same list can be cut out of the listing of the whole tree: it is the position itself and every
position after it in lexicographic order (`Sound.remaining_eq`).
-/

namespace MarkupQuery

/-! ## The positions after a given one -/

/-- In a sorted list, what is greater than a member are the members after it. -/
theorem filter_gt_of_sorted {before after : List (List Nat)} {p : List Nat}
    (h : (before ++ p :: after).Pairwise (· < ·)) :
    (before ++ p :: after).filter (p < ·) = after := by
  obtain ⟨-, hp, hlt⟩ := List.pairwise_append.mp h
  obtain ⟨hafter, -⟩ := List.pairwise_cons.mp hp
  have hbefore : before.filter (p < ·) = [] := by
    rw [List.filter_eq_nil_iff]
    intro q hq
    simp [List.lt_asymm (hlt q hq p List.mem_cons_self)]
  rw [List.filter_append, hbefore, List.nil_append,
    List.filter_cons_of_neg (by simp),
    List.filter_eq_self.mpr (fun q hq => by simpa using hafter q hq)]

/-- The positions of a tree that come after a given one in document order. -/
def Node.positionsAfter (t : Node) (p : List Nat) : List (List Nat) := t.positions.filter (p < ·)

/-! ## The positions ahead -/

/-- The positions to the right of a trail. -/
def later : List Crumb → List (List Nat)
  | [] => []
  | c :: trail =>
    (Node.positionsFrom (c.index + 1) c.after).map (pathOf trail ++ ·) ++ later trail

/-- The whole tree lists the positions at and after the end of a trail last. -/
theorem positions_rebuild {trail : List Crumb} (h : BranchesAbove trail) (n : Node) :
    ∃ before, (rebuild n trail).positions
      = before ++ (n.positions.map (pathOf trail ++ ·) ++ later trail) := by
  induction trail generalizing n with
  | nil => exact ⟨[], by simp [rebuild, later]⟩
  | cons c trail ih =>
    -- before the node come its parent and the siblings on the left, after it those on the right
    obtain ⟨before, hb⟩ := ih h.tail (c.parent.refill (c.siblings n))
    refine ⟨before ++ pathOf trail ::
      (Node.positionsFrom 0 c.before.reverse).map (pathOf trail ++ ·), ?_⟩
    rw [rebuild, hb, Node.positions_eq (c.parent.refill _), Node.children_refill h.head,
      Crumb.siblings, Node.positionsFrom_append, Node.positionsFrom]
    simp [later, Crumb.index, Function.comp_def, List.append_assoc]

namespace Location

/-- The positions that a walk from here still visits, this one included. -/
def remaining (l : Location) : List (List Nat) :=
  if l.atEnd then [] else l.node.positions.map (l.path ++ ·) ++ later l.trail

theorem remaining_of_atEnd {l : Location} (h : l.atEnd = true) : l.remaining = [] := by
  rw [remaining, if_pos h]

theorem remaining_of_not_atEnd {l : Location} (h : l.atEnd = false) :
    l.remaining = l.node.positions.map (l.path ++ ·) ++ later l.trail := by
  rw [remaining, if_neg (by simp [h])]

/-- The positions that remain are this one and all that come after it. -/
theorem Sound.remaining_eq {l : Location} (hl : l.Sound) (h : l.atEnd = false) :
    l.remaining = l.path :: l.whole.positionsAfter l.path := by
  have hhere : l.node.positions.map (l.path ++ ·) ++ later l.trail = l.path ::
      ((Node.positionsFrom 0 l.node.children).map (l.path ++ ·) ++ later l.trail) := by
    rw [Node.positions_eq, List.map_cons, List.append_nil, List.cons_append]
  obtain ⟨before, hwhole⟩ := positions_rebuild hl.fits.branches l.node
  rw [← path_eq, hhere, ← whole] at hwhole
  have hsorted := l.whole.positions_sorted
  rw [hwhole] at hsorted
  rw [remaining_of_not_atEnd h, hhere, Node.positionsAfter, hwhole, filter_gt_of_sorted hsorted]

/-! ## Steps -/

theorem later_of_right?_eq_none {l : Location} (h : l.right? = none) :
    later l.trail = later l.trail.tail := by
  unfold right? at h
  split at h
  · next ht => rw [ht, List.tail_nil]
  · next c trail ht =>
    split at h
    · next ha => rw [ht, later, ha, Node.positionsFrom, List.map_nil, List.nil_append, List.tail_cons]
    · simp at h

theorem remaining_right {l r : Location} (h : l.right? = some r) :
    r.remaining = later l.trail := by
  unfold right? at h
  split at h
  · simp at h
  · next c trail ht =>
    split at h
    · simp at h
    · next n ns hn =>
      obtain rfl := Option.some.inj h
      have hlater : later l.trail = n.positions.map (pathOf trail ++ [c.index + 1] ++ ·)
          ++ ((Node.positionsFrom (c.index + 1 + 1) ns).map (pathOf trail ++ ·) ++ later trail) := by
        rw [ht, later, hn, Node.positionsFrom]
        simp [Function.comp_def, List.append_assoc]
      rw [hlater, remaining_of_not_atEnd rfl, later]
      simp [path_eq, Crumb.index]

theorem remaining_down {l d : Location} (h : l.down? = some d) :
    l.path :: d.remaining = l.node.positions.map (l.path ++ ·) ++ later l.trail := by
  unfold down? at h
  split at h
  · simp at h
  · next c cs hcs =>
    obtain rfl := Option.some.inj h
    rw [remaining_of_not_atEnd rfl, Node.positions_eq l.node, hcs, Node.positionsFrom, later]
    simp [path_eq, Crumb.index, Function.comp_def, List.append_assoc]

/-- Climbing leaves out the siblings on the right, and finds the first position after them. -/
theorem Sound.climb {l : Location} (hl : l.Sound) :
    l.climb.Sound ∧ l.climb.whole = l.whole ∧ l.climb.remaining = later l.trail.tail := by
  fun_induction Location.climb l with
  | case1 l h =>
    -- at the root, where nothing lies to the right any more
    have ht := up?_eq_none_iff.mp h
    refine ⟨⟨trivial, fun _ => rfl⟩, by rw [whole, whole, ht], ?_⟩
    rw [remaining_of_atEnd rfl, ht, List.tail_nil, later]
  | case2 l p hp r hr =>
    obtain ⟨c, ht, hps, hpw, -⟩ := hl.up hp
    obtain ⟨-, -, -, hrs, hrw, -⟩ := hps.right hr
    exact ⟨hrs, hrw.trans hpw, by rw [remaining_right hr, ht, List.tail_cons]⟩
  | case3 l p hp hr ih =>
    obtain ⟨c, ht, hps, hpw, -⟩ := hl.up hp
    obtain ⟨hs, hw, hrem⟩ := ih hps
    exact ⟨hs, hw.trans hpw, by rw [hrem, ← later_of_right?_eq_none hr, ht, List.tail_cons]⟩

theorem next_of_atEnd {l : Location} (h : l.atEnd = true) : l.next = l := by
  rw [next, if_pos h]

/-- A step stays in the same tree and takes the first of the remaining positions away. -/
theorem Sound.next {l : Location} (hl : l.Sound) :
    l.next.Sound ∧ l.next.whole = l.whole ∧ l.next.remaining = l.remaining.tail := by
  unfold Location.next
  split
  · next hend => exact ⟨hl, rfl, by rw [remaining_of_atEnd hend, List.tail_nil]⟩
  · next hend =>
    have hrem := remaining_of_not_atEnd (l := l) (by simpa using hend)
    split
    · next d hd =>
      obtain ⟨hs, hw, -⟩ := hl.down hd
      exact ⟨hs, hw, by rw [hrem, ← remaining_down hd, List.tail_cons]⟩
    · next hd =>
      -- nothing below, so the subtree here is this position alone
      have hhere : l.node.positions.map (l.path ++ ·) = [l.path] := by
        rw [Node.positions_eq, down?_eq_none_iff.mp hd, Node.positionsFrom, List.map_singleton,
          List.append_nil]
      rw [hhere, List.singleton_append] at hrem
      rw [hrem, List.tail_cons]
      split
      · next r hr =>
        obtain ⟨-, -, -, hs, hw, -⟩ := hl.right hr
        exact ⟨hs, hw, remaining_right hr⟩
      · next hr =>
        obtain ⟨hs, hw, hclimb⟩ := hl.climb
        exact ⟨hs, hw, by rw [hclimb, later_of_right?_eq_none hr]⟩

end Location
end MarkupQuery
