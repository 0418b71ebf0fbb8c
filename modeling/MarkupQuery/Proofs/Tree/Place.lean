import MarkupQuery.Proofs.Tree.Run

/-!
# Locations stand for places

A place is a whole tree and a path in it, and nothing else: no crumbs, no marks, no rebuilding. Moves
change the path when there is a node at the new one; edits change the tree at the path at once. A
run of steps on a location answers exactly as the same run on the place that it stands for, so no
edit is lost, made twice or made elsewhere, whatever steps follow it.

Main statement: `Location.run_stands_for_place`.
-/

namespace MarkupQuery

/-- A position in a tree, or the end of a walk through it. -/
structure Place where
  tree : Node
  path : List Nat
  atEnd : Bool

namespace Place

/-- The root of a tree. -/
def ofRoot (t : Node) : Place := ⟨t, [], false⟩

/-- The same tree at another path, if there is a node. -/
def goTo? (s : Place) (p : List Nat) : Option Place :=
  if (s.tree.at? p).isSome then some ⟨s.tree, p, false⟩ else none

/-- The first child. -/
def down? (s : Place) : Option Place := s.goTo? (s.path ++ [0])

/-- The next sibling. -/
def right? (s : Place) : Option Place :=
  s.path.getLast?.bind fun i => s.goTo? (s.path.dropLast ++ [i + 1])

/-- The previous sibling. -/
def left? (s : Place) : Option Place :=
  s.path.getLast?.bind fun i => if i = 0 then none else s.goTo? (s.path.dropLast ++ [i - 1])

/-- The parent. -/
def up? (s : Place) : Option Place := if s.path = [] then none else s.goTo? s.path.dropLast

/-- The first position after this one in document order, or else the end, which stays. -/
def next (s : Place) : Place :=
  if s.atEnd then s
  else match (s.tree.positionsAfter s.path).head? with
    | some p => ⟨s.tree, p, false⟩
    | none => ⟨s.tree, [], true⟩

/-- The tree with another subtree at the path. -/
def replace (s : Place) (n : Node) : Place := ⟨s.tree.replaceAt s.path n, s.path, false⟩

/-- Where a step leads, if anywhere. -/
def step? (s : Place) : Step → Option Place
  | .down => s.down?
  | .right => s.right?
  | .left => s.left?
  | .up => s.up?
  | .next => some s.next
  | .replace n => some (s.replace n)
  | .edit f => (s.tree.at? s.path).map fun n => s.replace (f n)

/-- Takes steps in turn. -/
def run? (s : Place) (steps : List Step) : Option Place := steps.foldlM step? s

end Place

namespace Location

/-- The place that a location stands for. -/
def place (l : Location) : Place := ⟨l.root, l.path, l.atEnd⟩

theorem Sound.place_eq {l : Location} (hl : l.Sound) : l.place = ⟨l.whole, l.path, l.atEnd⟩ := by
  rw [place, hl.root_eq]

/-! ## Each step -/

/-- A move is right when it stays in the tree and its path is the one that the place goes to. -/
theorem Sound.goTo?_eq {l m : Location} (hl : l.Sound) (hm : m.Sound) (hw : m.whole = l.whole)
    (hend : m.atEnd = false) : l.place.goTo? m.path = some m.place := by
  rw [hl.place_eq, hm.place_eq, Place.goTo?, ← hw, hm.at?_path, hend, Option.isSome_some, if_pos rfl]

theorem Sound.goTo?_eq_none {l : Location} (hl : l.Sound) {p : List Nat}
    (h : l.whole.at? p = none) : l.place.goTo? p = none := by
  rw [hl.place_eq, Place.goTo?, h, Option.isSome_none, if_neg (by simp)]

theorem Sound.place_down {l : Location} (hl : l.Sound) : l.down?.map place = l.place.down? := by
  cases h : l.down? with
  | none =>
    refine (hl.goTo?_eq_none ?_).symm
    show l.whole.at? (l.path ++ [0]) = none
    rw [whole, path_eq, at?_rebuild hl.fits.branches, Node.at?_cons, down?_eq_none_iff.mp h]
    rfl
  | some d =>
    obtain ⟨hs, hw, hp, hend⟩ := hl.down h
    have hgo := hl.goTo?_eq hs hw hend
    rw [hp] at hgo
    exact hgo.symm

theorem Sound.place_right {l : Location} (hl : l.Sound) : l.right?.map place = l.place.right? := by
  have hpath : l.place.path = pathOf l.trail := rfl
  cases h : l.right? with
  | none =>
    rw [Place.right?, hpath, Option.map_none]
    cases ht : l.trail with
    | nil => rfl
    | cons c trail =>
      have hafter : c.after = [] := by
        cases ha : c.after with
        | nil => rfl
        | cons n ns => simp [right?, ht, ha] at h
      have hbranches := hl.fits.branches
      rw [ht] at hbranches
      -- the next index is the number of siblings, where there is none
      rw [pathOf_cons, List.getLast?_concat, List.dropLast_concat, Option.bind_some]
      refine (hl.goTo?_eq_none ?_).symm
      rw [whole, ht, at?_rebuild_sibling hbranches, List.getElem?_eq_none_iff, c.length_siblings, hafter]
      exact Nat.le_refl _
  | some r =>
    obtain ⟨c, trail, ht, hs, hw, hp, hend⟩ := hl.right h
    have hgo := hl.goTo?_eq hs hw hend
    rw [Place.right?, hpath, ht, pathOf_cons, List.getLast?_concat, List.dropLast_concat,
      Option.bind_some, ← hp, hgo, Option.map_some]

theorem Sound.place_left {l : Location} (hl : l.Sound) : l.left?.map place = l.place.left? := by
  have hpath : l.place.path = pathOf l.trail := rfl
  cases h : l.left? with
  | none =>
    rw [Place.left?, hpath, Option.map_none]
    cases ht : l.trail with
    | nil => rfl
    | cons c trail =>
      have hindex : c.index = 0 := by
        cases hb : c.before with
        | nil => rw [Crumb.index, hb, List.length_nil]
        | cons n ns => simp [left?, ht, hb] at h
      rw [pathOf_cons, List.getLast?_concat, Option.bind_some, if_pos hindex]
  | some r =>
    obtain ⟨c, trail, i, ht, hi, hs, hw, hp, hend⟩ := hl.left h
    have hgo := hl.goTo?_eq hs hw hend
    rw [Place.left?, hpath, ht, pathOf_cons, List.getLast?_concat, List.dropLast_concat,
      Option.bind_some, if_neg (by omega), hi, Nat.add_sub_cancel, ← hp, hgo, Option.map_some]

theorem Sound.place_up {l : Location} (hl : l.Sound) : l.up?.map place = l.place.up? := by
  have hpath : l.place.path = pathOf l.trail := rfl
  cases h : l.up? with
  | none => rw [Place.up?, hpath, up?_eq_none_iff.mp h, pathOf_nil, if_pos rfl, Option.map_none]
  | some p =>
    obtain ⟨c, ht, hs, hw, hend⟩ := hl.up h
    have hgo := hl.goTo?_eq hs hw hend
    rw [Place.up?, hpath, ht, pathOf_cons, if_neg (by simp), List.dropLast_concat, ← path_eq, hgo,
      Option.map_some]

theorem Sound.place_next {l : Location} (hl : l.Sound) : l.next.place = l.place.next := by
  cases hend : l.atEnd with
  | true => rw [next_of_atEnd hend, Place.next, if_pos (show l.place.atEnd = true from hend)]
  | false =>
    obtain ⟨hs, hw, hrem⟩ := hl.next
    rw [hl.remaining_eq hend, List.tail_cons] at hrem
    rw [Place.next, hl.place_eq, if_neg (by simp [hend]), ← hrem, hs.place_eq, hw]
    cases hend' : l.next.atEnd with
    | true =>
      rw [remaining_of_atEnd hend', List.head?_nil, path_eq, hs.trail_of_atEnd hend', pathOf_nil]
    | false => rw [hs.remaining_eq hend', List.head?_cons]

theorem Sound.place_replace {l : Location} (hl : l.Sound) (n : Node) :
    (l.replace n).place = l.place.replace n := by
  obtain ⟨hs, hw⟩ := hl.replace n
  rw [hs.place_eq, hw, hl.place_eq]
  rfl

theorem Sound.place_step {l : Location} (hl : l.Sound) (s : Step) :
    (l.step? s).map place = l.place.step? s := by
  cases s with
  | down => exact hl.place_down
  | right => exact hl.place_right
  | left => exact hl.place_left
  | up => exact hl.place_up
  | next => exact congrArg some hl.place_next
  | replace n => exact congrArg some (hl.place_replace n)
  | edit f =>
    have hnode : l.place.tree.at? l.place.path = some l.node := by
      rw [hl.place_eq]
      exact hl.at?_path
    rw [Place.step?, hnode]
    exact congrArg some (hl.place_replace (f l.node))

/-! ## Whole runs -/

theorem Sound.place_run {l : Location} (hl : l.Sound) (steps : List Step) :
    (l.run? steps).map place = l.place.run? steps := by
  induction steps generalizing l with
  | nil => rfl
  | cons s steps ih =>
    show ((l.step? s).bind (·.run? steps)).map place = (l.place.step? s).bind (·.run? steps)
    rw [← hl.place_step s]
    cases h : l.step? s with
    | none => rfl
    | some m => exact ih (hl.step h)

/-- **A run on a location is the same run on the place that it stands for.** The place tells the
whole tree, with every edit made at once where it was made; the location has the subtree there as
its node and the length of the path as its depth. -/
theorem run_stands_for_place (t : Node) (steps : List Step) :
    ((ofRoot t).run? steps).map place = (Place.ofRoot t).run? steps ∧
      ∀ l, (ofRoot t).run? steps = some l →
        l.root.at? l.path = some l.node ∧ l.depth = l.path.length ∧
          (l.atEnd = true → l.path = [] ∧ l.node = l.root) ∧
          ∀ s, (l.step? s).map place = l.place.step? s := by
  constructor
  · have hroot := sound_ofRoot t
    rw [hroot.place_run steps, hroot.place_eq]
    rfl
  · intro l hrun
    have hl := sound_of_run hrun
    refine ⟨hl.root_eq ▸ hl.at?_path, by simp [depth, path], ?_, hl.place_step⟩
    intro hend
    exact ⟨by rw [path_eq, hl.trail_of_atEnd hend, pathOf_nil], by rw [root, if_pos hend]⟩

/-- Two edits, one below the other's right neighbour, with moves to every side in between. -/
theorem run_stands_for_place_two_edits :
    ∃ l, (ofRoot (.element "ul" none [.text "a", .element "li" none [.text "b"], .text "c"])).run?
        [.down, .replace (.text "x"), .right, .down, .edit fun _ => .comment "y", .up, .right, .left]
          = some l ∧
      l.place = ⟨.element "ul" none [.text "x", .element "li" none [.comment "y"], .text "c"], [1],
        false⟩ ∧
      l.root.at? l.path = some l.node := by
  have h := run_stands_for_place
    (.element "ul" none [.text "a", .element "li" none [.text "b"], .text "c"])
    [.down, .replace (.text "x"), .right, .down, .edit fun _ => .comment "y", .up, .right, .left]
  exact ⟨_, rfl, Option.some.inj (h.1.trans rfl), (h.2 _ rfl).1⟩

end Location
end MarkupQuery
