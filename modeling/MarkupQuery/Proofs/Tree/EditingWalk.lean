import MarkupQuery.Proofs.Tree.DocumentOrder

/-!
# Editing every node on the way

A walk that puts each node through a function before it advances maps the function over the tree, as
long as the function leaves the children alone. On the way the tree is half rewritten: what lies
before the position is done, and so are the parents on the trail, while the siblings to the right
still wait. `editsAhead` is the tree that comes of this once the waiting ones are mapped, too; every
step keeps it, because a node is mapped when its children are.

Each step takes one of the remaining positions away, so that the walk ends after as many steps as the
tree has nodes.

Main statement: `Location.editing_walk_is_map`.
-/

namespace MarkupQuery
namespace Node

/-! ## Mapping over a tree -/

/-- A function on nodes that turns leaves into leaves and branches into branches with the same
children. -/
def KeepsChildren (f : Node → Node) : Prop :=
  ∀ n, (f n).isBranch = n.isBranch ∧ (f n).children = n.children

mutual
/-- The tree with every node put through a function. What the function makes of a node gets the
mapped children. -/
def mapNodes (f : Node → Node) : Node → Node
  | .document cs => (f (.document cs)).refill (mapAll f cs)
  | .element tag attributes cs => (f (.element tag attributes cs)).refill (mapAll f cs)
  | .doctype attributes => (f (.doctype attributes)).refill []
  | .comment s => (f (.comment s)).refill []
  | .text s => (f (.text s)).refill []

/-- A list of trees, each mapped. -/
def mapAll (f : Node → Node) : List Node → List Node
  | [] => []
  | n :: ns => n.mapNodes f :: mapAll f ns
end

theorem mapAll_eq (f : Node → Node) (ns : List Node) : mapAll f ns = ns.map (mapNodes f) := by
  induction ns with
  | nil => rfl
  | cons n ns ih => rw [mapAll, ih, List.map_cons]

/-- A node is mapped when its children are and it is put through the function itself. -/
theorem mapNodes_eq (f : Node → Node) (n : Node) :
    n.mapNodes f = (f n).refill (n.children.map (mapNodes f)) := by
  rw [← mapAll_eq]
  cases n <;> rfl

theorem mapNodes_of_children_eq_nil {f : Node → Node} (hf : KeepsChildren f) {n : Node}
    (h : n.children = []) : n.mapNodes f = f n := by
  have hchildren : (f n).children = [] := (hf n).2.trans h
  rw [mapNodes_eq, h, List.map_nil, ← hchildren, refill_children]

mutual
theorem length_positions : ∀ n : Node, n.positions.length = n.count
  | .document cs => by rw [positions, List.length_cons, length_positionsFrom 0 cs, count]
  | .element _ _ cs => by rw [positions, List.length_cons, length_positionsFrom 0 cs, count]
  | .doctype _ => rfl
  | .comment _ => rfl
  | .text _ => rfl

theorem length_positionsFrom : ∀ (i : Nat) (ns : List Node),
    (positionsFrom i ns).length = countAll ns
  | _, [] => rfl
  | i, n :: ns => by
    rw [positionsFrom, List.length_append, List.length_map, length_positions n,
      length_positionsFrom (i + 1) ns, countAll]
end

end Node

/-! ## The tree in the making -/

/-- The whole tree, when a mapped node stands at the end of a trail and the siblings to the right of
it and of its ancestors are mapped. -/
def rebuildMapped (f : Node → Node) (n : Node) : List Crumb → Node
  | [] => n
  | c :: trail =>
    rebuildMapped f (c.parent.refill (c.before.reverse ++ n :: c.after.map (Node.mapNodes f))) trail

namespace Location

variable {f : Node → Node} {l : Location}

/-- The tree that editing from here on ends with. -/
def editsAhead (f : Node → Node) (l : Location) : Node :=
  if l.atEnd then l.node else rebuildMapped f (l.node.mapNodes f) l.trail

theorem editsAhead_of_atEnd (h : l.atEnd = true) : l.editsAhead f = l.node := by
  rw [editsAhead, if_pos h]

theorem editsAhead_of_not_atEnd (h : l.atEnd = false) :
    l.editsAhead f = rebuildMapped f (l.node.mapNodes f) l.trail := by
  rw [editsAhead, if_neg (by simp [h])]

/-- Going down from a node that was put through the function leaves its children to be mapped. -/
theorem editsAhead_down {d : Location} (hchildren : (f l.node).children = l.node.children)
    (h : (l.edit f).down? = some d) :
    d.editsAhead f = rebuildMapped f (l.node.mapNodes f) l.trail := by
  unfold down? at h
  split at h
  · simp at h
  · next c cs hcs =>
    obtain rfl := Option.some.inj h
    have hnode : l.node.children = c :: cs := hchildren.symm.trans hcs
    rw [editsAhead_of_not_atEnd rfl, Node.mapNodes_eq f l.node, hnode]
    rfl

/-- Going right from a mapped node leaves the others to the right to be mapped. -/
theorem editsAhead_right {r : Location} (h : l.right? = some r) :
    r.editsAhead f = rebuildMapped f l.node l.trail := by
  unfold right? at h
  split at h
  · simp at h
  · next c trail ht =>
    split at h
    · simp at h
    · next n ns hn =>
      obtain rfl := Option.some.inj h
      rw [editsAhead_of_not_atEnd rfl, ht, rebuildMapped, rebuildMapped, hn]
      simp

/-- Going up from the last of the siblings, when it is mapped and marked, gives a mapped and marked
parent. -/
theorem rebuildMapped_up {p : Location} (hmark : l.changed = true) (hright : l.right? = none)
    (h : l.up? = some p) :
    p.changed = true ∧ rebuildMapped f p.node p.trail = rebuildMapped f l.node l.trail := by
  unfold up? at h
  split at h
  · simp at h
  · next c trail ht =>
    have hafter : c.after = [] := by
      cases ha : c.after with
      | nil => rfl
      | cons n ns => simp [right?, ht, ha] at hright
    rw [if_pos hmark] at h
    obtain rfl := Option.some.inj h
    refine ⟨rfl, ?_⟩
    rw [ht, rebuildMapped, Crumb.siblings, hafter, List.map_nil]

theorem editsAhead_climb (hmark : l.changed = true) (hright : l.right? = none) :
    l.climb.editsAhead f = rebuildMapped f l.node l.trail := by
  fun_induction climb l with
  | case1 l h => rw [editsAhead_of_atEnd rfl, up?_eq_none_iff.mp h, rebuildMapped]
  | case2 l p hp r hr =>
    obtain ⟨-, hup⟩ := rebuildMapped_up (f := f) hmark hright hp
    rw [editsAhead_right hr, hup]
  | case3 l p hp hr ih =>
    obtain ⟨hmark', hup⟩ := rebuildMapped_up (f := f) hmark hright hp
    rw [ih hmark' hr, hup]

/-! ## Steps -/

/-- Puts the node through a function and advances. -/
def editNext (f : Node → Node) (l : Location) : Location := (l.edit f).next

/-- A step keeps the tree that editing ends with. -/
theorem editsAhead_editNext (hf : Node.KeepsChildren f) (hend : l.atEnd = false) :
    (l.editNext f).editsAhead f = l.editsAhead f := by
  have hnode : (l.edit f).node = f l.node := rfl
  have htrail : (l.edit f).trail = l.trail := rfl
  have hmark : (l.edit f).changed = true := rfl
  rw [editsAhead_of_not_atEnd hend, editNext, next, if_neg (by simp [edit, replace])]
  split
  · next d hd => exact editsAhead_down (hf l.node).2 hd
  · next hd =>
    -- without children the node is mapped as soon as it was put through the function
    have hchildren : l.node.children = [] := (hf l.node).2.symm.trans (down?_eq_none_iff.mp hd)
    rw [Node.mapNodes_of_children_eq_nil hf hchildren, ← hnode, ← htrail]
    split
    · next r hr => exact editsAhead_right hr
    · next hr => exact editsAhead_climb hmark hr

/-- An edit that keeps the children leaves the same positions to be visited. -/
theorem remaining_edit (hf : Node.KeepsChildren f) (hend : l.atEnd = false) :
    (l.edit f).remaining = l.remaining := by
  have hpositions : (f l.node).positions = l.node.positions := by
    rw [Node.positions_eq, Node.positions_eq, (hf l.node).2]
  rw [remaining_of_not_atEnd hend, remaining_of_not_atEnd rfl]
  show (f l.node).positions.map (l.path ++ ·) ++ later l.trail = _
  rw [hpositions]

theorem Sound.editNext (hl : l.Sound) (hf : Node.KeepsChildren f) (hend : l.atEnd = false) :
    (l.editNext f).Sound ∧ (l.editNext f).remaining = l.remaining.tail := by
  obtain ⟨hs, -, hrem⟩ := (hl.replace (f l.node)).1.next
  exact ⟨hs, hrem.trans (congrArg List.tail (remaining_edit hf hend))⟩

/-- After any number of steps, as long as positions remain, that many of them are gone, and the tree
to end with is the same. -/
theorem Sound.iterate_editNext (hl : l.Sound) (hf : Node.KeepsChildren f) {k : Nat}
    (hk : k ≤ l.remaining.length) :
    ((Location.editNext f)^[k] l).Sound ∧
      ((Location.editNext f)^[k] l).remaining = l.remaining.drop k ∧
      ((Location.editNext f)^[k] l).editsAhead f = l.editsAhead f := by
  induction k with
  | zero => exact ⟨hl, rfl, rfl⟩
  | succ k ih =>
    obtain ⟨hs, hrem, hahead⟩ := ih (by omega)
    have hend := hs.atEnd_eq_false hrem hk
    obtain ⟨hs', hrem'⟩ := hs.editNext hf hend
    rw [Function.iterate_succ_apply']
    refine ⟨hs', ?_, (editsAhead_editNext hf hend).trans hahead⟩
    rw [hrem', hrem, List.tail_drop]

/-- **Editing every node on a walk maps the tree.** The walk from the root is at the end after as many
steps as the tree has nodes, and no sooner; what it ends with is the tree with every node put through
the function. -/
theorem editing_walk_is_map (hf : Node.KeepsChildren f) (t : Node) :
    (∀ k < t.count, ((editNext f)^[k] (ofRoot t)).atEnd = false) ∧
      ((editNext f)^[t.count] (ofRoot t)).atEnd = true ∧
      ((editNext f)^[t.count] (ofRoot t)).node = t.mapNodes f ∧
      ((editNext f)^[t.count] (ofRoot t)).root = t.mapNodes f := by
  have hroot := sound_ofRoot t
  have hlength : (ofRoot t).remaining.length = t.count := by
    rw [remaining_ofRoot, Node.length_positions]
  obtain ⟨hs, hrem, hahead⟩ := hroot.iterate_editNext hf (Nat.le_of_eq hlength.symm)
  have hend : ((editNext f)^[t.count] (ofRoot t)).atEnd = true := by
    rw [← hs.remaining_eq_nil_iff, hrem, ← hlength]
    exact List.drop_length
  have hnode : ((editNext f)^[t.count] (ofRoot t)).node = t.mapNodes f := by
    rw [← editsAhead_of_atEnd (f := f) hend, hahead, editsAhead_of_not_atEnd rfl]
    rfl
  refine ⟨fun k hk => ?_, hend, hnode, ?_⟩
  · rw [← hlength] at hk
    obtain ⟨hs, hrem, -⟩ := hroot.iterate_editNext hf (Nat.le_of_lt hk)
    exact hs.atEnd_eq_false hrem hk
  · rw [root, if_pos hend, hnode]

/-- Texts are doubled and tags replaced, in a list with an empty item in the middle. -/
theorem editing_walk_is_map_list :
    ∃ f : Node → Node, Node.KeepsChildren f ∧
      ((editNext f)^[5] (ofRoot (.element "ul" none
        [.element "li" none [.text "a"], .element "li" none [], .text "b"]))).root =
        .element "x" none [.element "x" none [.text "aa"], .element "x" none [], .text "bb"] := by
  let f : Node → Node := fun n => match n with
    | .element _ attributes cs => .element "x" attributes cs
    | .text s => .text (s ++ s)
    | n => n
  have hf : Node.KeepsChildren f := fun n => by cases n <;> exact ⟨rfl, rfl⟩
  refine ⟨f, hf, ?_⟩
  exact (editing_walk_is_map hf (.element "ul" none
    [.element "li" none [.text "a"], .element "li" none [], .text "b"])).2.2.2

end Location
end MarkupQuery
