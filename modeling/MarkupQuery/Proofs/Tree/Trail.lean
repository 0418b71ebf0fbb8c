import MarkupQuery.Proofs.Tree.Path
import MarkupQuery.Tree.Location

/-!
# What a location stands for

A location stands for a tree and a position in it. The tree is found by refilling every parent on
the way back with the siblings around the position, whether or not anything was marked as changed.
A location itself takes a shortcut: where nothing is marked it returns the parent as it was left.

The shortcut is right as long as the marks are: `Fits` says that every parent can hold children, has
as many of them as there are siblings, and has exactly these siblings where no change is marked.
This is the invariant of all moves and edits.

* `Sound.root_eq` — the tree that a location answers with is the tree that it stands for
* `Sound.at?_path` — its node is the subtree of this tree at its path
* `Sound.down`, `Sound.right`, `Sound.left`, `Sound.up`, `Sound.replace` — what each step does to
  both
-/

namespace MarkupQuery

/-! ## Crumbs -/

theorem Crumb.length_siblings (c : Crumb) (n : Node) :
    (c.siblings n).length = c.index + 1 + c.after.length := by
  simp [Crumb.siblings, Crumb.index]
  omega

theorem Crumb.siblings_index (c : Crumb) (n : Node) : (c.siblings n)[c.index]? = some n := by
  simp [Crumb.siblings, Crumb.index]

theorem modify_append_cons {α : Type} (f : α → α) (xs : List α) (a : α) (ys : List α) :
    (xs ++ a :: ys).modify xs.length f = xs ++ f a :: ys := by
  induction xs with
  | nil => rfl
  | cons x xs ih => rw [List.cons_append, List.length_cons, List.modify_succ_cons, ih, List.cons_append]

theorem Crumb.siblings_modify (c : Crumb) (n : Node) (f : Node → Node) :
    (c.siblings n).modify c.index f = c.siblings (f n) := by
  have h := modify_append_cons f c.before.reverse n c.after
  rwa [List.length_reverse] at h

/-- The path that a trail names. -/
def pathOf (trail : List Crumb) : List Nat := (trail.map Crumb.index).reverse

@[simp] theorem pathOf_nil : pathOf [] = [] := rfl

@[simp] theorem pathOf_cons (c : Crumb) (trail : List Crumb) :
    pathOf (c :: trail) = pathOf trail ++ [c.index] := by
  simp [pathOf]

/-! ## The tree around a node -/

/-- The whole tree, when the given node stands at the end of a trail. -/
def rebuild (n : Node) : List Crumb → Node
  | [] => n
  | c :: trail => rebuild (c.parent.refill (c.siblings n)) trail

/-- Every parent on a trail can hold children. -/
def BranchesAbove (trail : List Crumb) : Prop := ∀ c ∈ trail, c.parent.isBranch = true

theorem BranchesAbove.head {c : Crumb} {trail : List Crumb} (h : BranchesAbove (c :: trail)) :
    c.parent.isBranch = true := h c List.mem_cons_self

theorem BranchesAbove.tail {c : Crumb} {trail : List Crumb} (h : BranchesAbove (c :: trail)) :
    BranchesAbove trail := fun d hd => h d (List.mem_cons_of_mem _ hd)

/-- Below the end of a trail the whole tree is the node that stands there. -/
theorem at?_rebuild {trail : List Crumb} (h : BranchesAbove trail) (n : Node) (q : List Nat) :
    (rebuild n trail).at? (pathOf trail ++ q) = n.at? q := by
  induction trail generalizing n q with
  | nil => rw [rebuild, pathOf_nil, List.nil_append]
  | cons c trail ih =>
    -- seen from above, the path below the parent starts with the index of the node
    rw [rebuild, pathOf_cons, List.append_assoc, ih h.tail, List.singleton_append, Node.at?_cons,
      Node.children_refill h.head, Crumb.siblings_index, Option.bind_some]

/-- Beside the end of a trail stand the siblings. -/
theorem at?_rebuild_sibling {c : Crumb} {trail : List Crumb} (h : BranchesAbove (c :: trail))
    (n : Node) (i : Nat) :
    (rebuild n (c :: trail)).at? (pathOf trail ++ [i]) = (c.siblings n)[i]? := by
  rw [rebuild, at?_rebuild h.tail, Node.at?_cons, Node.children_refill h.head]
  cases (c.siblings n)[i]? <;> simp

/-- Replacing a subtree at or below the end of a trail changes the node there and nothing else. -/
theorem replaceAt_rebuild {trail : List Crumb} (h : BranchesAbove trail) (n m : Node)
    (q : List Nat) :
    (rebuild n trail).replaceAt (pathOf trail ++ q) m = rebuild (n.replaceAt q m) trail := by
  induction trail generalizing n q with
  | nil => rw [rebuild, rebuild, pathOf_nil, List.nil_append]
  | cons c trail ih =>
    rw [rebuild, rebuild, pathOf_cons, List.append_assoc, ih h.tail, List.singleton_append,
      Node.replaceAt_cons, Node.children_refill h.head, Crumb.siblings_modify, Node.refill_refill]

/-! ## The invariant -/

/-- A trail fits around a node, given whether the node is marked as changed. -/
def Fits (n : Node) (changed : Bool) : List Crumb → Prop
  | [] => True
  | c :: trail =>
    c.parent.isBranch = true ∧ (c.siblings n).length = c.parent.children.length ∧
      (changed = false → c.siblings n = c.parent.children) ∧ Fits c.parent c.parentChanged trail

theorem Fits.branches {n : Node} {changed : Bool} {trail : List Crumb} (h : Fits n changed trail) :
    BranchesAbove trail := by
  induction trail generalizing n changed with
  | nil => exact fun c hc => absurd hc List.not_mem_nil
  | cons c trail ih =>
    intro d hd
    rcases List.mem_cons.mp hd with rfl | hd
    · exact h.1
    · exact ih h.2.2.2 d hd

/-- Once a node is marked as changed, any other node may stand in its place. -/
theorem Fits.mark {n : Node} {changed : Bool} {trail : List Crumb} (h : Fits n changed trail)
    (m : Node) : Fits m true trail := by
  cases trail with
  | nil => trivial
  | cons c trail =>
    obtain ⟨hb, hlen, -, hup⟩ := h
    refine ⟨hb, ?_, fun hm => absurd hm (by simp), hup⟩
    rw [← hlen, c.length_siblings, c.length_siblings]

namespace Location

/-- The tree that a location stands for. -/
def whole (l : Location) : Node := rebuild l.node l.trail

/-- The invariant of locations: the trail fits, and an end location is a root. -/
structure Sound (l : Location) : Prop where
  fits : Fits l.node l.changed l.trail
  trail_of_atEnd : l.atEnd = true → l.trail = []

theorem path_eq (l : Location) : l.path = pathOf l.trail := rfl

theorem sound_ofRoot (t : Node) : (ofRoot t).Sound := ⟨trivial, fun h => absurd h (by simp [ofRoot])⟩

theorem Sound.at?_path {l : Location} (hl : l.Sound) : l.whole.at? l.path = some l.node := by
  have h := at?_rebuild hl.fits.branches l.node []
  rwa [List.append_nil, Node.at?_nil] at h

/-! ## Moves -/

theorem down?_eq_none_iff {l : Location} : l.down? = none ↔ l.node.children = [] := by
  unfold down?
  split <;> simp_all

theorem Sound.down {l d : Location} (hl : l.Sound) (h : l.down? = some d) :
    d.Sound ∧ d.whole = l.whole ∧ d.path = l.path ++ [0] ∧ d.atEnd = false := by
  unfold down? at h
  split at h
  · simp at h
  · next c cs hcs =>
    obtain rfl := Option.some.inj h
    have hbranch : l.node.isBranch = true := Node.isBranch_of_children (by simp [hcs])
    have hsame : (⟨l.node, [], cs, l.changed⟩ : Crumb).siblings c = l.node.children := hcs.symm
    refine ⟨⟨⟨hbranch, congrArg List.length hsame, fun _ => hsame, hl.fits⟩, by simp⟩, ?_, ?_, rfl⟩
    · show rebuild (l.node.refill (c :: cs)) l.trail = rebuild l.node l.trail
      rw [← hcs, Node.refill_children]
    · show pathOf (_ :: l.trail) = pathOf l.trail ++ [0]
      rw [pathOf_cons]
      rfl

/-- Another position among the same siblings is as sound, and is in the same tree. -/
theorem Sound.beside {l : Location} (hl : l.Sound) {c d : Crumb} {trail : List Crumb} {n : Node}
    (ht : l.trail = c :: trail) (hsame : d.siblings n = c.siblings l.node)
    (hparent : d.parent = c.parent) (hchanged : d.parentChanged = c.parentChanged) :
    Sound ⟨n, d :: trail, l.changed, false⟩ ∧ whole ⟨n, d :: trail, l.changed, false⟩ = l.whole := by
  have hfit := hl.fits
  rw [ht] at hfit
  refine ⟨⟨?_, by simp⟩, ?_⟩
  · rw [Fits, hsame, hparent, hchanged]
    exact hfit
  · rw [whole, whole, ht, rebuild, rebuild, hsame, hparent]

theorem Sound.right {l r : Location} (hl : l.Sound) (h : l.right? = some r) :
    ∃ c trail, l.trail = c :: trail ∧ r.Sound ∧ r.whole = l.whole ∧
      r.path = pathOf trail ++ [c.index + 1] ∧ r.atEnd = false := by
  unfold right? at h
  split at h
  · simp at h
  · next c trail ht =>
    split at h
    · simp at h
    · next n ns hn =>
      obtain rfl := Option.some.inj h
      have hsame : ({ c with before := l.node :: c.before, after := ns } : Crumb).siblings n
          = c.siblings l.node := by
        simp [Crumb.siblings, hn]
      obtain ⟨hr, hw⟩ := hl.beside ht hsame rfl rfl
      exact ⟨c, trail, ht, hr, hw, by simp [path_eq, Crumb.index], rfl⟩

theorem Sound.left {l r : Location} (hl : l.Sound) (h : l.left? = some r) :
    ∃ c trail i, l.trail = c :: trail ∧ c.index = i + 1 ∧ r.Sound ∧ r.whole = l.whole ∧
      r.path = pathOf trail ++ [i] ∧ r.atEnd = false := by
  unfold left? at h
  split at h
  · simp at h
  · next c trail ht =>
    split at h
    · simp at h
    · next n ns hn =>
      obtain rfl := Option.some.inj h
      have hsame : ({ c with before := ns, after := l.node :: c.after } : Crumb).siblings n
          = c.siblings l.node := by
        simp [Crumb.siblings, hn]
      obtain ⟨hr, hw⟩ := hl.beside ht hsame rfl rfl
      exact ⟨c, trail, ns.length, ht, by simp [Crumb.index, hn], hr, hw,
        by simp [path_eq, Crumb.index], rfl⟩

theorem up?_eq_none_iff {l : Location} : l.up? = none ↔ l.trail = [] := by
  unfold up?
  split
  · simp_all
  · split <;> simp_all

theorem trail_of_up? {l p : Location} (h : l.up? = some p) : p.trail = l.trail.tail := by
  unfold up? at h
  split at h
  · simp at h
  · next ht => split at h <;> simp at h <;> simp [← h, ht]

theorem Sound.up {l p : Location} (hl : l.Sound) (h : l.up? = some p) :
    ∃ c, l.trail = c :: p.trail ∧ p.Sound ∧ p.whole = l.whole ∧ p.atEnd = false := by
  have hfit := hl.fits
  unfold up? at h
  split at h
  · simp at h
  · next c trail ht =>
    rw [ht] at hfit
    obtain ⟨hb, -, hkept, hup⟩ := hfit
    split at h
    · obtain rfl := Option.some.inj h
      exact ⟨c, ht, ⟨hup.mark _, by simp⟩, by rw [whole, whole, ht, rebuild], rfl⟩
    · next hch =>
      -- the parent is taken as it was left, which is right because nothing is marked
      obtain rfl := Option.some.inj h
      refine ⟨c, ht, ⟨hup, by simp⟩, ?_, rfl⟩
      rw [whole, whole, ht, rebuild, hkept (by simpa using hch), Node.refill_children]

/-! ## The root -/

theorem Sound.top_node {l : Location} (hl : l.Sound) : l.top.node = l.whole := by
  fun_induction top l with
  | case1 l h => rw [whole, up?_eq_none_iff.mp h, rebuild]
  | case2 l p h ih =>
    obtain ⟨c, -, hp, hw, -⟩ := hl.up h
    rw [ih hp, hw]

theorem Sound.root_eq {l : Location} (hl : l.Sound) : l.root = l.whole := by
  unfold root
  split
  · next hend => rw [whole, hl.trail_of_atEnd hend, rebuild]
  · exact hl.top_node

/-! ## Edits -/

theorem Sound.replace {l : Location} (hl : l.Sound) (n : Node) :
    (l.replace n).Sound ∧ (l.replace n).whole = l.whole.replaceAt l.path n := by
  refine ⟨⟨hl.fits.mark n, by simp [Location.replace]⟩, ?_⟩
  have h := replaceAt_rebuild hl.fits.branches l.node n []
  rw [List.append_nil, Node.replaceAt_nil] at h
  exact h.symm

end Location
end MarkupQuery
