import MarkupQuery.Proofs.Tree.Ancestor
import MarkupQuery.Proofs.Tree.Run
import MarkupQuery.Tree.Cursor

/-!
# The crumbs of a cursor

Every crumb describes the parent that it holds, as seen from the node below it (`Crumb.Describes`): the
parent takes children, it has as many of them as there are siblings, and the index is one of them. Of a
node that is not marked as changed, the siblings are the children of the parent, and the node is the one
at the index. A tree starts with no crumb at all, and every move and edit keeps this, although an edit
leaves the siblings out of date and a rebuilt parent is another one than the crumb held.

While it is so, no move meets a mishap, and a cursor goes where its location goes (`Sound.step`): cut at
the index, the siblings are those on either side of the position.

Main statement: `Cursor.crumbs_describe_parents`.
-/

namespace MarkupQuery

theorem Node.isBranch_iff_kind {n : Node} :
    n.isBranch = true ↔ n.kind = .document ∨ n.kind = .element := by
  cases n <;> simp [isBranch, kind]

theorem Node.withChildren?_of_isBranch {n : Node} (h : n.isBranch = true) (cs : List Node) :
    n.withChildren? cs = some (n.refill cs) := by
  cases n <;> simp_all [isBranch, withChildren?, refill]

namespace Cursor

/-- What a crumb says of its parent and of the node at its position, given whether the node is marked
as changed. -/
structure Crumb.Describes (c : Crumb) (n : Node) (changed : Bool) : Prop where
  parent : c.parent.kind = .document ∨ c.parent.kind = .element
  length : c.siblings.length = c.parent.children.length
  nonneg : 0 ≤ c.index
  lt : c.index < c.siblings.length
  unchanged : changed = false →
    c.siblings = c.parent.children ∧ member? c.siblings c.index = some n

/-- Every crumb on a trail describes its parent. -/
def Described (n : Node) (changed : Bool) : List Crumb → Prop
  | [] => True
  | c :: trail => c.Describes n changed ∧ Described c.parent c.parentChanged trail

/-- Once a node is marked as changed, any other node may stand in its place. -/
theorem Described.mark {n : Node} {changed : Bool} {trail : List Crumb}
    (h : Described n changed trail) (m : Node) : Described m true trail := by
  cases trail with
  | nil => trivial
  | cons c trail =>
    obtain ⟨⟨hparent, hlength, hnonneg, hlt, -⟩, habove⟩ := h
    exact ⟨⟨hparent, hlength, hnonneg, hlt, fun h => nomatch h⟩, habove⟩

/-! ## Indices -/

theorem place_natCast (length i : Nat) : place length (i : Int) = i := by
  rw [place, if_neg (by omega), Int.toNat_natCast]

theorem member?_natCast (ns : List Node) (i : Nat) : member? ns (i : Int) = ns[i]? := by
  rw [member?, if_neg (by omega), place_natCast]

/-- A crumb whose siblings are known on either side of its index. -/
theorem Crumb.cut_of_append {c : Crumb} {before after : List Node} {n : Node}
    (h : c.siblings = before ++ n :: after) (hindex : c.index = before.length) :
    c.cut = ⟨c.parent, before.reverse, after, c.parentChanged⟩ := by
  rw [cut, hindex, h, Int.toNat_natCast, List.take_left', List.drop_append]
  · simp
  · rfl

variable {l : Cursor} {c : Crumb} {trail : List Crumb}

/-- The siblings around a position are those of its location. -/
theorem Crumb.Describes.siblings_eq (h : c.Describes l.node l.changed) :
    l.siblings c = c.cut.siblings l.node := by
  obtain ⟨i, hi⟩ := Int.eq_ofNat_of_zero_le h.nonneg
  have hcut : c.cut.siblings l.node =
      c.siblings.take i ++ l.node :: c.siblings.drop (i + 1) := by
    rw [cut, hi, MarkupQuery.Crumb.siblings, Int.toNat_natCast, List.reverse_reverse]
  rw [hcut, Cursor.siblings]
  split
  · rw [hi, place_natCast, show ((i : Int) + 1) = ((i + 1 : Nat) : Int) by omega, place_natCast]
  · next hchanged =>
    -- the node is the one that is stored at the index
    obtain ⟨-, hnode⟩ := h.unchanged (by simpa using hchanged)
    rw [hi, member?_natCast] at hnode
    obtain ⟨hlt, hnode⟩ := List.getElem?_eq_some_iff.mp hnode
    rw [← hnode, List.getElem_cons_drop, List.take_append_drop]

theorem Crumb.Describes.length_siblings (h : c.Describes l.node l.changed) :
    (l.siblings c).length = c.siblings.length := by
  obtain ⟨i, hi⟩ := Int.eq_ofNat_of_zero_le h.nonneg
  have hlt := h.lt
  rw [h.siblings_eq, MarkupQuery.Crumb.siblings, cut, hi, Int.toNat_natCast]
  simp
  omega

theorem Crumb.Describes.index_eq {n : Node} {changed : Bool} (h : c.Describes n changed) :
    c.index = c.cut.before.length := by
  have hnonneg := h.nonneg
  have hlt := h.lt
  simp [cut]
  omega

/-! ## Moves -/

/-- The invariant of cursors. -/
def Sound (l : Cursor) : Prop := Described l.node l.changed l.trail

theorem sound_ofRoot (t : Node) : (ofRoot t).Sound := trivial

/-- A move meets no mishap, leads a cursor where it leads the location, and keeps the invariant. -/
def Follows (r : Except Mishap (Option Cursor)) (m : Option Location) : Prop :=
  ∃ o, r = .ok o ∧ o.map location = m ∧ ∀ d, o = some d → d.Sound

theorem follows_none : Follows (.ok none) none := ⟨none, rfl, rfl, fun _ h => nomatch h⟩

theorem follows_some (d : Cursor) (hd : d.Sound) {m : Location} (hm : d.location = m) :
    Follows (.ok (some d)) (some m) :=
  ⟨some d, rfl, congrArg some hm, fun _ h => Option.some.inj h ▸ hd⟩

theorem not_follows_error {e : Mishap} {m : Option Location} : ¬ Follows (.error e) m :=
  fun ⟨_, h, _⟩ => nomatch h

theorem Follows.eq_none {m : Option Location} (h : Follows (.ok none) m) : m = none := by
  obtain ⟨o, ho, rfl, -⟩ := h
  cases ho
  rfl

theorem Follows.eq_some {d : Cursor} {m : Option Location} (h : Follows (.ok (some d)) m) :
    m = some d.location ∧ d.Sound := by
  obtain ⟨o, ho, rfl, hd⟩ := h
  cases ho
  exact ⟨rfl, hd d rfl⟩

theorem Sound.down (h : l.Sound) : Follows (.ok l.down?) l.location.down? := by
  have hnode : l.location.node = l.node := rfl
  cases hcs : l.node.children with
  | nil =>
    simp only [down?, Location.down?, hnode, hcs]
    exact follows_none
  | cons n ns =>
    have hbranch : l.node.isBranch = true := Node.isBranch_of_children (by simp [hcs])
    have hdescribes : Crumb.Describes ⟨l.node, n :: ns, 0, l.changed⟩ n false :=
      ⟨Node.isBranch_iff_kind.mp hbranch, congrArg List.length hcs.symm, Int.le_refl 0,
        Int.natCast_pos.mpr (Nat.succ_pos _), fun _ => ⟨hcs.symm, member?_natCast (n :: ns) 0⟩⟩
    simp only [down?, Location.down?, hnode, hcs]
    exact follows_some ⟨n, ⟨l.node, n :: ns, 0, l.changed⟩ :: l.trail, false, false⟩ ⟨hdescribes, h⟩ rfl

/-- A step to the side, when the siblings are known on either side of where it leads. -/
theorem follows_sibling (hc : c.Describes l.node l.changed)
    (habove : Described c.parent c.parentChanged trail) {before after : List Node} {n : Node}
    (h : l.siblings c = before ++ n :: after) :
    Follows ((l.sibling c trail before.length).map some)
      (some ⟨n, ⟨c.parent, before.reverse, after, c.parentChanged⟩ :: trail.map Crumb.cut, l.changed,
        false⟩) := by
  have hmember : member? (l.siblings c) before.length = some n := by
    rw [member?_natCast, h, List.getElem?_append_right (Nat.le_refl _), Nat.sub_self, List.getElem?_cons_zero]
  have hlt : (before.length : Int) < (l.siblings c).length := by
    rw [h, List.length_append, List.length_cons]
    omega
  have hkept : l.changed = false → l.siblings c = c.parent.children := by
    intro hunchanged
    rw [siblings, if_neg (by simp [hunchanged])]
    exact (hc.unchanged hunchanged).1
  have hdescribes : Crumb.Describes ⟨c.parent, l.siblings c, before.length, c.parentChanged⟩ n
      l.changed :=
    ⟨hc.parent, hc.length_siblings.trans hc.length, Int.natCast_nonneg _, hlt,
      fun hunchanged => ⟨hkept hunchanged, hmember⟩⟩
  rw [sibling, hmember]
  refine follows_some ⟨n, ⟨c.parent, l.siblings c, before.length, c.parentChanged⟩ :: trail, l.changed,
    false⟩ ⟨hdescribes, habove⟩ ?_
  rw [location, List.map_cons, Crumb.cut_of_append h rfl]

theorem trail_location (ht : l.trail = c :: trail) :
    l.location.trail = c.cut :: trail.map Crumb.cut :=
  congrArg (List.map Crumb.cut) ht

theorem Sound.right (h : l.Sound) : Follows l.right l.location.right? := by
  cases ht : l.trail with
  | nil =>
    rw [Cursor.right, Location.right?, location, ht]
    exact follows_none
  | cons c trail =>
    rw [Sound, ht] at h
    obtain ⟨hc, habove⟩ := h
    have hnonneg := hc.nonneg
    have hlt := hc.lt
    have hlength : c.cut.after.length = c.siblings.length - (c.index.toNat + 1) := List.length_drop
    simp only [Cursor.right, Location.right?, ht, trail_location ht]
    cases hafter : c.cut.after with
    | nil =>
      rw [hafter, List.length_nil] at hlength
      rw [if_pos (by omega)]
      exact follows_none
    | cons n ns =>
      rw [hafter, List.length_cons] at hlength
      have hsplit : l.siblings c = (l.node :: c.cut.before).reverse ++ n :: ns := by
        rw [hc.siblings_eq, MarkupQuery.Crumb.siblings, hafter]
        simp
      have hnext : c.index + 1 = (l.node :: c.cut.before).reverse.length := by
        rw [hc.index_eq]
        simp
      have hfollows := follows_sibling hc habove hsplit
      rw [if_neg (by omega), hnext]
      rwa [List.reverse_reverse] at hfollows

theorem Sound.left (h : l.Sound) : Follows l.left l.location.left? := by
  cases ht : l.trail with
  | nil =>
    rw [Cursor.left, Location.left?, location, ht]
    exact follows_none
  | cons c trail =>
    rw [Sound, ht] at h
    obtain ⟨hc, habove⟩ := h
    have hindex := hc.index_eq
    simp only [Cursor.left, Location.left?, ht, trail_location ht]
    cases hbefore : c.cut.before with
    | nil =>
      rw [hbefore, List.length_nil] at hindex
      rw [if_pos (by omega)]
      exact follows_none
    | cons n ns =>
      have hsplit : l.siblings c = ns.reverse ++ n :: l.node :: c.cut.after := by
        rw [hc.siblings_eq, MarkupQuery.Crumb.siblings, hbefore]
        simp
      rw [hbefore, List.length_cons] at hindex
      have hprevious : c.index - 1 = ns.reverse.length := by
        rw [List.length_reverse]
        omega
      have hfollows := follows_sibling hc habove hsplit
      rw [if_neg (by omega), hprevious]
      rwa [List.reverse_reverse] at hfollows

theorem Sound.up (h : l.Sound) : Follows l.up l.location.up? := by
  cases ht : l.trail with
  | nil =>
    rw [Cursor.up, Location.up?, location, ht]
    exact follows_none
  | cons c trail =>
    rw [Sound, ht] at h
    obtain ⟨hc, habove⟩ := h
    have htakes := Node.withChildren?_of_isBranch (Node.isBranch_iff_kind.mpr hc.parent) (l.siblings c)
    have hmark : l.location.changed = l.changed := rfl
    simp only [Cursor.up, Location.up?, ht, trail_location ht, htakes, hmark]
    split
    · refine follows_some ⟨_, trail, true, false⟩ (habove.mark _) ?_
      rw [hc.siblings_eq]
      rfl
    · exact follows_some ⟨c.parent, trail, c.parentChanged, false⟩ habove rfl

theorem Sound.climb (h : l.Sound) :
    ∃ d, l.climb = .ok d ∧ d.location = l.location.climb ∧ d.Sound := by
  have hup := h.up
  fun_induction Cursor.climb l with
  | case1 l e hl =>
    rw [hl] at hup
    exact absurd hup not_follows_error
  | case2 l hl =>
    rw [hl] at hup
    refine ⟨_, rfl, ?_, trivial⟩
    rw [Location.climb, hup.eq_none]
    rfl
  | case3 l p hl e hp =>
    rw [hl] at hup
    have hright := hup.eq_some.2.right
    rw [hp] at hright
    exact absurd hright not_follows_error
  | case4 l p hl s hp =>
    rw [hl] at hup
    obtain ⟨hlocation, hsound⟩ := hup.eq_some
    have hright := hsound.right
    rw [hp] at hright
    obtain ⟨hbeside, hs⟩ := hright.eq_some
    refine ⟨s, rfl, ?_, hs⟩
    rw [Location.climb, hlocation]
    simp only [hbeside]
  | case5 l p hl hp ih =>
    rw [hl] at hup
    obtain ⟨hlocation, hsound⟩ := hup.eq_some
    have hright := hsound.right
    rw [hp] at hright
    obtain ⟨d, hd, hclimb, hs⟩ := ih hsound hsound.up
    refine ⟨d, hd, ?_, hs⟩
    rw [Location.climb, hlocation]
    simp only [hright.eq_none, hclimb]

theorem Sound.next (h : l.Sound) :
    ∃ d, l.next = .ok d ∧ d.location = l.location.next ∧ d.Sound := by
  have hdown := h.down
  have hright := h.right
  -- a leaf has no children to go down to
  have hbranch : (if l.node.isBranch then l.down? else none) = l.down? := by
    cases hb : l.node.isBranch with
    | true => rfl
    | false => cases hn : l.node <;> simp_all [down?, Node.children, Node.isBranch]
  have hend : l.location.atEnd = l.atEnd := rfl
  unfold Cursor.next Location.next
  rw [hbranch, hend]
  split
  · exact ⟨l, rfl, rfl, h⟩
  · cases hd : l.down? with
    | some d =>
      rw [hd] at hdown
      obtain ⟨hlocation, hsound⟩ := hdown.eq_some
      exact ⟨d, rfl, by rw [hlocation], hsound⟩
    | none =>
      rw [hd] at hdown
      rw [hdown.eq_none]
      cases hr : l.right with
      | error e =>
        rw [hr] at hright
        exact absurd hright not_follows_error
      | ok o =>
        rw [hr] at hright
        cases o with
        | some s =>
          obtain ⟨hlocation, hsound⟩ := hright.eq_some
          exact ⟨s, rfl, by rw [hlocation], hsound⟩
        | none =>
          rw [hright.eq_none]
          exact h.climb

theorem Sound.ancestors (h : l.Sound) :
    ∃ above, l.ancestors = .ok above ∧ above.map location = l.location.ancestors := by
  have hup := h.up
  fun_induction Cursor.ancestors l with
  | case1 l e hl =>
    rw [hl] at hup
    exact absurd hup not_follows_error
  | case2 l hl =>
    rw [hl] at hup
    exact ⟨[], rfl, by rw [Location.ancestors_of_up?_eq_none hup.eq_none]; rfl⟩
  | case3 l p hl ih =>
    rw [hl] at hup
    obtain ⟨hlocation, hsound⟩ := hup.eq_some
    obtain ⟨above, habove, hmap⟩ := ih hsound hsound.up
    refine ⟨p :: above, by rw [habove]; rfl, ?_⟩
    rw [Location.ancestors_of_up? hlocation, List.map_cons, hmap]

theorem Sound.top (h : l.Sound) : ∃ r, l.top = .ok r ∧ r.location = l.location.top := by
  have hup := h.up
  fun_induction Cursor.top l with
  | case1 l e hl =>
    rw [hl] at hup
    exact absurd hup not_follows_error
  | case2 l hl =>
    rw [hl] at hup
    refine ⟨l, rfl, ?_⟩
    rw [Location.top, hup.eq_none]
  | case3 l p hl ih =>
    rw [hl] at hup
    obtain ⟨hlocation, hsound⟩ := hup.eq_some
    obtain ⟨r, hr, htop⟩ := ih hsound hsound.up
    refine ⟨r, hr, htop.trans (Eq.symm ?_)⟩
    rw [Location.top, hlocation]

theorem Sound.root (h : l.Sound) : l.root = .ok l.location.root := by
  unfold Cursor.root Location.root
  show (if l.atEnd = true then _ else _) = Except.ok (if l.atEnd = true then _ else _)
  split
  · rfl
  · obtain ⟨r, hr, htop⟩ := h.top
    rw [hr, ← htop]
    rfl

/-! ## Runs -/

/-- Where a step leads, if anywhere. -/
def step (l : Cursor) : Step → Except Mishap (Option Cursor)
  | .down => .ok l.down?
  | .right => l.right
  | .left => l.left
  | .up => l.up
  | .next => l.next.map some
  | .replace n => .ok (some (l.replace n))
  | .edit f => .ok (some (l.edit f))

/-- Takes steps in turn. -/
def run (l : Cursor) : List Step → Except Mishap (Option Cursor)
  | [] => .ok (some l)
  | s :: steps =>
    match l.step s with
    | .error e => .error e
    | .ok none => .ok none
    | .ok (some m) => m.run steps

theorem Sound.step (h : l.Sound) (s : Step) : Follows (l.step s) (l.location.step? s) := by
  cases s with
  | down => exact h.down
  | right => exact h.right
  | left => exact h.left
  | up => exact h.up
  | next =>
    obtain ⟨d, hd, hlocation, hsound⟩ := h.next
    rw [Cursor.step, hd, Location.step?, ← hlocation]
    exact follows_some d hsound rfl
  | replace n => exact follows_some (l.replace n) (Described.mark h n) rfl
  | edit f => exact follows_some (l.edit f) (Described.mark h _) rfl

theorem Sound.run (h : l.Sound) (steps : List Step) :
    Follows (l.run steps) (l.location.run? steps) := by
  induction steps generalizing l with
  | nil => exact follows_some l h rfl
  | cons s steps ih =>
    obtain ⟨o, ho, hlocation, hsound⟩ := h.step s
    rw [Cursor.run, ho, Location.run?_cons, ← hlocation]
    cases o with
    | none => exact follows_none
    | some m => exact ih (hsound m rfl)

/-- The nodes at a position and at all above it, as the trail has them, each with its mark. A crumb
lies above the node at its own place in this list. -/
def standing (l : Cursor) : List (Node × Bool) :=
  (l.node, l.changed) :: l.trail.map fun c => (c.parent, c.parentChanged)

theorem Described.getElem? {n : Node} {changed : Bool} (h : Described n changed trail) {k : Nat}
    (hc : trail[k]? = some c) :
    ∃ m marked,
      ((n, changed) :: trail.map fun d => (d.parent, d.parentChanged))[k]? = some (m, marked) ∧
        c.Describes m marked := by
  induction trail generalizing n changed k with
  | nil => simp at hc
  | cons d trail ih =>
    obtain ⟨hd, habove⟩ := h
    cases k with
    | zero =>
      obtain rfl : d = c := by simpa using hc
      exact ⟨n, changed, rfl, hd⟩
    | succ k => exact ih habove hc

/-- **The invariant of crumbs.** A run of moves and edits from the root of a tree meets no mishap, and
leads where the location of the cursor is led. Wherever it leads, each crumb has a document or an element
as its parent, as many siblings as this has children, and the index of one of them; and where the node
below the crumb is not marked as changed, the siblings are the children of the parent, and the node is
the one at the index. From there no move meets a mishap either, that is a sibling looked up where there
is none or a leaf that is to be rebuilt with children: neither a further step, nor the way up to all
ancestors or to the root. -/
theorem crumbs_describe_parents (t : Node) (steps : List Step) :
    ∃ o, (ofRoot t).run steps = .ok o ∧ o.map location = (Location.ofRoot t).run? steps ∧
      ∀ l, o = some l →
        (∀ (k : Nat) (c : Crumb), l.trail[k]? = some c →
          ∃ n changed, l.standing[k]? = some (n, changed) ∧ c.Describes n changed) ∧
        (∀ s, ∃ m, l.step s = .ok m ∧ m.map location = l.location.step? s) ∧
        (∃ above, l.ancestors = .ok above ∧ above.map location = l.location.ancestors) ∧
        l.root = .ok l.location.root := by
  obtain ⟨o, ho, hlocation, hsound⟩ := (sound_ofRoot t).run steps
  refine ⟨o, ho, hlocation, fun l hl => ?_⟩
  have h := hsound l hl
  refine ⟨fun k c hc => Described.getElem? h hc, fun s => ?_, h.ancestors, h.root⟩
  obtain ⟨m, hm, hstep, -⟩ := h.step s
  exact ⟨m, hm, hstep⟩

/-- A list item is replaced by a text, and the walk goes on to the item after it. The crumb has both as
siblings, and the parent as it was left has the item still. -/
theorem crumbs_describe_parents_leaf_for_branch :
    let item : Node := .element "li" none [.text "a"]
    ∃ (l : Cursor) (c : Crumb),
      (ofRoot (.element "ul" none [item, .text "b"])).run [.down, .replace (.text "x"), .right] =
        .ok (some l) ∧ l.trail[0]? = some c ∧ l.changed = true ∧
      c.siblings = [.text "x", .text "b"] ∧ c.index = 1 ∧
      c.parent.children = [item, .text "b"] ∧ c.Describes l.node l.changed ∧
      l.root = .ok (.element "ul" none [.text "x", .text "b"]) := by
  intro item
  obtain ⟨o, ho, -, hall⟩ := crumbs_describe_parents (.element "ul" none [item, .text "b"])
    [.down, .replace (.text "x"), .right]
  let c : Crumb := ⟨.element "ul" none [item, .text "b"], [.text "x", .text "b"], 1, false⟩
  let l : Cursor := ⟨.text "b", [c], true, false⟩
  obtain rfl : o = some l := Except.ok.inj (ho.symm.trans (by rfl))
  obtain ⟨hcrumbs, -, -, hroot⟩ := hall l rfl
  obtain ⟨n, changed, hn, hc⟩ := hcrumbs 0 c rfl
  obtain ⟨rfl, rfl⟩ : l.node = n ∧ l.changed = changed := by simpa [standing] using hn
  exact ⟨l, c, ho, rfl, rfl, rfl, rfl, rfl, hc, hroot.trans (by with_unfolding_all rfl)⟩

end Cursor
end MarkupQuery
