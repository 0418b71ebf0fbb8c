import MarkupQuery.Proofs.Tree.Marks

/-!
# Two views of what lies above

The ancestors of a location are found by climbing, so that they are the nodes above the position in
the tree as edited so far (`Sound.ancestors_nodes`). The parents on the trail are cheaper to read, but
they are as they were when they were left: an edit below them does not reach them. They differ from
the ancestors in their children at most, and they are the ancestors exactly when every parent still
has the nodes around the position as its children (`Sound.enclosing_eq_iff`), as is the case when
nothing was edited.

Main statement: `Location.enclosing_eq_ancestors_iff`.
-/

namespace MarkupQuery

/-- Every parent on a trail still has the nodes around the position as its children. -/
def StillAround (n : Node) : List Crumb → Prop
  | [] => True
  | c :: trail => c.siblings n = c.parent.children ∧ StillAround c.parent trail

/-- No parent on a trail is marked as changed. -/
def UnmarkedTrail (trail : List Crumb) : Prop := ∀ c ∈ trail, c.parentChanged = false

/-- Where nothing is marked, the parents are as they were left. -/
theorem Fits.stillAround {n : Node} {trail : List Crumb} (h : Fits n false trail)
    (hmarks : UnmarkedTrail trail) : StillAround n trail := by
  induction trail generalizing n with
  | nil => trivial
  | cons c trail ih =>
    obtain ⟨-, -, hkept, hup⟩ := h
    rw [hmarks c List.mem_cons_self] at hup
    exact ⟨hkept rfl, ih hup fun d hd => hmarks d (List.mem_cons_of_mem _ hd)⟩

namespace Location

variable {l m : Location}

/-! ## Going up -/

/-- Going up leads to the parent with the nodes around the position as its children, whether it was
rebuilt or taken as it was left. -/
theorem Sound.up_node (hl : l.Sound) {p : Location} (h : l.up? = some p) :
    ∃ c, l.trail = c :: p.trail ∧ c.parent.isBranch = true ∧
      p.node = c.parent.refill (c.siblings l.node) := by
  have hfit := hl.fits
  unfold up? at h
  split at h
  · simp at h
  · next c trail ht =>
    rw [ht] at hfit
    obtain ⟨hb, -, hkept, -⟩ := hfit
    split at h
    · obtain rfl := Option.some.inj h
      exact ⟨c, ht, hb, rfl⟩
    · next hch =>
      obtain rfl := Option.some.inj h
      refine ⟨c, ht, hb, ?_⟩
      rw [hkept (by simpa using hch), Node.refill_children]

theorem depth_eq_length_path (l : Location) : l.depth = l.path.length := by
  simp [depth, path]

theorem enclosing_of_trail {c : Crumb} {trail : List Crumb} (h : l.trail = c :: trail) (n : Node)
    (changed atEnd : Bool) : l.enclosing = enclosing ⟨n, trail, changed, atEnd⟩ ++ [c.parent] := by
  rw [enclosing, enclosing, h, List.map_cons, List.reverse_cons]

/-- The ancestors' nodes, outermost first, are the subtrees at the beginnings of the path. -/
theorem Sound.ancestors_nodes (hl : l.Sound) :
    (l.ancestors.map node).reverse.map some
      = (List.range l.depth).map fun k => l.root.at? (l.path.take k) := by
  fun_induction ancestors l with
  | case1 l h => simp [depth, up?_eq_none_iff.mp h]
  | case2 l p h ih =>
    obtain ⟨c, ht, hp, hw, -⟩ := hl.up h
    have hpath : l.path = p.path ++ [c.index] := by rw [path_eq, path_eq, ht, pathOf_cons]
    have hdepth : l.depth = p.depth + 1 := by rw [depth, depth, ht, List.length_cons]
    have hlength := p.depth_eq_length_path
    have hbelow : ∀ k ∈ List.range p.depth,
        p.root.at? (p.path.take k) = l.root.at? (l.path.take k) := by
      intro k hk
      have hk := List.mem_range.mp hk
      rw [hl.root_eq, hp.root_eq, hw, hpath, List.take_append_of_le_length (by omega)]
    have hparent : l.root.at? (l.path.take p.depth) = some p.node := by
      rw [hl.root_eq, ← hw, hpath, hlength, List.take_left]
      exact hp.at?_path
    rw [hdepth, List.range_succ, List.map_append, List.map_singleton, hparent,
      ← List.map_congr_left hbelow, ← ih hp]
    simp

/-- The parents on the trail differ from the ancestors in their children at most. -/
theorem Sound.enclosing_refill (hl : l.Sound) :
    List.Forall₂ (fun left now => left.refill now.children = now) l.enclosing
      (l.ancestors.map node).reverse := by
  fun_induction ancestors l with
  | case1 l h => simp [enclosing, up?_eq_none_iff.mp h]
  | case2 l p h ih =>
    obtain ⟨c, ht, hbranch, hnode⟩ := hl.up_node h
    obtain ⟨-, -, hp, -⟩ := hl.up h
    have hhere : c.parent.refill p.node.children = p.node := by
      rw [hnode, Node.children_refill hbranch]
    rw [enclosing_of_trail ht p.node p.changed p.atEnd, List.map_cons, List.reverse_cons]
    exact List.rel_append (ih hp) (.cons hhere .nil)

/-- The parents on the trail are the ancestors exactly when they are still around the position. -/
theorem Sound.enclosing_eq_iff (hl : l.Sound) :
    l.enclosing = (l.ancestors.map node).reverse ↔ StillAround l.node l.trail := by
  fun_induction ancestors l with
  | case1 l h => simp [enclosing, StillAround, up?_eq_none_iff.mp h]
  | case2 l p h ih =>
    obtain ⟨c, ht, hbranch, hnode⟩ := hl.up_node h
    obtain ⟨-, -, hp, -⟩ := hl.up h
    -- the nearest parent is the parent above exactly when it has kept its children
    have hhere : c.parent = p.node ↔ c.siblings l.node = c.parent.children := by
      rw [hnode]
      constructor
      · intro heq
        have hchildren := congrArg Node.children heq
        rw [Node.children_refill hbranch] at hchildren
        exact hchildren.symm
      · intro hkept
        rw [hkept, Node.refill_children]
    rw [enclosing_of_trail ht p.node p.changed p.atEnd, List.map_cons, List.reverse_cons, ht,
      StillAround, ← hhere]
    constructor
    · intro heq
      obtain ⟨habove, hlast⟩ := List.append_inj' heq rfl
      have hparent : c.parent = p.node := by simpa using hlast
      exact ⟨hparent, hparent ▸ (ih hp).mp habove⟩
    · rintro ⟨hparent, hrest⟩
      rw [hparent] at hrest ⊢
      rw [show enclosing ⟨p.node, p.trail, p.changed, p.atEnd⟩ = p.enclosing from rfl,
        (ih hp).mpr hrest]

/-! ## Runs without edits -/

/-- Nothing on the way back to the root is marked as changed. -/
structure Unmarked (l : Location) : Prop where
  here : l.changed = false
  above : UnmarkedTrail l.trail

theorem unmarked_ofRoot (t : Node) : (ofRoot t).Unmarked := ⟨rfl, by simp [ofRoot, UnmarkedTrail]⟩

theorem unmarked_iff : l.Unmarked ↔ ¬ l.Marked := by
  rw [Marked, marks, List.mem_cons, List.mem_map, not_or]
  constructor
  · rintro ⟨hhere, habove⟩
    refine ⟨by simp [hhere], ?_⟩
    rintro ⟨c, hc, hmark⟩
    simp [habove c hc] at hmark
  · rintro ⟨hhere, habove⟩
    exact ⟨by simpa using hhere, fun c hc => by simpa using fun hmark => habove ⟨c, hc, hmark⟩⟩

theorem Unmarked.up (hl : l.Unmarked) (h : l.up? = some m) : m.Unmarked := by
  rw [unmarked_iff, marked_up h]
  exact unmarked_iff.mp hl

theorem Unmarked.next (hl : l.Unmarked) : l.next.Unmarked := by
  rw [unmarked_iff, marked_next]
  exact unmarked_iff.mp hl

/-- Moves mark nothing. -/
theorem Unmarked.run {steps : List Step} (hl : l.Unmarked) (hmoves : ∀ s ∈ steps, s.IsMove)
    (h : l.run? steps = some m) : m.Unmarked := by
  rw [unmarked_iff, marked_run h, or_iff_right (unmarked_iff.mp hl)]
  rintro ⟨s, hs, hedit⟩
  exact hedit (hmoves s hs)

/-! ## The two views -/

/-- **When the two views agree.** The ancestors are the nodes above the position in the tree as edited
so far, whatever run has led there. The parents on the trail are the same nodes exactly when each of
them still has the nodes around the position as its children; without edits they are. In any case they
are the ancestors but for their children. -/
theorem enclosing_eq_ancestors_iff {t : Node} {steps : List Step}
    (hrun : (ofRoot t).run? steps = some l) :
    (l.ancestors.map node).reverse.map some
        = (List.range l.depth).map (fun k => l.root.at? (l.path.take k)) ∧
      (l.enclosing = (l.ancestors.map node).reverse ↔ StillAround l.node l.trail) ∧
      ((∀ s ∈ steps, s.IsMove) → l.enclosing = (l.ancestors.map node).reverse) ∧
      List.Forall₂ (fun left now => left.refill now.children = now) l.enclosing
        (l.ancestors.map node).reverse := by
  have hl := sound_of_run hrun
  refine ⟨hl.ancestors_nodes, hl.enclosing_eq_iff, fun hmoves => ?_, hl.enclosing_refill⟩
  have hmarks := (unmarked_ofRoot t).run hmoves hrun
  have hfits := hl.fits
  rw [hmarks.here] at hfits
  exact hl.enclosing_eq_iff.mpr (hfits.stillAround hmarks.above)

/-- An item that was edited, and then its text: the list is as it was left, the item as it was edited. -/
theorem enclosing_eq_ancestors_iff_below_edit :
    ∃ l, (ofRoot (.element "ul" none [.element "li" none [.text "a"]])).run?
        [.down, .edit fun n => .element "dd" none n.children, .down] = some l ∧
      l.enclosing = [.element "ul" none [.element "li" none [.text "a"]],
        .element "dd" none [.text "a"]] ∧
      (l.enclosing = (l.ancestors.map node).reverse ↔ StillAround l.node l.trail) := by
  have hrun : (ofRoot (.element "ul" none [.element "li" none [.text "a"]])).run?
      [.down, .edit fun n => .element "dd" none n.children, .down] = some
        ⟨.text "a", [⟨.element "dd" none [.text "a"], [], [], true⟩,
          ⟨.element "ul" none [.element "li" none [.text "a"]], [], [], false⟩], false, false⟩ := rfl
  exact ⟨_, hrun, rfl, (enclosing_eq_ancestors_iff hrun).2.1⟩

/-- The two views do not always agree, nor does the position in the tree tell what the parents on the
trail are: a replaced text is not seen in the list above it until the list has been left and entered
again. -/
theorem enclosing_ne_ancestors :
    ∃ l m, (ofRoot (.element "ul" none [.text "a"])).run? [.down, .replace (.text "x")] = some l ∧
      (ofRoot (.element "ul" none [.text "a"])).run? [.down, .replace (.text "x"), .up, .down]
        = some m ∧
      Node.sameAll l.enclosing (l.ancestors.map node).reverse = false ∧
      Node.sameAll m.enclosing (m.ancestors.map node).reverse = true ∧
      l.root = m.root ∧ l.path = m.path ∧ Node.sameAll l.enclosing m.enclosing = false := by
  let before : Crumb := ⟨.element "ul" none [.text "a"], [], [], false⟩
  let after : Crumb := ⟨.element "ul" none [.text "x"], [], [], true⟩
  let l : Location := ⟨.text "x", [before], true, false⟩
  let m : Location := ⟨.text "x", [after], false, false⟩
  have hl : (ofRoot (.element "ul" none [.text "a"])).run? [.down, .replace (.text "x")] = some l :=
    rfl
  have hm : (ofRoot (.element "ul" none [.text "a"])).run?
      [.down, .replace (.text "x"), .up, .down] = some m := rfl
  refine ⟨l, m, hl, hm, ?_, ?_, ?_, rfl, rfl⟩
  · rw [ancestors_of_up? rfl, ancestors_of_up?_eq_none rfl]
    rfl
  · rw [ancestors_of_up? rfl, ancestors_of_up?_eq_none rfl]
    rfl
  · rw [(sound_of_run hl).root_eq, (sound_of_run hm).root_eq]
    rfl

end Location
end MarkupQuery
