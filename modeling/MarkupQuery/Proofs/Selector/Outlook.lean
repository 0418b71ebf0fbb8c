import Mathlib.Data.List.Forall2
import MarkupQuery.Proofs.Probe
import MarkupQuery.Proofs.Selector.Grammar
import MarkupQuery.Proofs.Selector.Normal
import MarkupQuery.Proofs.Tree.Ancestor
import MarkupQuery.Proofs.Tree.DocumentOrder

/-!
# What selectors see

The outlook from a subject is the node there and the nodes above it. The library's own tests and
combinations look at nothing else: not at marks, crumbs or siblings, nor at how the subject was
reached. From two subjects with the same outlook they give the same verdict, and they never fail nor
leave a sighting (`Selector.IsBuiltIn.goesByOutlook`). Chains are the case that needs the whole
outlook, because a link is asked about ancestors and may be a chain itself.

A location has the outlook of its place, the whole tree and the path in it, whatever edits have led
there (`Location.Sound.outlook_congr`).

Main statement: `Selector.cannot_tell_edited_from_fresh`.
-/

namespace MarkupQuery

/-! ## Outlooks -/

namespace Subject

/-- The node at a subject and the nodes above it, nearest first. What is no node has none. -/
def outlook (s : Subject) : List (Option Node) := s.node? :: s.ancestors.map node?

/-- Above an ancestor are the ancestors that come after it. -/
theorem ancestors_of_ancestors_eq_cons {s a : Subject} {above : List Subject}
    (h : s.ancestors = a :: above) : a.ancestors = above := by
  cases s with
  | bare v => cases h
  | position l =>
    change l.ancestors.map position = a :: above at h
    cases hup : l.up? with
    | none =>
      rw [Location.ancestors_of_up?_eq_none hup] at h
      cases h
    | some p =>
      rw [Location.ancestors_of_up? hup, List.map_cons] at h
      obtain ⟨rfl, rfl⟩ := List.cons.inj h
      rfl

/-- A subject is a root when nothing lies above it. -/
theorem isRoot_eq (s : Subject) : s.isRoot = s.ancestors.isEmpty := by
  cases s with
  | bare v => rfl
  | position l =>
    show l.trail.isEmpty = (l.ancestors.map position).isEmpty
    cases hup : l.up? with
    | none =>
      rw [Location.ancestors_of_up?_eq_none hup, Location.up?_eq_none_iff.mp hup]
      rfl
    | some p =>
      have htrail : l.trail ≠ [] := fun h => by simp [Location.up?_eq_none_iff.mpr h] at hup
      rw [Location.ancestors_of_up? hup, List.isEmpty_eq_false_iff.mpr htrail]
      rfl

variable {s s' : Subject}

theorem node?_congr (h : s.outlook = s'.outlook) : s.node? = s'.node? := (List.cons.inj h).1

theorem isRoot_congr (h : s.outlook = s'.outlook) : s.isRoot = s'.isRoot := by
  have hlength := congrArg List.length (List.cons.inj h).2
  rw [List.length_map, List.length_map] at hlength
  rw [isRoot_eq, isRoot_eq, Bool.eq_iff_iff, List.isEmpty_iff_length_eq_zero,
    List.isEmpty_iff_length_eq_zero, hlength]

/-- With the outlooks of two subjects, those of their ancestors are the same, one by one. -/
theorem ancestors_congr (h : s.outlook = s'.outlook) :
    List.Forall₂ (fun a a' => a.outlook = a'.outlook) s.ancestors s'.ancestors := by
  have habove := (List.cons.inj h).2
  generalize hxs : s.ancestors = xs at habove ⊢
  generalize hys : s'.ancestors = ys at habove ⊢
  clear h
  induction xs generalizing s s' ys with
  | nil =>
    cases ys with
    | nil => exact .nil
    | cons a' above' => cases habove
  | cons a above ih =>
    cases ys with
    | nil => cases habove
    | cons a' above' =>
      have ha := ancestors_of_ancestors_eq_cons hxs
      have ha' := ancestors_of_ancestors_eq_cons hys
      refine .cons ?_ (ih ha _ ha' (List.cons.inj habove).2)
      rw [outlook, outlook, ha, ha']
      exact habove

end Subject

namespace Selector

/-! ## Verdicts -/

/-- From two subjects that look the same a selector gives the same verdict, and it does nothing but
give it. -/
def GoesBy {α : Type} (view : Subject → α) (p : Selector) : Prop :=
  ∀ s s' : Subject, view s = view s' → ∃ b, p.holds s = pure b ∧ p.holds s' = pure b

/-- From two subjects with the same outlook a selector gives the same verdict, and it does nothing but
give it. -/
def GoesByOutlook (p : Selector) : Prop := p.GoesBy Subject.outlook

section View

variable {α β : Type} {view : Subject → α} {finer : Subject → β} {p : Selector}
  {parts : List Selector}

/-- What goes by a view goes by any view that tells as much. -/
theorem GoesBy.of_finer (h : p.GoesBy view)
    (hview : ∀ s s' : Subject, finer s = finer s' → view s = view s') : p.GoesBy finer :=
  fun s s' hs => h s s' (hview s s' hs)

theorem goesBy_looking {test : Subject → Bool} {name : String}
    (h : ∀ s s' : Subject, view s = view s' → test s = test s') : (looking test name).GoesBy view :=
  fun s s' hs => ⟨test s, rfl, by rw [h s s' hs]; rfl⟩

theorem GoesBy.negate (h : p.GoesBy view) : (Selector.negate p).GoesBy view := by
  intro s s' hs
  obtain ⟨b, hb, hb'⟩ := h s s' hs
  refine ⟨!b, ?_, ?_⟩
  · simp only [Selector.negate, hb, map_pure]
  · simp only [Selector.negate, hb', map_pure]

theorem goesBy_all (h : ∀ p ∈ parts, p.GoesBy view) : (all parts).GoesBy view := by
  intro s s' hs
  suffices hparts : ∃ b, allHold parts s = pure b ∧ allHold parts s' = pure b from
    hparts.imp fun b hb => ⟨(congrArg Probe.inGenerator hb.1).trans (Probe.inGenerator_pure b),
      (congrArg Probe.inGenerator hb.2).trans (Probe.inGenerator_pure b)⟩
  induction parts with
  | nil => exact ⟨true, rfl, rfl⟩
  | cons p ps ih =>
    obtain ⟨here, hhere, hhere'⟩ := h p List.mem_cons_self s s' hs
    rw [allHold, allHold, hhere, hhere', pure_bind, pure_bind]
    cases here with
    | true => exact ih fun q hq => h q (List.mem_cons_of_mem _ hq)
    | false => exact ⟨false, rfl, rfl⟩

theorem goesBy_any (h : ∀ p ∈ parts, p.GoesBy view) : (any parts).GoesBy view := by
  intro s s' hs
  suffices hparts : ∃ b, anyHolds parts s = pure b ∧ anyHolds parts s' = pure b from
    hparts.imp fun b hb => ⟨(congrArg Probe.inGenerator hb.1).trans (Probe.inGenerator_pure b),
      (congrArg Probe.inGenerator hb.2).trans (Probe.inGenerator_pure b)⟩
  induction parts with
  | nil => exact ⟨false, rfl, rfl⟩
  | cons p ps ih =>
    obtain ⟨here, hhere, hhere'⟩ := h p List.mem_cons_self s s' hs
    rw [anyHolds, anyHolds, hhere, hhere', pure_bind, pure_bind]
    cases here with
    | true => exact ⟨true, rfl, rfl⟩
    | false => exact ih fun q hq => h q (List.mem_cons_of_mem _ hq)

end View

/-! ## Tests of the node alone -/

/-- The library's tests of the node at a position, and what is made of them without looking
elsewhere. -/
inductive IsNodeTest : Selector → Prop
  | anyNode : IsNodeTest anyNode
  | ofKind (kinds : List Kind) : IsNodeTest (ofKind kinds)
  | tagIs (tag : String) : IsNodeTest (tagIs tag)
  | attributeIs (name value : String) : IsNodeTest (attributeIs name value)
  | hasAttribute (name : String) : IsNodeTest (hasAttribute name)
  | idIs (id : String) : IsNodeTest (idIs id)
  | classesInclude (classes : List String) : IsNodeTest (classesInclude classes)
  | negate {p : Selector} (h : IsNodeTest p) : IsNodeTest (negate p)
  | all {parts : List Selector} (h : ∀ p ∈ parts, IsNodeTest p) : IsNodeTest (all parts)
  | any {parts : List Selector} (h : ∀ p ∈ parts, IsNodeTest p) : IsNodeTest (any parts)

theorem IsNodeTest.goesBy_node {p : Selector} (hp : p.IsNodeTest) : p.GoesBy Subject.node? := by
  induction hp with
  | anyNode => exact goesBy_looking fun _ _ _ => rfl
  | ofKind kinds => exact goesBy_looking fun s s' h => by simp only [Subject.kind?, h]
  | tagIs tag => exact goesBy_looking fun s s' h => by simp only [Subject.tag?, h]
  | attributeIs name value => exact goesBy_looking fun s s' h => by simp only [Subject.attribute?, h]
  | hasAttribute name => exact goesBy_looking fun s s' h => by simp only [Subject.attribute?, h]
  | idIs id =>
    exact goesBy_looking fun s s' h => by simp only [Subject.attribute?, h]
  | classesInclude classes =>
    exact goesBy_looking fun s s' h => by simp only [classWords, Subject.attribute?, h]
  | negate _ ih => exact ih.negate
  | all _ ih => exact goesBy_all ih
  | any _ ih => exact goesBy_any ih

/-- A test of the node alone goes by the outlook. -/
theorem IsNodeTest.goesByOutlook {p : Selector} (hp : p.IsNodeTest) : p.GoesByOutlook :=
  hp.goesBy_node.of_finer fun _ _ => Subject.node?_congr

theorem goesByOutlook_atRoot : atRoot.GoesByOutlook :=
  goesBy_looking fun _ _ => Subject.isRoot_congr

/-! ## Chains -/

section Chains

variable {parts : List Selector}

/-- Links asked about two lines of ancestors, with the same outlooks one by one. -/
theorem linksHold_congr : ∀ (links : List Selector) (above above' : List Subject),
    (∀ p ∈ links, p.GoesByOutlook) →
    List.Forall₂ (fun a a' => a.outlook = a'.outlook) above above' →
    ∃ b, linksHold links above = pure b ∧ linksHold links above' = pure b
  | [], _, _, _, _ => by
    rw [linksHold, linksHold]
    exact ⟨true, rfl, rfl⟩
  | _ :: _, [], [], _, _ => by
    rw [linksHold]
    exact ⟨false, rfl, rfl⟩
  | p :: ps, a :: above, a' :: above', h, .cons ha habove => by
    obtain ⟨here, hhere, hhere'⟩ := h p List.mem_cons_self a a' ha
    rw [linksHold, linksHold, hhere, hhere', pure_bind, pure_bind]
    cases here with
    | true => exact linksHold_congr ps above above' (fun q hq => h q (List.mem_cons_of_mem _ hq)) habove
    | false => exact linksHold_congr (p :: ps) above above' h habove

/-- What is true of the test that holds everywhere, and of a link below others when it is true of each
of them, is true of chains. -/
theorem chain_induction {P : Selector → Prop} (hany : P anyNode)
    (hbelow : ∀ (last : Selector) (outer : List Selector) (name : String), P last →
      (∀ p ∈ outer, P p) →
      P ⟨fun s => do if ← last.holds s then linksHold outer s.ancestors else pure false, name⟩)
    {links : List Selector} (h : ∀ p ∈ links, P p) : P (chain links) := by
  have hreverse : ∀ p ∈ links.reverse, P p := fun p hp => h p (List.mem_reverse.mp hp)
  unfold chain
  split
  · exact hany
  · next only honly => exact hreverse only (by rw [honly]; exact List.mem_cons_self)
  · next last outer _ hlast =>
    rw [hlast] at hreverse
    exact hbelow last outer _ (hreverse last List.mem_cons_self)
      fun p hp => hreverse p (List.mem_cons_of_mem _ hp)

theorem goesByOutlook_chain (h : ∀ p ∈ parts, p.GoesByOutlook) : (chain parts).GoesByOutlook := by
  refine chain_induction IsNodeTest.anyNode.goesByOutlook (fun last outer name hlast houter => ?_) h
  intro s s' hs
  obtain ⟨here, hhere, hhere'⟩ := hlast s s' hs
  simp only [hhere, hhere', pure_bind]
  cases here with
  | true => exact linksHold_congr outer _ _ houter (Subject.ancestors_congr hs)
  | false => exact ⟨false, rfl, rfl⟩

end Chains

/-! ## Compiled text -/

theorem goesByOutlook_ofToken {s : String} {p : Selector} (h : ofToken s = .ok p) :
    p.GoesByOutlook := by
  rw [ofToken] at h
  split at h
  · next t ht =>
    obtain rfl := Except.ok.inj h
    show t.test.GoesByOutlook
    rw [Token.test_eq]
    refine (IsNodeTest.all ?_).goesByOutlook
    simp only [List.forall_mem_cons, List.not_mem_nil, false_implies, implies_true, and_true]
    refine ⟨?_, ?_, ?_⟩
    · unfold Token.tagTest
      split
      · exact .anyNode
      · exact .tagIs _
    · cases t.id with
      | none => exact .anyNode
      | some name => exact .idIs _
    · unfold Token.classTest
      split
      · exact .anyNode
      · exact .classesInclude _
  · cases h

/-- The selectors made of the library's own tests and combinations, and of compiled text. A query may
have such selectors among its elements, but no caller's test. -/
inductive IsBuiltIn : Selector → Prop
  | anyNode : IsBuiltIn anyNode
  | atRoot : IsBuiltIn atRoot
  | ofKind (kinds : List Kind) : IsBuiltIn (ofKind kinds)
  | tagIs (tag : String) : IsBuiltIn (tagIs tag)
  | attributeIs (name value : String) : IsBuiltIn (attributeIs name value)
  | hasAttribute (name : String) : IsBuiltIn (hasAttribute name)
  | idIs (id : String) : IsBuiltIn (idIs id)
  | classesInclude (classes : List String) : IsBuiltIn (classesInclude classes)
  | negate {p : Selector} (h : IsBuiltIn p) : IsBuiltIn (negate p)
  | all {parts : List Selector} (h : ∀ p ∈ parts, IsBuiltIn p) : IsBuiltIn (all parts)
  | any {parts : List Selector} (h : ∀ p ∈ parts, IsBuiltIn p) : IsBuiltIn (any parts)
  | chain {links : List Selector} (h : ∀ p ∈ links, IsBuiltIn p) : IsBuiltIn (chain links)
  | token {s : String} {p : Selector} (h : ofToken s = .ok p) : IsBuiltIn p
  | compiled {q : Query} {elements : List ChainElement} {p : Selector}
      (hq : q.normalise = .ok elements) (htests : ∀ c, .callback c ∉ elements)
      (hparts : ∀ r, .selector r ∈ elements → IsBuiltIn r) (h : q.compile = .ok p) : IsBuiltIn p

/-- Whatever a text compiles to is built in. -/
theorem isBuiltIn_of_compile_text {s : String} {p : Selector} (h : (Query.text s).compile = .ok p) :
    p.IsBuiltIn :=
  .compiled (q := .text s) rfl (by simp) (by simp) h

/-- Built-in selectors go by the outlook. -/
theorem IsBuiltIn.goesByOutlook {p : Selector} (hp : p.IsBuiltIn) : p.GoesByOutlook := by
  induction hp with
  | anyNode => exact IsNodeTest.anyNode.goesByOutlook
  | atRoot => exact goesByOutlook_atRoot
  | ofKind kinds => exact (IsNodeTest.ofKind kinds).goesByOutlook
  | tagIs tag => exact (IsNodeTest.tagIs tag).goesByOutlook
  | attributeIs name value => exact (IsNodeTest.attributeIs name value).goesByOutlook
  | hasAttribute name => exact (IsNodeTest.hasAttribute name).goesByOutlook
  | idIs id => exact (IsNodeTest.idIs id).goesByOutlook
  | classesInclude classes => exact (IsNodeTest.classesInclude classes).goesByOutlook
  | negate _ ih => exact GoesBy.negate ih
  | all _ ih => exact goesBy_all ih
  | any _ ih => exact goesBy_any ih
  | chain _ ih => exact goesByOutlook_chain ih
  | token h => exact goesByOutlook_ofToken h
  | compiled hq htests _ h ih =>
    refine Query.compile_induction (fun _ => goesByOutlook_chain) (fun elements hn e he r hr => ?_) h
    obtain rfl := Except.ok.inj (hq.symm.trans hn)
    cases e with
    | token s => exact goesByOutlook_ofToken hr
    | selector r' =>
      obtain rfl := Except.ok.inj hr
      exact ih r' he
    | callback c => exact absurd he (htests c)

end Selector

/-! ## Outlooks of places -/

namespace Location

/-- Positions with the same path in the same tree have the same outlook. Whether the nodes above were
rebuilt on the way up or taken as they were left makes no difference. -/
theorem Sound.outlook_congr {l m : Location} (hl : l.Sound) (hm : m.Sound) (hwhole : l.whole = m.whole)
    (hpath : l.path = m.path) : (Subject.position l).outlook = (Subject.position m).outlook := by
  have hnode : l.node = m.node := by
    have h := hl.at?_path
    rw [hwhole, hpath, hm.at?_path] at h
    exact (Option.some.inj h).symm
  show some l.node :: (l.ancestors.map Subject.position).map Subject.node? =
    some m.node :: (m.ancestors.map Subject.position).map Subject.node?
  rw [hnode]
  congr 1
  fun_induction ancestors l generalizing m with
  | case1 l hup =>
    have htrail : m.trail = [] := by
      rw [path_eq, path_eq, up?_eq_none_iff.mp hup, pathOf_nil] at hpath
      simpa [pathOf] using hpath.symm
    rw [ancestors_of_up?_eq_none (up?_eq_none_iff.mpr htrail)]
  | case2 l p hup ih =>
    obtain ⟨c, hc, hp, hpw, -⟩ := hl.up hup
    cases hmup : m.up? with
    | none =>
      rw [path_eq, path_eq, hc, up?_eq_none_iff.mp hmup, pathOf_cons, pathOf_nil] at hpath
      simp at hpath
    | some q =>
      obtain ⟨d, hd, hq, hqw, -⟩ := hm.up hmup
      -- the last index is dropped from both paths
      have habove : p.path = q.path := by
        rw [path_eq, path_eq, hc, hd, pathOf_cons, pathOf_cons] at hpath
        exact (List.append_inj' hpath rfl).1
      have hnodes : p.node = q.node := by
        have h := hp.at?_path
        rw [hpw, hwhole, ← hqw, habove, hq.at?_path] at h
        exact (Option.some.inj h).symm
      rw [ancestors_of_up? hmup]
      simp only [List.map_cons, Subject.node?, hnodes]
      congr 1
      exact ih hp hq (by rw [hpw, hwhole, hqw]) habove hnodes

/-! ## Fresh locations -/

/-- Moves alone lead from the root of a tree to a location. -/
def IsFreshIn (m : Location) (t : Node) : Prop :=
  ∃ moves, (∀ s ∈ moves, s.IsMove) ∧ (ofRoot t).run? moves = some m

theorem IsFreshIn.sound {m : Location} {t : Node} (h : m.IsFreshIn t) : m.Sound := by
  obtain ⟨moves, -, hrun⟩ := h
  exact sound_of_run hrun

theorem IsFreshIn.whole_eq {m : Location} {t : Node} (h : m.IsFreshIn t) : m.whole = t := by
  obtain ⟨moves, hmoves, hrun⟩ := h
  exact (sound_ofRoot t).whole_of_moves hmoves hrun

/-- To every position of a tree moves alone lead: a walk comes by. -/
theorem exists_isFreshIn {t : Node} {p : List Nat} (h : (t.at? p).isSome) :
    ∃ m : Location, m.IsFreshIn t ∧ m.path = p ∧ m.atEnd = false := by
  rw [← Node.mem_positions, ← remaining_ofRoot] at h
  obtain ⟨k, hk⟩ := List.mem_iff_getElem?.mp h
  obtain ⟨hend, hpath, -⟩ := (sound_ofRoot t).visits.visit k p hk
  refine ⟨next^[k] (ofRoot t), ⟨List.replicate k .next, ?_, run?_replicate_next _ k⟩, hpath, hend⟩
  intro s hs
  rw [List.eq_of_mem_replicate hs]
  trivial

end Location

namespace Selector

/-- **Selectors cannot tell an edited location from a fresh one.** Wherever moves and edits have led,
moves alone lead from the root of the tree as edited so far to the same path; and of any location
there that they lead to, a built-in selector says the same. An end location compares with the root. -/
theorem cannot_tell_edited_from_fresh {t : Node} {steps : List Step} {l : Location}
    (hrun : (Location.ofRoot t).run? steps = some l) :
    (∃ m : Location, m.IsFreshIn l.root ∧ m.path = l.path ∧ m.atEnd = false) ∧
    (l.atEnd = true → l.path = []) ∧
    ∀ m : Location, m.IsFreshIn l.root → m.path = l.path → ∀ p : Selector, p.IsBuiltIn →
      ∃ verdict, p.holds (.position l) = pure verdict ∧ p.holds (.position m) = pure verdict := by
  have hl := Location.sound_of_run hrun
  refine ⟨?_, ?_, ?_⟩
  · refine Location.exists_isFreshIn ?_
    rw [hl.root_eq, hl.at?_path]
    rfl
  · intro hend
    rw [Location.path_eq, hl.trail_of_atEnd hend, pathOf_nil]
  · intro m hm hpath p hp
    have hwhole : l.whole = m.whole := by rw [hm.whole_eq, hl.root_eq]
    exact hp.goesByOutlook _ _ (hl.outlook_congr hm.sound hwhole hpath.symm)

/-- A list that was replaced, and then its item: the tag of the new list is seen from the new item,
before and after going back to the root. -/
theorem cannot_tell_edited_from_fresh_below_edit :
    ∃ (l m : Location) (p : Selector),
      (Location.ofRoot (.element "div" none [.element "ol" none [.text "a"], .text "z"])).run?
        [.down, .replace (.element "ul" none [.text "b"]), .down,
          .edit fun n => .element "i" none [n]] = some l ∧
      m.IsFreshIn l.root ∧ m.path = l.path ∧ (Query.text "ul i").compile = .ok p ∧
      p.holds (.position l) = pure true ∧ p.holds (.position m) = pure true := by
  let l : Location := ⟨.element "i" none [.text "b"],
    [⟨.element "ul" none [.text "b"], [], [], true⟩,
      ⟨.element "div" none [.element "ol" none [.text "a"], .text "z"], [], [.text "z"], false⟩],
    true, false⟩
  have hrun : (Location.ofRoot (.element "div" none [.element "ol" none [.text "a"], .text "z"])).run?
      [.down, .replace (.element "ul" none [.text "b"]), .down,
        .edit fun n => .element "i" none [n]] = some l := rfl
  have hask : ((Query.text "ul i").compile >>= fun p => ((p.holds (.position l)).run {}).1)
      = .ok true := by decide +kernel
  cases hp : (Query.text "ul i").compile with
  | error f =>
    rw [hp] at hask
    cases hask
  | ok p =>
    obtain ⟨⟨m, hm, hpath, -⟩, -, hsame⟩ := cannot_tell_edited_from_fresh hrun
    obtain ⟨verdict, hverdict, hfresh⟩ := hsame m hm hpath p (isBuiltIn_of_compile_text hp)
    obtain rfl : verdict = true := by
      rw [hp] at hask
      change ((p.holds (.position l)).run {}).1 = .ok true at hask
      rw [hverdict] at hask
      exact Except.ok.inj hask
    exact ⟨l, m, p, hrun, hm, hpath, rfl, hverdict, hfresh⟩

end Selector
end MarkupQuery
