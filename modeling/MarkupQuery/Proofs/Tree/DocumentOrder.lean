import Mathlib.Logic.Function.Iterate
import MarkupQuery.Proofs.Tree.Run

/-!
# Document order

From wherever a run has led, advancing step by step visits every position that comes after the
present one, each once and in order, and ends at an end location that holds the whole tree. The walk
from the root visits every position of the tree.

Main statement: `Location.walk_in_document_order`.
-/

namespace MarkupQuery

/-- A list has the positions of a tree that satisfy a condition, each once and in document order: a
path comes before its extensions, and otherwise the first index that differs decides. -/
structure Node.InDocumentOrder (t : Node) (P : List Nat → Prop) (ps : List (List Nat)) : Prop where
  sorted : ps.Pairwise (· < ·)
  mem_iff : ∀ p, p ∈ ps ↔ (t.at? p).isSome ∧ P p

theorem Node.inDocumentOrder_positions (t : Node) :
    t.InDocumentOrder (fun _ => True) t.positions :=
  ⟨t.positions_sorted, fun p => by rw [mem_positions, and_true]⟩

theorem Node.inDocumentOrder_positionsAfter (t : Node) (p : List Nat) :
    t.InDocumentOrder (p < ·) (t.positionsAfter p) :=
  ⟨t.positions_sorted.filter _, fun q => by
    rw [positionsAfter, List.mem_filter, mem_positions, decide_eq_true_iff]⟩

namespace Location

/-- Advancing from a location visits the given positions of a tree in turn, and afterwards stays at
an end location that holds the tree. -/
structure Visits (l : Location) (t : Node) (ps : List (List Nat)) : Prop where
  visit : ∀ k p, ps[k]? = some p → (next^[k] l).atEnd = false ∧ (next^[k] l).path = p ∧
    (next^[k] l).root = t ∧ t.at? p = some (next^[k] l).node
  finish : ∀ k, ps.length ≤ k → (next^[k] l).atEnd = true ∧ (next^[k] l).node = t ∧
    (next^[k] l).root = t ∧ (next^[k] l).next = next^[k] l

theorem run?_replicate_next (l : Location) (k : Nat) :
    l.run? (List.replicate k .next) = some (next^[k] l) := by
  induction k generalizing l with
  | zero => rfl
  | succ k ih => rw [List.replicate_succ, run?_cons, Function.iterate_succ_apply, ← ih]; rfl

theorem Sound.iterate_next {l : Location} (hl : l.Sound) (k : Nat) :
    (Location.next^[k] l).Sound ∧ (Location.next^[k] l).whole = l.whole ∧
      (Location.next^[k] l).remaining = l.remaining.drop k := by
  induction k with
  | zero => exact ⟨hl, rfl, rfl⟩
  | succ k ih =>
    obtain ⟨hs, hw, hrem⟩ := ih
    rw [Function.iterate_succ_apply']
    exact ⟨hs.next.1, hs.next.2.1.trans hw, by rw [hs.next.2.2, hrem, List.tail_drop]⟩

theorem Sound.remaining_eq_nil_iff {l : Location} (hl : l.Sound) :
    l.remaining = [] ↔ l.atEnd = true := by
  constructor
  · intro h
    by_contra hend
    rw [hl.remaining_eq (by simpa using hend)] at h
    exact absurd h (List.cons_ne_nil _ _)
  · exact remaining_of_atEnd

/-- A walk that has not taken all positions away is not at the end. -/
theorem Sound.atEnd_eq_false {l : Location} (hl : l.Sound) {ps : List (List Nat)} {k : Nat}
    (hrem : l.remaining = ps.drop k) (hk : k < ps.length) : l.atEnd = false := by
  by_contra hend
  rw [hl.remaining_eq_nil_iff.mpr (by simpa using hend)] at hrem
  have hle := List.drop_eq_nil_iff.mp hrem.symm
  omega

theorem Sound.visits {l : Location} (hl : l.Sound) : l.Visits l.whole l.remaining where
  visit k p hp := by
    obtain ⟨hs, hw, hrem⟩ := hl.iterate_next k
    have hend := hs.atEnd_eq_false hrem (List.getElem?_eq_some_iff.mp hp).1
    have hpath : (Location.next^[k] l).path = p := by
      have hhead := congrArg List.head? hrem
      rw [hs.remaining_eq hend, List.head?_cons, List.head?_drop, hp] at hhead
      exact Option.some.inj hhead
    refine ⟨hend, hpath, hs.root_eq.trans hw, ?_⟩
    rw [← hpath, ← hw]
    exact hs.at?_path
  finish k hk := by
    obtain ⟨hs, hw, hrem⟩ := hl.iterate_next k
    have hend : (Location.next^[k] l).atEnd = true := by
      rw [← hs.remaining_eq_nil_iff, hrem]
      exact List.drop_eq_nil_iff.mpr hk
    have hnode : (Location.next^[k] l).node = l.whole := by
      rw [← hw, whole, hs.trail_of_atEnd hend, rebuild]
    exact ⟨hend, hnode, hs.root_eq.trans hw, next_of_atEnd hend⟩

theorem Sound.following {l : Location} (hl : l.Sound) :
    l.following.map path = l.remaining ∧
      ∀ m ∈ l.following, m.Sound ∧ m.whole = l.whole ∧ m.atEnd = false := by
  fun_induction Location.following l with
  | case1 l h => exact ⟨(remaining_of_atEnd h).symm, by simp⟩
  | case2 l h ih =>
    have hend : l.atEnd = false := by simpa using h
    obtain ⟨hs, hw, hrem⟩ := hl.next
    obtain ⟨hpaths, hall⟩ := ih hs
    constructor
    · rw [List.map_cons, hpaths, hrem, hl.remaining_eq hend, List.tail_cons]
    · intro m hm
      rcases List.mem_cons.mp hm with rfl | hm
      · exact ⟨hl, rfl, hend⟩
      · obtain ⟨hms, hmw, hmend⟩ := hall m hm
        exact ⟨hms, hmw.trans hw, hmend⟩

theorem remaining_ofRoot (t : Node) : (ofRoot t).remaining = t.positions := by
  rw [remaining_of_not_atEnd rfl]
  simp [ofRoot, path, later]

/-- **Advancing visits what follows, in document order, and then ends.** Edits made on the way here
count: the positions are those of the tree as edited so far. -/
theorem walk_in_document_order (t : Node) :
    (∀ steps l, (ofRoot t).run? steps = some l → l.atEnd = false →
      ∃ ps, l.root.InDocumentOrder (l.path < ·) ps ∧ l.next.Visits l.root ps) ∧
    t.InDocumentOrder (fun _ => True) (t.locations.map path) ∧
    (ofRoot t).Visits t (t.locations.map path) ∧
    ∀ l ∈ t.locations, l.root = t ∧ t.at? l.path = some l.node := by
  have hroot := sound_ofRoot t
  have hlocations : t.locations.map path = t.positions := by
    rw [Node.locations, hroot.following.1, remaining_ofRoot]
  refine ⟨?_, ?_, ?_, ?_⟩
  · intro steps l hrun hend
    have hl := sound_of_run hrun
    obtain ⟨hs, hw, hrem⟩ := hl.next
    refine ⟨l.root.positionsAfter l.path, Node.inDocumentOrder_positionsAfter _ _, ?_⟩
    have hvisits := hs.visits
    rwa [hrem, hl.remaining_eq hend, List.tail_cons, hw, ← hl.root_eq] at hvisits
  · rw [hlocations]
    exact Node.inDocumentOrder_positions t
  · rw [hlocations, ← remaining_ofRoot t]
    exact hroot.visits
  · intro l hl
    obtain ⟨hs, hw, -⟩ := hroot.following.2 l hl
    have hnode := hs.at?_path
    rw [hw] at hnode
    exact ⟨hs.root_eq.trans hw, hnode⟩

/-- A list of which the first item was edited before the second was reached. -/
theorem walk_in_document_order_after_edit :
    ∃ l, (ofRoot (.element "ul" none [.text "a", .element "li" none [.text "b"], .text "c"])).run?
        [.down, .replace (.text "x"), .right] = some l ∧ l.atEnd = false ∧
      ∃ ps, l.root.InDocumentOrder (l.path < ·) ps ∧ l.next.Visits l.root ps := by
  refine ⟨_, rfl, rfl, ?_⟩
  exact (walk_in_document_order
    (.element "ul" none [.text "a", .element "li" none [.text "b"], .text "c"])).1
    [.down, .replace (.text "x"), .right] _ rfl rfl

end Location
end MarkupQuery
