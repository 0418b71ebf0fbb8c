import MarkupQuery.Proofs.Tree.Ancestor
import MarkupQuery.Proofs.Tree.DocumentOrder

/-!
# Marks of edits

An edit marks the location as changed. A step down leaves the mark with the parent and starts without
one, a step to the side carries it along, and a step up joins it to the parent's. So a location below
or beside an edit need not be marked itself, and what a run has done is told by all the marks on the
way back to the root (`Location.marks`): a move keeps it that there is one among them, an edit makes
it so, and there is none at the start. A location that has nothing above it, at the root or at the end
of a walk, has no mark but its own, and there the edits are seen.

Main statement: `Location.marks_record_edits`.
-/

namespace MarkupQuery
namespace Location

variable {l m p : Location}

/-- The marks at a location and at the parents above it, nearest first. -/
def marks (l : Location) : List Bool := l.changed :: l.trail.map Crumb.parentChanged

/-- Something on the way back to the root is marked as changed. -/
def Marked (l : Location) : Prop := true ∈ l.marks

theorem not_marked_ofRoot (t : Node) : ¬ (ofRoot t).Marked := by
  simp [Marked, marks, ofRoot]

theorem changed_eq_false_of_not_marked (h : ¬ l.Marked) : l.changed = false := by
  by_contra hchanged
  rw [Bool.not_eq_false] at hchanged
  rw [Marked, marks, hchanged] at h
  exact h List.mem_cons_self

/-- Where nothing is above, the mark is the location's own. -/
theorem changed_iff_marked (h : l.trail = []) : l.changed = true ↔ l.Marked := by
  rw [Marked, marks, h, List.map_nil, List.mem_singleton, eq_comm]

/-! ## What a step does to the marks -/

theorem marks_down (h : l.down? = some m) : m.marks = false :: l.marks := by
  unfold down? at h
  split at h
  · simp at h
  · obtain rfl := Option.some.inj h
    rfl

/-- Among the same siblings the parent's mark is the same, and the location's own is carried along. -/
theorem marks_beside {c d : Crumb} {trail : List Crumb} (ht : l.trail = c :: trail)
    (hd : d.parentChanged = c.parentChanged) (n : Node) :
    marks ⟨n, d :: trail, l.changed, false⟩ = l.marks := by
  rw [marks, marks, ht, List.map_cons, List.map_cons, hd]

theorem marks_right (h : l.right? = some m) : m.marks = l.marks := by
  unfold right? at h
  split at h
  · simp at h
  · next c trail ht =>
    split at h
    · simp at h
    · next n ns hn =>
      obtain rfl := Option.some.inj h
      exact marks_beside ht (by rfl) n

theorem marks_left (h : l.left? = some m) : m.marks = l.marks := by
  unfold left? at h
  split at h
  · simp at h
  · next c trail ht =>
    split at h
    · simp at h
    · next n ns hn =>
      obtain rfl := Option.some.inj h
      exact marks_beside ht (by rfl) n

/-- Going up, the location's mark and the parent's become one. -/
theorem marks_up (h : l.up? = some p) :
    ∃ mark above, l.marks = l.changed :: mark :: above ∧ p.marks = (l.changed || mark) :: above := by
  unfold up? at h
  split at h
  · simp at h
  · next c trail ht =>
    refine ⟨c.parentChanged, trail.map Crumb.parentChanged, by rw [marks, ht, List.map_cons], ?_⟩
    split at h
    · next hchanged =>
      obtain rfl := Option.some.inj h
      rw [hchanged, Bool.true_or, marks]
    · next hchanged =>
      obtain rfl := Option.some.inj h
      rw [Bool.not_eq_true] at hchanged
      rw [hchanged, Bool.false_or, marks]

/-! ## Whether there is a mark -/

theorem marked_down (h : l.down? = some m) : m.Marked ↔ l.Marked := by
  simp [Marked, marks_down h]

theorem marked_right (h : l.right? = some m) : m.Marked ↔ l.Marked := by
  rw [Marked, Marked, marks_right h]

theorem marked_left (h : l.left? = some m) : m.Marked ↔ l.Marked := by
  rw [Marked, Marked, marks_left h]

theorem marked_up (h : l.up? = some p) : p.Marked ↔ l.Marked := by
  obtain ⟨mark, above, hl, hp⟩ := marks_up h
  rw [Marked, Marked, hl, hp]
  simp [or_assoc]

theorem marked_climb (l : Location) : l.climb.Marked ↔ l.Marked := by
  fun_induction climb l with
  | case1 l h =>
    -- the end location keeps the mark of the root
    rw [← changed_iff_marked (up?_eq_none_iff.mp h), ← changed_iff_marked rfl]
  | case2 l p hp r hr => rw [marked_right hr, marked_up hp]
  | case3 l p hp hr ih => rw [ih, marked_up hp]

theorem marked_next (l : Location) : l.next.Marked ↔ l.Marked := by
  unfold next
  split
  · rfl
  · split
    · next d hd => exact marked_down hd
    · split
      · next r hr => exact marked_right hr
      · exact marked_climb l

theorem marked_replace (l : Location) (n : Node) : (l.replace n).Marked := List.mem_cons_self

/-- A step leaves a mark where there was one or where it is an edit. -/
theorem marked_step {s : Step} (h : l.step? s = some m) : m.Marked ↔ l.Marked ∨ ¬ s.IsMove := by
  have hmove (hkeep : m.Marked ↔ l.Marked) (hs : s.IsMove) :
      m.Marked ↔ l.Marked ∨ ¬ s.IsMove := by
    rw [hkeep, or_iff_left (not_not_intro hs)]
  cases s with
  | down => exact hmove (marked_down h) trivial
  | right => exact hmove (marked_right h) trivial
  | left => exact hmove (marked_left h) trivial
  | up => exact hmove (marked_up h) trivial
  | next =>
    obtain rfl := Option.some.inj h
    exact hmove (marked_next l) trivial
  | replace n =>
    obtain rfl := Option.some.inj h
    exact iff_of_true (marked_replace l n) (Or.inr id)
  | edit f =>
    obtain rfl := Option.some.inj h
    exact iff_of_true (marked_replace l _) (Or.inr id)

/-- A run leaves a mark where there was one or where it has made an edit. -/
theorem marked_run {steps : List Step} (h : l.run? steps = some m) :
    m.Marked ↔ l.Marked ∨ ∃ s ∈ steps, ¬ s.IsMove := by
  induction steps generalizing l with
  | nil =>
    obtain rfl := Option.some.inj h
    simp
  | cons s steps ih =>
    rw [run?_cons, Option.bind_eq_some_iff] at h
    obtain ⟨k, hk, h⟩ := h
    rw [ih h, marked_step hk, List.exists_mem_cons_iff, or_assoc]

theorem marked_iterate_next (l : Location) (k : Nat) : (next^[k] l).Marked ↔ l.Marked := by
  induction k with
  | zero => rfl
  | succ k ih => rw [Function.iterate_succ_apply', marked_next, ih]

theorem marked_strictAncestor {a : Location} (h : StrictAncestor a l) : a.Marked ↔ l.Marked := by
  induction h with
  | single h => exact marked_up h
  | tail _ h ih => rw [marked_up h, ih]

theorem changed_top (l : Location) : l.top.changed = true ↔ l.Marked := by
  obtain ⟨ha, hroot⟩ := eq_top_iff.mp (rfl : l.top = l.top)
  rw [changed_iff_marked (up?_eq_none_iff.mp (isRoot_iff.mp hroot))]
  rcases ha with heq | ha
  · rw [heq]
  · exact marked_strictAncestor ha

/-! ## The record of a run -/

/-- **No mark is lost and none is made up.** Wherever a run of moves and edits has led, going up ends at
one root location, and this is marked as changed exactly when the run has made an edit. Advancing ends
at an end location, and this has the mark of the root location. A run without edits comes by no mark,
neither where it stands nor above, and all along it the tree is the one that it started in. -/
theorem marks_record_edits {t : Node} {steps : List Step} (hrun : (ofRoot t).run? steps = some l) :
    (∀ r, r = l.top ↔ (r = l ∨ StrictAncestor r l) ∧ r.isRoot = true) ∧
    (l.top.changed = true ↔ ∃ s ∈ steps, ¬ s.IsMove) ∧
    (∃ k, (next^[k] l).atEnd = true) ∧
    (∀ k, (next^[k] l).atEnd = true → (next^[k] l).changed = l.top.changed) ∧
    ((∀ s ∈ steps, s.IsMove) → ∀ before, before <+: steps →
      ∃ m, (ofRoot t).run? before = some m ∧ m.changed = false ∧
        (∀ a, StrictAncestor a m → a.changed = false) ∧ m.root = t) := by
  have hl := sound_of_run hrun
  refine ⟨fun r => eq_top_iff, ?_, ⟨_, (hl.visits.finish _ le_rfl).1⟩, ?_, ?_⟩
  · rw [changed_top, marked_run hrun, or_iff_right (not_marked_ofRoot t)]
  · intro k hend
    have htrail := (hl.iterate_next k).1.trail_of_atEnd hend
    rw [Bool.eq_iff_iff, changed_iff_marked htrail, marked_iterate_next, changed_top]
  · rintro hmoves before ⟨after, rfl⟩
    rw [run?_append, Option.bind_eq_some_iff] at hrun
    obtain ⟨m, hm, -⟩ := hrun
    have hbefore : ∀ s ∈ before, s.IsMove := fun s hs => hmoves s (List.mem_append_left _ hs)
    have hclear : ¬ m.Marked := by
      rw [marked_run hm, or_iff_right (not_marked_ofRoot t)]
      rintro ⟨s, hs, hedit⟩
      exact hedit (hbefore s hs)
    refine ⟨m, hm, changed_eq_false_of_not_marked hclear, fun a ha => ?_, ?_⟩
    · exact changed_eq_false_of_not_marked fun hmarked => hclear ((marked_strictAncestor ha).mp hmarked)
    · rw [(sound_of_run hm).root_eq]
      exact (sound_ofRoot t).whole_of_moves hbefore hm

/-- The item after a replaced text, and then its own text: there the mark stands one parent further up,
from where the root and the end get it. The same way without the replacement meets no mark. -/
theorem marks_record_edits_below_next_item :
    ∃ l m, (ofRoot (.element "ul" none [.text "a", .element "li" none [.text "b"]])).run?
        [.down, .replace (.text "x"), .next, .down] = some l ∧ l.marks = [false, true, false] ∧
      l.top.changed = true ∧ (∃ k, (next^[k] l).atEnd = true ∧ (next^[k] l).changed = true) ∧
      (ofRoot (.element "ul" none [.text "a", .element "li" none [.text "b"]])).run?
        [.down, .next, .down] = some m ∧ m.changed = false ∧
      (∀ a, StrictAncestor a m → a.changed = false) ∧
      m.root = .element "ul" none [.text "a", .element "li" none [.text "b"]] := by
  let list : Node := .element "ul" none [.text "a", .element "li" none [.text "b"]]
  let item : Node := .element "li" none [.text "b"]
  let l : Location := ⟨.text "b", [⟨item, [], [], true⟩, ⟨list, [.text "x"], [], false⟩], false, false⟩
  let m : Location := ⟨.text "b", [⟨item, [], [], false⟩, ⟨list, [.text "a"], [], false⟩], false, false⟩
  have hl : (ofRoot list).run? [.down, .replace (.text "x"), .next, .down] = some l := rfl
  have hm : (ofRoot list).run? [.down, .next, .down] = some m := rfl
  obtain ⟨-, htop, ⟨k, hend⟩, hsame, -⟩ := marks_record_edits hl
  have hchanged : l.top.changed = true := htop.mpr ⟨.replace (.text "x"), by simp, id⟩
  obtain ⟨-, -, -, -, hclear⟩ := marks_record_edits hm
  have hmoves : ∀ s ∈ [Step.down, .next, .down], s.IsMove := by simp [Step.IsMove]
  obtain ⟨m', hm', hmarks⟩ := hclear hmoves _ (List.prefix_refl _)
  obtain rfl : m = m' := Option.some.inj (hm.symm.trans hm')
  exact ⟨l, m, hl, rfl, hchanged, ⟨k, hend, (hsame k hend).trans hchanged⟩, hm, hmarks⟩

end Location
end MarkupQuery
