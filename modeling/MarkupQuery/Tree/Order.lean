import MarkupQuery.Tree.Location

/-!
# Document order

The walk through a tree in document order, as the list of its locations. It ends because each step
leaves fewer nodes ahead: those below the position and those to the right of it and of its
ancestors.
-/

namespace MarkupQuery
namespace Location

/-- The number of nodes to the right of the way back to the root. -/
def pending (trail : List Crumb) : Nat := trail.foldr (fun c n => Node.countAll c.after + n) 0

/-- The number of nodes from a position on, itself included; none at the end. -/
def ahead (l : Location) : Nat := if l.atEnd then 0 else l.node.count + pending l.trail

theorem right?_ahead {l s : Location} (h : l.right? = some s) :
    s.ahead < l.node.count + pending l.trail ∧ s.ahead ≤ pending l.trail := by
  unfold right? at h
  split at h
  · simp at h
  · rename_i crumb trail hd
    split at h
    · simp at h
    · rename_i n ns ha
      simp at h
      subst h
      have := l.node.count_pos
      simp [ahead, pending, hd, ha, Node.countAll]
      omega

theorem up?_pending {l p : Location} (h : l.up? = some p) : pending p.trail ≤ pending l.trail := by
  unfold up? at h
  split at h
  · simp at h
  · rename_i hd
    split at h <;> simp at h <;> simp [← h, hd, pending]

theorem climb_ahead (l : Location) : l.climb.ahead ≤ pending l.trail := by
  fun_induction climb l with
  | case1 l _ => simp [ahead]
  | case2 l p hp s hs => exact Nat.le_trans (right?_ahead hs).2 (up?_pending hp)
  | case3 l p hp _ ih => exact Nat.le_trans ih (up?_pending hp)

theorem down?_ahead {l c : Location} (h : l.down? = some c) :
    c.ahead < l.node.count + pending l.trail := by
  unfold down? at h
  split at h
  · simp at h
  · rename_i n ns hd
    simp at h
    subst h
    have := l.node.count_eq_children
    simp [ahead, pending, hd, Node.countAll] at *
    omega

/-- A step from anywhere but the end leaves fewer nodes ahead. -/
theorem next_ahead {l : Location} (h : l.atEnd = false) : l.next.ahead < l.ahead := by
  have hl : l.ahead = l.node.count + pending l.trail := by simp [ahead, h]
  have := l.node.count_pos
  rw [hl]
  unfold next
  simp only [h, Bool.false_eq_true, if_false]
  split
  · rename_i c hc; exact down?_ahead hc
  · split
    · rename_i s hs; exact (right?_ahead hs).1
    · have := l.climb_ahead; omega

/-- A location and all that follow it in document order. -/
def following (l : Location) : List Location :=
  if _h : l.atEnd then [] else l :: l.next.following
termination_by l.ahead
decreasing_by exact next_ahead (by simpa using _h)

end Location

/-- Every location of a tree in document order. -/
def Node.locations (n : Node) : List Location := (Location.ofRoot n).following

end MarkupQuery
