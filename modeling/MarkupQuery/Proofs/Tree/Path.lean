import MarkupQuery.Tree.Node

/-!
# Positions of a tree

A position is named by the child indices on the way from the root. This file says what stands at a
position, what the tree becomes when another subtree is put there, and in which order the positions
of a tree are listed.

* `mem_positions` — the listing has every position, and nothing else
* `positions_sorted` — it is in lexicographic order: parents before children, children left to right

Lexicographic order leaves no room for repetition, so both facts together determine the listing.
-/

namespace MarkupQuery
namespace Node

/-! ## Branches -/

@[simp] theorem children_refill {n : Node} (h : n.isBranch = true) (cs : List Node) :
    (n.refill cs).children = cs := by
  cases n <;> first | rfl | simp [isBranch] at h

@[simp] theorem refill_children (n : Node) : n.refill n.children = n := by
  cases n <;> rfl

theorem refill_refill (n : Node) (cs ds : List Node) : (n.refill cs).refill ds = n.refill ds := by
  cases n <;> rfl

theorem isBranch_of_children {n : Node} (h : n.children ≠ []) : n.isBranch = true := by
  cases n <;> first | rfl | exact absurd rfl h

/-! ## The subtree at a position -/

/-- The subtree at the end of a path of child indices. -/
def at? : Node → List Nat → Option Node
  | n, [] => some n
  | n, i :: is => n.children[i]?.bind (·.at? is)

/-- The tree with another subtree at the end of a path. A path that leads nowhere changes nothing. -/
def replaceAt : Node → List Nat → Node → Node
  | _, [], m => m
  | n, i :: is, m => n.refill (n.children.modify i (·.replaceAt is m))

@[simp] theorem at?_nil (n : Node) : n.at? [] = some n := by rw [at?]

@[simp] theorem at?_cons (n : Node) (i : Nat) (is : List Nat) :
    n.at? (i :: is) = n.children[i]?.bind (·.at? is) := by rw [at?]

@[simp] theorem replaceAt_nil (n m : Node) : n.replaceAt [] m = m := by rw [replaceAt]

@[simp] theorem replaceAt_cons (n : Node) (i : Nat) (is : List Nat) (m : Node) :
    n.replaceAt (i :: is) m = n.refill (n.children.modify i (·.replaceAt is m)) := by
  rw [replaceAt]

/-! ## The listing of all positions -/

mutual
/-- The paths to the nodes of a tree: the root, then each child's subtree in turn. -/
def positions : Node → List (List Nat)
  | .document cs => [] :: positionsFrom 0 cs
  | .element _ _ cs => [] :: positionsFrom 0 cs
  | _ => [[]]

/-- The paths into siblings, the first of which has the given index. -/
def positionsFrom (i : Nat) : List Node → List (List Nat)
  | [] => []
  | n :: ns => n.positions.map (i :: ·) ++ positionsFrom (i + 1) ns
end

theorem positions_eq (n : Node) : n.positions = [] :: positionsFrom 0 n.children := by
  cases n <;> simp [positions, children, positionsFrom]

theorem positionsFrom_append (i : Nat) (ns ms : List Node) :
    positionsFrom i (ns ++ ms) = positionsFrom i ns ++ positionsFrom (i + ns.length) ms := by
  induction ns generalizing i with
  | nil => simp [positionsFrom]
  | cons n ns ih =>
    simp only [List.cons_append, positionsFrom, ih, List.length_cons, List.append_assoc]
    rw [Nat.add_right_comm i 1, Nat.add_assoc i]

/-- The paths into siblings lead through one of them. -/
theorem mem_positionsFrom {k : Nat} {ns : List Node} {p : List Nat} :
    p ∈ positionsFrom k ns ↔ ∃ i n q, ns[i]? = some n ∧ q ∈ n.positions ∧ p = (k + i) :: q := by
  induction ns generalizing k with
  | nil => simp [positionsFrom]
  | cons n ns ih =>
    rw [positionsFrom, List.mem_append, List.mem_map, ih]
    -- the first sibling has the index that the others count from
    constructor
    · rintro (⟨q, hq, rfl⟩ | ⟨i, m, q, hm, hq, rfl⟩)
      · exact ⟨0, n, q, rfl, hq, rfl⟩
      · exact ⟨i + 1, m, q, by simpa using hm, hq, by rw [Nat.add_assoc, Nat.add_comm 1]⟩
    · rintro ⟨i, m, q, hm, hq, rfl⟩
      cases i with
      | zero =>
        obtain rfl : n = m := by simpa using hm
        exact Or.inl ⟨q, hq, rfl⟩
      | succ i =>
        exact Or.inr ⟨i, m, q, by simpa using hm, hq, by rw [Nat.add_assoc, Nat.add_comm 1]⟩

/-- The listing holds exactly the paths at which there is a subtree. -/
theorem mem_positions (n : Node) (p : List Nat) : p ∈ n.positions ↔ (n.at? p).isSome := by
  induction p generalizing n with
  | nil => simp [positions_eq]
  | cons i is ih =>
    rw [positions_eq, List.mem_cons, mem_positionsFrom, at?_cons]
    constructor
    · rintro (h | ⟨j, c, q, hc, hq, h⟩)
      · exact absurd h (List.cons_ne_nil _ _)
      · obtain ⟨rfl, rfl⟩ : i = j ∧ is = q := by simpa using h
        rw [hc]
        exact (ih c).mp hq
    · intro h
      cases hc : n.children[i]? with
      | none => simp [hc] at h
      | some c =>
        rw [hc] at h
        exact Or.inr ⟨i, c, is, hc, (ih c).mpr h, by simp⟩

theorem pairwise_nil_cons {ps : List (List Nat)} (h : ps.Pairwise (· < ·)) (hne : [] ∉ ps) :
    ([] :: ps).Pairwise (· < ·) := by
  refine List.pairwise_cons.mpr ⟨fun p hp => ?_, h⟩
  cases p with
  | nil => exact absurd hp hne
  | cons i is => exact List.nil_lt_cons i is

theorem nil_notMem_positionsFrom (k : Nat) (ns : List Node) : [] ∉ positionsFrom k ns := by
  intro h
  obtain ⟨i, n, q, -, -, h⟩ := mem_positionsFrom.mp h
  exact absurd h.symm (List.cons_ne_nil _ _)

mutual
/-- The listing is in lexicographic order. -/
theorem positions_sorted : ∀ n : Node, n.positions.Pairwise (· < ·)
  | .document cs => pairwise_nil_cons (positionsFrom_sorted 0 cs) (nil_notMem_positionsFrom 0 cs)
  | .element _ _ cs => pairwise_nil_cons (positionsFrom_sorted 0 cs) (nil_notMem_positionsFrom 0 cs)
  | .doctype _ => List.pairwise_singleton _ _
  | .comment _ => List.pairwise_singleton _ _
  | .text _ => List.pairwise_singleton _ _

theorem positionsFrom_sorted : ∀ (k : Nat) (ns : List Node),
    (positionsFrom k ns).Pairwise (· < ·)
  | _, [] => List.Pairwise.nil
  | k, n :: ns => by
    rw [positionsFrom, List.pairwise_append, List.pairwise_map]
    refine ⟨(positions_sorted n).imp fun h => List.cons_lt_cons_iff.mpr (Or.inr ⟨rfl, h⟩),
      positionsFrom_sorted (k + 1) ns, ?_⟩
    -- paths into different siblings differ in their first index already
    intro p hp q hq
    obtain ⟨p, -, rfl⟩ := List.mem_map.mp hp
    obtain ⟨i, -, q, -, -, rfl⟩ := mem_positionsFrom.mp hq
    exact List.cons_lt_cons_iff.mpr (Or.inl (by omega))
end

example : (element "ul" none [.text "a", .element "li" none [.text "b"], .text "c"]).positions
    = [[], [0], [1], [1, 0], [2]] := rfl

end Node
end MarkupQuery
