import MarkupQuery.Proofs.Markup.Shape
import MarkupQuery.Proofs.Tree.Locations

/-!
# The nodes above a node

A node of a parse tree together with the nodes above it, nearest first, is its lineage. Conversion
changes the nodes of a lineage one by one: the positions of the converted tree have, in document
order, the converted lineages of the parse tree (`ParseTree.lineages_toNode`).
-/

namespace MarkupQuery

namespace Node

/-- The nodes on the way along a path, nearest to its end first, without the node at the end. -/
def nodesAlong : Node → List Nat → List Node
  | _, [] => []
  | n, i :: is => ((n.children[i]?.map (·.nodesAlong is)).getD []) ++ [n]

theorem nodesAlong_cons {n c : Node} {i : Nat} (h : n.children[i]? = some c) (is : List Nat) :
    n.nodesAlong (i :: is) = c.nodesAlong is ++ [n] := by
  rw [nodesAlong, h]
  rfl

/-- The last node on the way is the one that the path leads to without its last step. -/
theorem nodesAlong_concat {t n : Node} {p : List Nat} (h : t.at? p = some n) (i : Nat) :
    t.nodesAlong (p ++ [i]) = n :: t.nodesAlong p := by
  induction p generalizing t with
  | nil =>
    obtain rfl : t = n := by simpa using h
    cases h : t.children[i]? <;> simp [nodesAlong, h]
  | cons j is ih =>
    rw [at?_cons, Option.bind_eq_some_iff] at h
    obtain ⟨c, hc, h⟩ := h
    rw [List.cons_append, nodesAlong_cons hc, ih h, nodesAlong_cons hc, List.cons_append]

end Node

namespace Location

/-- The node at a position and the nodes above it, nearest first. -/
def lineage (l : Location) : Node × List Node := (l.node, l.ancestors.map node)

theorem ancestors_nodes_eq {t : Node} {l : Location} (hl : l ∈ t.locations) :
    l.ancestors.map node = t.nodesAlong l.path := by
  fun_induction ancestors l with
  | case1 l h =>
    rw [path_eq, up?_eq_none_iff.mp h, pathOf_nil, Node.nodesAlong]
    rfl
  | case2 l p h ih =>
    obtain ⟨hp, i, hpath⟩ := mem_locations_of_up? hl h
    rw [List.map_cons, ih hp, hpath, Node.nodesAlong_concat (at?_of_mem_locations hp)]

end Location

namespace Markup.ParseTree

mutual
/-- The lineages of a node and of the nodes inside it, in document order, given the nodes above. -/
def lineages (above : List ParseTree) : ParseTree → List (ParseTree × List ParseTree)
  | .document cs => (.document cs, above) :: lineagesAmong (.document cs :: above) cs
  | .tag name p attributes cs =>
    (.tag name p attributes cs, above) :: lineagesAmong (.tag name p attributes cs :: above) cs
  | .string kind s => [(.string kind s, above)]

/-- The lineages of siblings and of the nodes inside them. -/
def lineagesAmong (above : List ParseTree) : List ParseTree → List (ParseTree × List ParseTree)
  | [] => []
  | t :: ts => t.lineages above ++ lineagesAmong above ts
end

theorem lineages_eq (above : List ParseTree) (t : ParseTree) :
    t.lineages above = (t, above) :: lineagesAmong (t :: above) t.contents := by
  cases t <;> simp [lineages, contents, lineagesAmong]

/-- A converted lineage. -/
def lineageToNode (x : ParseTree × List ParseTree) : Node × List Node := (x.1.toNode, x.2.map toNode)

mutual
theorem lineages_eq_listing (above : List ParseTree) (t : ParseTree) :
    (t.lineages above).map lineageToNode = t.listing.map fun e =>
      (e.2.toNode, t.toNode.nodesAlong e.1 ++ above.map toNode) := by
  have hhead : lineageToNode (t, above) = (t.toNode, t.toNode.nodesAlong [] ++ above.map toNode) := by
    rw [Node.nodesAlong, List.nil_append, lineageToNode]
  rw [lineages_eq, listing_eq, List.map_cons, List.map_cons, hhead]
  cases t with
  | document cs => rw [contents, lineagesAmong_eq_listing above (.document cs) 0 cs fun j => by simp [contents]]
  | tag name p attributes cs =>
    rw [contents, lineagesAmong_eq_listing above (.tag name p attributes cs) 0 cs fun j => by simp [contents]]
  | string kind s => rfl

theorem lineagesAmong_eq_listing (above : List ParseTree) (parent : ParseTree) (k : Nat) :
    ∀ ts : List ParseTree, (∀ j, ts[j]? = parent.contents[k + j]?) →
    (lineagesAmong (parent :: above) ts).map lineageToNode = (listingFrom k ts).map fun e =>
      (e.2.toNode, parent.toNode.nodesAlong e.1 ++ above.map toNode)
  | [], _ => rfl
  | t :: ts, h => by
    have hhere : parent.toNode.children[k]? = some t.toNode := by
      rw [children_toNode, List.getElem?_map, ← Nat.add_zero k, ← h 0]
      rfl
    have hrest (j : Nat) : ts[j]? = parent.contents[k + 1 + j]? := by
      rw [Nat.add_assoc, Nat.add_comm 1, ← h (j + 1)]
      rfl
    rw [lineagesAmong, listingFrom, List.map_append, List.map_append, List.map_map,
      lineages_eq_listing (parent :: above) t, lineagesAmong_eq_listing above parent (k + 1) ts hrest]
    simp [Function.comp_def, Node.nodesAlong_cons hhere]
end

/-- **The positions of a converted tree have the converted lineages**, in the same order. -/
theorem lineages_toNode (t : ParseTree) :
    t.toNode.locations.map Location.lineage = (t.lineages []).map lineageToNode := by
  have hnodes : t.toNode.locations.map Location.lineage =
      t.toNode.locations.map fun l => (l.node, t.toNode.nodesAlong l.path) :=
    List.map_congr_left fun l hl => by rw [Location.lineage, Location.ancestors_nodes_eq hl]
  rw [hnodes, lineages_eq_listing, map_eq_map_iff_forall₂]
  refine t.locations_toNode.imp fun l e h => ?_
  rw [h.1, h.2, List.map_nil, List.append_nil]

/-! ## Who is in a lineage -/

mutual
theorem map_fst_lineages (above : List ParseTree) (t : ParseTree) :
    (t.lineages above).map Prod.fst = t.listing.map Prod.snd := by
  rw [lineages_eq, listing_eq, List.map_cons, List.map_cons]
  cases t with
  | document cs => rw [contents, map_fst_lineagesAmong _ 0 cs]
  | tag name p attributes cs => rw [contents, map_fst_lineagesAmong _ 0 cs]
  | string kind s => rfl

theorem map_fst_lineagesAmong (above : List ParseTree) (k : Nat) : ∀ ts : List ParseTree,
    (lineagesAmong above ts).map Prod.fst = (listingFrom k ts).map Prod.snd
  | [] => rfl
  | t :: ts => by
    rw [lineagesAmong, listingFrom, List.map_append, List.map_append, List.map_map,
      map_fst_lineages above t, map_fst_lineagesAmong above (k + 1) ts]
    rfl
end

mutual
/-- What holds of the nodes above and of all nodes of a tree holds throughout its lineages. -/
theorem forall_lineages {P : ParseTree → Prop} {above : List ParseTree} (habove : ∀ u ∈ above, P u)
    (t : ParseTree) (ht : ∀ e ∈ t.listing, P e.2) :
    ∀ x ∈ t.lineages above, P x.1 ∧ ∀ u ∈ x.2, P u := by
  rw [listing_eq, List.forall_mem_cons] at ht
  obtain ⟨hhere, hinside⟩ := ht
  have hnext : ∀ u ∈ t :: above, P u := List.forall_mem_cons.mpr ⟨hhere, habove⟩
  rw [lineages_eq, List.forall_mem_cons]
  refine ⟨⟨hhere, habove⟩, ?_⟩
  cases t with
  | document cs => exact forall_lineagesAmong hnext 0 cs hinside
  | tag name p attributes cs => exact forall_lineagesAmong hnext 0 cs hinside
  | string kind s => simp [contents, lineagesAmong]

theorem forall_lineagesAmong {P : ParseTree → Prop} {above : List ParseTree}
    (habove : ∀ u ∈ above, P u) (k : Nat) : ∀ ts : List ParseTree,
    (∀ e ∈ listingFrom k ts, P e.2) → ∀ x ∈ lineagesAmong above ts, P x.1 ∧ ∀ u ∈ x.2, P u
  | [], _ => by simp [lineagesAmong]
  | t :: ts, h => by
    rw [listingFrom, List.forall_mem_append, List.forall_mem_map] at h
    rw [lineagesAmong, List.forall_mem_append]
    exact ⟨forall_lineages habove t h.1, forall_lineagesAmong habove (k + 1) ts h.2⟩
end

end Markup.ParseTree
end MarkupQuery
