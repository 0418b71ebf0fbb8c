import MarkupQuery.Markup.Parsing
import MarkupQuery.Proofs.Extraction.CharacterData
import MarkupQuery.Proofs.Markup.Shape

/-!
# Fragments without their skeleton

A parser may put a skeleton around a fragment: the document, a tag named `html` directly in it, and
in that one tags named `head` and `body`. `ParseTree.inSkeleton` says which paths of a parse tree lead
to the skeleton. A fragment is the whole tree without these nodes: all others are there, each of them
once, in their order and with everything that is below them.

The nodes of a tree in document order are compared, before and after. Siblings are gone through from
left to right. Those in front of the root of the skeleton and those behind it stay as they are; of
the root only what is in it remains, and of a section in it likewise.

Main statement: `ParseTree.fragment_is_document_without_skeleton`.
-/

namespace MarkupQuery.Markup
namespace ParseTree

/-! ## The skeleton -/

/-- The index of the first tag named `html` directly in a document. -/
def rootIndex? (t : ParseTree) : Option Nat := t.contents.findIdx? (·.isTagNamed "html")

/-- Whether a path leads to the skeleton of a document: to the document, to the first tag named
`html` directly in it, or to a tag named `head` or `body` directly in that one. The names are those
that the parser gave. -/
def inSkeleton (t : ParseTree) : List Nat → Bool
  | [] => true
  | [i] => t.rootIndex? == some i
  | [i, j] => t.rootIndex? == some i &&
    (t.contents[i]?.bind (·.contents[j]?)).any fun u => u.isTagNamed "head" || u.isTagNamed "body"
  | _ => false

/-! ## Nodes in document order -/

/-- The nodes of a parse tree in document order. -/
def nodes (t : ParseTree) : List ParseTree := t.listing.map Prod.snd

theorem map_snd_listingFrom (k : Nat) (ts : List ParseTree) :
    (listingFrom k ts).map Prod.snd = ts.flatMap nodes := by
  induction ts generalizing k with
  | nil => rfl
  | cons t ts ih =>
    rw [listingFrom, List.map_append, ih, List.map_map, List.flatMap_cons]
    rfl

theorem nodes_eq (t : ParseTree) : t.nodes = t :: t.contents.flatMap nodes := by
  rw [nodes, listing_eq, List.map_cons, map_snd_listingFrom]

theorem map_node_locations (t : ParseTree) :
    t.toNode.locations.map Location.node = t.nodes.map toNode := by
  rw [nodes, List.map_map, map_eq_map_iff_forall₂]
  exact t.locations_toNode.imp fun _ _ h => h.2

/-- Conversion keeps the paths. -/
theorem map_path_node_locations (t : ParseTree) :
    t.toNode.locations.map (fun l => (l.path, l.node)) = t.listing.map fun e => (e.1, e.2.toNode) :=
  map_eq_map_iff_forall₂.mpr (t.locations_toNode.imp fun _ _ h => Prod.ext h.1 h.2)

/-- Nodes may be left out by their path before conversion or after it. -/
theorem map_node_filter_locations (t : ParseTree) (test : List Nat → Bool) :
    (t.toNode.locations.filter fun l => test l.path).map Location.node
      = ((t.listing.filter fun e => test e.1).map Prod.snd).map toNode := by
  have hfiltered := congrArg (fun ps => (ps.filter fun p => test p.1).map Prod.snd)
    t.map_path_node_locations
  simpa only [List.filter_map, List.map_map, Function.comp_def] using hfiltered

/-! ## Leaving the skeleton out -/

/-- Whether a node with its path is part of the skeleton, when the root of that has a given index. -/
def isFrame (root : Option Nat) (e : List Nat × ParseTree) : Bool :=
  match e.1 with
  | [] => true
  | [i] => root == some i
  | [i, _] => root == some i && e.2.isSection
  | _ => false

theorem isFrame_of_ne {root : Option Nat} {i : Nat} (h : root ≠ some i) (q : List Nat)
    (u : ParseTree) : isFrame root (i :: q, u) = false := by
  rcases q with _ | ⟨j, _ | ⟨k, q⟩⟩ <;> simp [isFrame, h]

theorem inSkeleton_eq_isFrame {t : ParseTree} {e : List Nat × ParseTree} (he : e ∈ t.listing) :
    t.inSkeleton e.1 = isFrame t.rootIndex? e := by
  obtain ⟨p, u⟩ := e
  rcases p with _ | ⟨i, _ | ⟨j, _ | ⟨k, q⟩⟩⟩
  · rfl
  · rfl
  · obtain ⟨root, hroot, hmem⟩ := exists_of_cons_mem_listing he
    obtain ⟨v, hv, hmem⟩ := exists_of_cons_mem_listing hmem
    obtain rfl : u = v := eq_of_nil_mem_listing hmem
    simp only [inSkeleton, isFrame, hroot, Option.bind_some, hv, Option.any_some, isSection]
  · rfl

theorem filter_map_cons (i : Nat) (es : List (List Nat × ParseTree))
    (test : List Nat × ParseTree → Bool) :
    ((es.map fun e => (i :: e.1, e.2)).filter test).map Prod.snd
      = (es.filter fun e => test (i :: e.1, e.2)).map Prod.snd := by
  rw [List.filter_map, List.map_map]
  rfl

/-- Nodes of siblings that are not the root stay. -/
theorem filter_listingFrom_of_ne {root : Option Nat} {k : Nat} {ts : List ParseTree}
    (h : ∀ i, root = some i → i < k) :
    (listingFrom k ts).filter (fun e => !isFrame root e) = listingFrom k ts := by
  rw [List.filter_eq_self]
  rintro ⟨p, u⟩ hp
  obtain ⟨i, t, q, -, -, rfl⟩ := exists_of_mem_listingFrom hp
  have hne : root ≠ some (k + i) := by
    intro heq
    have hlt := h _ heq
    omega
  rw [isFrame_of_ne hne]
  rfl

/-- Of the contents of the root the sections go, and what is in them remains. -/
theorem filter_sections (k : Nat) (ts : List ParseTree) :
    ((listingFrom k ts).filter fun e => !(e.1.length == 1 && e.2.isSection)).map Prod.snd
      = (dissolveSections ts).flatMap nodes := by
  induction ts generalizing k with
  | nil => rfl
  | cons t ts ih =>
    have hinside : ((listingFrom 0 t.contents).filter fun e =>
        !((k :: e.1).length == 1 && e.2.isSection)) = listingFrom 0 t.contents := by
      rw [List.filter_eq_self]
      rintro ⟨p, u⟩ hp
      obtain ⟨i, s, q, -, -, rfl⟩ := exists_of_mem_listingFrom hp
      simp
    have hdissolve : dissolveSections (t :: ts)
        = (if t.isSection then t.contents else [t]) ++ dissolveSections ts := by
      rw [dissolveSections, List.flatMap_cons]
      rfl
    rw [listingFrom, List.filter_append, List.map_append, ih (k + 1), filter_map_cons, listing_eq,
      hdissolve, List.flatMap_append]
    cases hsection : t.isSection with
    | true =>
      rw [List.filter_cons_of_neg (by simp [hsection]), hinside, map_snd_listingFrom, if_pos rfl]
    | false =>
      rw [List.filter_cons_of_pos (by simp [hsection]), hinside, List.map_cons,
        map_snd_listingFrom, ← nodes_eq, if_neg (by simp), List.flatMap_singleton]

/-- Among siblings the root goes, with the sections in it; all others stay. -/
theorem filter_root (k : Nat) (ts : List ParseTree) :
    ((listingFrom k ts).filter fun e =>
        !isFrame ((ts.findIdx? (·.isTagNamed "html")).map (k + ·)) e).map Prod.snd
      = (dissolveRoot ts).flatMap nodes := by
  induction ts generalizing k with
  | nil => rfl
  | cons t ts ih =>
    rw [List.findIdx?_cons, dissolveRoot, listingFrom, List.filter_append, List.map_append]
    cases hhtml : t.isTagNamed "html" with
    | true =>
      have hcontents : ((listingFrom 0 t.contents).filter fun e =>
          !isFrame (some k) (k :: e.1, e.2)).map Prod.snd
          = (dissolveSections t.contents).flatMap nodes := by
        rw [← filter_sections 0]
        refine congrArg (List.map Prod.snd) (List.filter_congr ?_)
        rintro ⟨p, u⟩ hp
        obtain ⟨i, s, q, -, -, rfl⟩ := exists_of_mem_listingFrom hp
        cases q <;> simp [isFrame]
      simp only [if_true, Option.map_some, Nat.add_zero]
      rw [filter_listingFrom_of_ne (by simp), map_snd_listingFrom, List.flatMap_append,
        filter_map_cons, listing_eq, List.filter_cons_of_neg (by simp [isFrame]), hcontents]
    | false =>
      have hroot : ((ts.findIdx? (·.isTagNamed "html")).map (· + 1)).map (k + ·)
          = (ts.findIdx? (·.isTagNamed "html")).map (k + 1 + ·) := by
        rw [Option.map_map]
        refine congrFun (congrArg Option.map (funext fun i => ?_)) _
        show k + (i + 1) = k + 1 + i
        omega
      have hhere : t.listing.filter (fun e =>
          !isFrame ((ts.findIdx? (·.isTagNamed "html")).map (k + 1 + ·)) (k :: e.1, e.2))
          = t.listing := by
        rw [List.filter_eq_self]
        rintro ⟨p, u⟩ -
        rw [isFrame_of_ne]
        · rfl
        · simp only [ne_eq, Option.map_eq_some_iff, not_exists, not_and]
          intro i _
          omega
      simp only [Bool.false_eq_true, if_false]
      rw [hroot, ih (k + 1), filter_map_cons, hhere, List.flatMap_cons]
      rfl

/-- The nodes outside the skeleton are the nodes of what the skeleton is dissolved into. -/
theorem filter_listing (t : ParseTree) :
    (t.listing.filter fun e => !t.inSkeleton e.1).map Prod.snd
      = (dissolveRoot t.contents).flatMap nodes := by
  have hframe : t.listing.filter (fun e => !t.inSkeleton e.1)
      = t.listing.filter fun e => !isFrame t.rootIndex? e :=
    List.filter_congr fun e he => by rw [inSkeleton_eq_isFrame he]
  have hroot := filter_root 0 t.contents
  simp only [Nat.zero_add, Option.map_id'] at hroot
  rw [hframe, listing_eq, List.filter_cons_of_neg (by simp [isFrame]), ← hroot]
  rfl

/-! ## Character data -/

theorem isBranch_of_isTagNamed {t : ParseTree} {name : String} (h : t.isTagNamed name = true) :
    t.toNode.isBranch = true := by
  cases t with
  | document cs => rfl
  | tag n p attributes cs => rfl
  | string kind s => simp [isTagNamed] at h

theorem isBranch_of_isSection {t : ParseTree} (h : t.isSection = true) :
    t.toNode.isBranch = true := by
  rcases Bool.or_eq_true_iff.mp h with h | h <;> exact isBranch_of_isTagNamed h

/-- The skeleton of a document consists of branches. -/
theorem isBranch_of_inSkeleton {cs : List ParseTree} {l : Location}
    (hl : l ∈ (document cs).toNode.locations)
    (h : (document cs).inSkeleton l.path = true) : l.node.isBranch = true := by
  have hmem := List.mem_map_of_mem (f := fun l => (l.path, l.node)) hl
  rw [map_path_node_locations] at hmem
  obtain ⟨⟨p, u⟩, he, heq⟩ := List.mem_map.mp hmem
  obtain ⟨hp, hu⟩ := Prod.mk.inj heq
  rw [← hp, inSkeleton_eq_isFrame he] at h
  rw [← hu]
  rcases p with _ | ⟨i, _ | ⟨j, _ | ⟨k, q⟩⟩⟩
  · rw [eq_of_nil_mem_listing he]
    rfl
  · obtain ⟨root, hroot, hmem⟩ := exists_of_cons_mem_listing he
    obtain rfl := eq_of_nil_mem_listing hmem
    have hindex : cs.findIdx? (·.isTagNamed "html") = some i := by
      simpa [isFrame, rootIndex?, contents] using h
    obtain ⟨hi, hhtml, -⟩ := List.findIdx?_eq_some_iff_getElem.mp hindex
    obtain rfl : cs[i] = u := by simpa [contents, hi] using hroot
    exact isBranch_of_isTagNamed hhtml
  · have hsection : u.isSection = true := (Bool.and_eq_true_iff.mp h).2
    exact isBranch_of_isSection hsection
  · simp [isFrame] at h

/-- The characters of trees are those of their nodes. -/
theorem join_textContent (ns : List Node) : String.join (ns.map Node.textContent)
    = String.join ((ns.flatMap fun n => n.locations.map Location.node).filterMap Node.characters?) := by
  induction ns with
  | nil => rfl
  | cons n ns ih =>
    rw [List.map_cons, String.join_cons, ih, List.flatMap_cons, List.filterMap_append,
      String.join_append, List.filterMap_map, Node.textContent, Node.gatherText_locations]
    rfl

theorem filterMap_characters_filter (cs : List ParseTree) :
    (((document cs).toNode.locations.filter fun l =>
        !(document cs).inSkeleton l.path).map Location.node).filterMap Node.characters?
      = ((document cs).toNode.locations.map Location.node).filterMap Node.characters? := by
  rw [List.filterMap_map, List.filterMap_map, List.filterMap_filter]
  refine List.filterMap_congr fun l hl => ?_
  cases hskeleton : (document cs).inSkeleton l.path with
  | false => rfl
  | true =>
    have hbranch := isBranch_of_inSkeleton hl hskeleton
    show none = l.node.characters?
    cases hnode : l.node <;> simp [hnode, Node.isBranch, Node.characters?] at hbranch ⊢

/-! ## Fragments -/

theorem keepsFragments_eq_false {parser : String} (h : parser ≠ "html.parser")
    (h' : parser ≠ "lxml-xml") : keepsFragments parser = false := by
  unfold keepsFragments Backend.ofName?
  split <;> first | rfl | contradiction

/-- **A fragment is its document without the skeleton.** The nodes of what stands at the top of the
fragment, in document order, are the nodes of the whole document in their order, without the document
itself, the first tag named `html` directly in it and the tags named `head` or `body` directly in
that one. No characters are lost. -/
theorem fragment_is_document_without_skeleton (cs : List ParseTree) {parser : String}
    (h : parser ≠ "html.parser") (h' : parser ≠ "lxml-xml") :
    let whole := document cs
    let fragment := toNodes (whole.fragmentContents (keepsFragments parser))
    (fragment.flatMap fun n => n.locations.map Location.node)
        = (whole.toNode.locations.filter fun l => !whole.inSkeleton l.path).map Location.node ∧
      String.join (fragment.map Node.textContent) = whole.toNode.textContent := by
  intro whole fragment
  have hfragment : fragment = (dissolveRoot cs).map toNode := by
    show toNodes (whole.fragmentContents (keepsFragments parser)) = _
    rw [keepsFragments_eq_false h h', toNodes_eq_map]
    rfl
  have hnodes : (fragment.flatMap fun n => n.locations.map Location.node)
      = (whole.toNode.locations.filter fun l => !whole.inSkeleton l.path).map Location.node := by
    rw [map_node_filter_locations whole fun p => !whole.inSkeleton p, filter_listing, hfragment,
      List.flatMap_map, List.map_flatMap]
    simp only [map_node_locations]
    rfl
  refine ⟨hnodes, ?_⟩
  have hwhole := join_textContent [whole.toNode]
  rw [List.map_singleton, String.join_cons, String.join_nil, String.append_empty,
    List.flatMap_singleton] at hwhole
  rw [join_textContent, hnodes, filterMap_characters_filter, hwhole]

/-- Comments around and inside the root, a `head` below the body, and a second root. -/
theorem fragment_is_document_without_skeleton_two_roots :
    let title : ParseTree := .tag "title" none [] [.string .plain "t"]
    let body : ParseTree := .tag "body" none [] [.string .plain "a", .tag "head" none [] []]
    let root : ParseTree :=
      .tag "html" none [] [.tag "head" none [] [title], .string .comment "d", body]
    let second : ParseTree := .tag "html" none [] [.tag "body" none [] [.string .plain "z"]]
    let whole := document [.string .comment "c", root, second]
    let fragment := toNodes (whole.fragmentContents (keepsFragments "html5lib"))
    "html5lib" ≠ "html.parser" ∧ "html5lib" ≠ "lxml-xml" ∧
      (fragment.flatMap fun n => n.locations.map Location.node)
        = [.comment "c", title.toNode, .text "t", .comment "d", .text "a", .element "head" none [],
          second.toNode, .element "body" none [.text "z"], .text "z"] ∧
      String.join (fragment.map Node.textContent) = "taz" := by
  intro title body root second whole fragment
  have hlxml : "html5lib" ≠ "html.parser" ∧ "html5lib" ≠ "lxml-xml" := by decide
  obtain ⟨hnodes, htext⟩ := fragment_is_document_without_skeleton
    [.string .comment "c", root, second] hlxml.1 hlxml.2
  refine ⟨hlxml.1, hlxml.2, hnodes.trans ?_, htext.trans ?_⟩
  · rw [map_node_filter_locations (document _) fun p => !(document _).inSkeleton p]
    rfl
  · rw [textContent_toNode]
    rfl

end ParseTree
end MarkupQuery.Markup
