import MarkupQuery.Extraction.Extractor
import MarkupQuery.Proofs.Selection.Filter
import MarkupQuery.Proofs.Tree.Locations

/-!
# Character data

The character data of a tree is gathered with a stack: a branch on top of it gives way to its
children, and a leaf is taken off. A walk with a location does the same without a stack, because the
trail remembers what still waits: the siblings to the right of the position and of every ancestor. The
node at the position, followed by these, is the stack at that moment (`Location.waiting`), and a step
in document order is what happens to the top of it (`Location.waiting_next`). So both meet the same
texts in the same order.

Each subtree has its share in the character data at one place, and the rest does not depend on it
(`Node.exists_gatherText_replaceAt`).

Main statement: `Node.character_data_is_selected_texts`.
-/

namespace MarkupQuery
namespace Node

/-- The characters of a text. -/
def characters? : Node → Option String
  | .text s => some s
  | _ => none

theorem characters?_eq_some_iff {n : Node} {s : String} : n.characters? = some s ↔ n = .text s := by
  cases n <;> simp [characters?]

/-- The node on top of the stack adds its own characters and gives way to its children. -/
theorem gatherText_cons (n : Node) (rest : List Node) :
    gatherText (n :: rest) = n.characters?.toList ++ gatherText (n.children ++ rest) := by
  cases n <;> simp [gatherText, characters?, children]

theorem gatherText_append (ns ms : List Node) :
    gatherText (ns ++ ms) = gatherText ns ++ gatherText ms := by
  fun_induction gatherText ns with
  | case1 => rw [List.nil_append, List.nil_append]
  | case2 s rest ih => rw [List.cons_append, gatherText, ih, List.cons_append]
  | case3 cs rest ih => rw [List.cons_append, gatherText, ← List.append_assoc, ih]
  | case4 tag attributes cs rest ih =>
    rw [List.cons_append, gatherText, ← List.append_assoc, ih]
  | case5 n rest htext hdocument helement ih =>
    -- neither a text nor a branch, so that it is taken off without a trace
    have hsilent : n.characters? = none ∧ n.children = [] := by
      cases n with
      | text s => exact absurd rfl (htext s)
      | document cs => exact absurd rfl (hdocument cs)
      | element tag attributes cs => exact absurd rfl (helement tag attributes cs)
      | doctype attributes => exact ⟨rfl, rfl⟩
      | comment s => exact ⟨rfl, rfl⟩
    rw [List.cons_append, gatherText_cons, hsilent.1, hsilent.2]
    exact ih

end Node

namespace Location

/-! ## The stack and the trail -/

/-- The nodes to the right of a trail, nearest first. -/
def toTheRight (trail : List Crumb) : List Node := trail.flatMap Crumb.after

/-- The nodes that wait to be walked through, the one at the position first. -/
def waiting (l : Location) : List Node := if l.atEnd then [] else l.node :: toTheRight l.trail

variable {l : Location}

theorem waiting_of_atEnd (h : l.atEnd = true) : l.waiting = [] := by
  rw [waiting, if_pos h]

theorem waiting_of_not_atEnd (h : l.atEnd = false) : l.waiting = l.node :: toTheRight l.trail := by
  rw [waiting, if_neg (by simp [h])]

theorem waiting_down {d : Location} (h : l.down? = some d) :
    d.waiting = l.node.children ++ toTheRight l.trail := by
  unfold down? at h
  split at h
  · simp at h
  · next c cs hcs =>
    obtain rfl := Option.some.inj h
    rw [hcs]
    rfl

theorem waiting_right {r : Location} (h : l.right? = some r) : r.waiting = toTheRight l.trail := by
  unfold right? at h
  split at h
  · simp at h
  · next c trail ht =>
    split at h
    · simp at h
    · next n ns hn =>
      obtain rfl := Option.some.inj h
      rw [ht, toTheRight, List.flatMap_cons, hn]
      rfl

theorem toTheRight_of_right?_eq_none (h : l.right? = none) :
    toTheRight l.trail = toTheRight l.trail.tail := by
  unfold right? at h
  split at h
  · next ht => rw [ht, List.tail_nil]
  · next c trail ht =>
    split at h
    · next ha => rw [ht, toTheRight, List.flatMap_cons, ha, List.nil_append, List.tail_cons, toTheRight]
    · simp at h

/-- Climbing goes to what waits to the right of the ancestors. -/
theorem waiting_climb (l : Location) : l.climb.waiting = toTheRight l.trail.tail := by
  fun_induction climb l with
  | case1 l h => rw [waiting_of_atEnd rfl, up?_eq_none_iff.mp h]; rfl
  | case2 l p hp r hr => rw [waiting_right hr, trail_of_up? hp]
  | case3 l p hp hr ih => rw [ih, ← toTheRight_of_right?_eq_none hr, trail_of_up? hp]

/-- A step in document order is a step of the stack: the node on top gives way to its children. -/
theorem waiting_next (h : l.atEnd = false) :
    l.next.waiting = l.node.children ++ toTheRight l.trail := by
  unfold next
  rw [if_neg (by simp [h])]
  split
  · next d hd => exact waiting_down hd
  · next hd =>
    rw [down?_eq_none_iff.mp hd, List.nil_append]
    split
    · next r hr => exact waiting_right hr
    · next hr => rw [waiting_climb, ← toTheRight_of_right?_eq_none hr]

/-- What the stack loop gathers from the waiting nodes are the texts that the walk comes to. -/
theorem gatherText_waiting (l : Location) :
    Node.gatherText l.waiting = l.following.filterMap (·.node.characters?) := by
  fun_induction following l with
  | case1 l h => rw [waiting_of_atEnd h, Node.gatherText, List.filterMap_nil]
  | case2 l h ih =>
    have hend : l.atEnd = false := by simpa using h
    rw [waiting_of_not_atEnd hend, Node.gatherText_cons, ← waiting_next hend, ih]
    cases hc : l.node.characters? with
    | none => rw [List.filterMap_cons_none (by exact hc), Option.toList_none, List.nil_append]
    | some s => rw [List.filterMap_cons_some (by exact hc), Option.toList_some, List.singleton_append]

end Location

namespace Node

theorem gatherText_locations (t : Node) :
    gatherText [t] = t.locations.filterMap (·.node.characters?) :=
  Location.gatherText_waiting (Location.ofRoot t)

/-! ## Shares -/

theorem gatherText_of_isBranch {n : Node} (h : n.isBranch = true) :
    gatherText [n] = gatherText n.children := by
  have hown : n.characters? = none := by cases n <;> first | rfl | simp [isBranch] at h
  rw [gatherText_cons, hown, List.append_nil, Option.toList_none, List.nil_append]

theorem join_gatherText (ns : List Node) :
    String.join (gatherText ns) = String.join (ns.map textContent) := by
  induction ns with
  | nil => rw [gatherText, List.map_nil]
  | cons n ns ih =>
    rw [← List.singleton_append, gatherText_append, String.join_append, ih, List.singleton_append,
      List.map_cons, String.join_cons, textContent]

/-- The character data of a branch is that of its children. -/
theorem textContent_of_isBranch {n : Node} (h : n.isBranch = true) :
    n.textContent = String.join (n.children.map textContent) := by
  rw [textContent, gatherText_of_isBranch h, join_gatherText]

theorem textContent_of_silent {n : Node} (h : n.kind = .comment ∨ n.kind = .doctype) :
    n.textContent = "" := by
  cases n <;> simp [kind] at h <;> simp [textContent, gatherText]

/-- Whatever is put at a position has its share at the same place, among the same texts. -/
theorem exists_gatherText_replaceAt {t n : Node} {p : List Nat} (h : t.at? p = some n) :
    ∃ before after, ∀ m, gatherText [t.replaceAt p m] = before ++ gatherText [m] ++ after := by
  induction p generalizing t with
  | nil => exact ⟨[], [], fun m => by rw [replaceAt_nil, List.nil_append, List.append_nil]⟩
  | cons i is ih =>
    rw [at?_cons, Option.bind_eq_some_iff] at h
    obtain ⟨c, hc, hn⟩ := h
    obtain ⟨before, after, hshare⟩ := ih hn
    obtain ⟨hi, rfl⟩ := List.getElem?_eq_some_iff.mp hc
    have hbranch : t.isBranch = true := isBranch_of_children fun hnil => by simp [hnil] at hi
    refine ⟨gatherText (t.children.take i) ++ before, after ++ gatherText (t.children.drop (i + 1)),
      fun m => ?_⟩
    -- the siblings on either side keep their shares
    have hsplit : t.children.modify i (·.replaceAt is m) =
        t.children.take i ++ (t.children[i].replaceAt is m :: t.children.drop (i + 1)) :=
      List.modify_eq_take_cons_drop hi
    have hrefill : (t.refill (t.children.modify i (·.replaceAt is m))).isBranch = true := by
      cases t <;> first | rfl | simp [isBranch] at hbranch
    rw [replaceAt_cons, gatherText_of_isBranch hrefill, children_refill hbranch, hsplit,
      gatherText_append, ← List.singleton_append, gatherText_append, hshare m]
    simp only [List.append_assoc]

/-! ## Texts in document order -/

/-- The test for texts answers with yes where there are characters. -/
theorem yields_ofKind_text (l : Location) :
    ((Selector.ofKind [.text]).holds (.position l)).Yields l.node.characters?.isSome := by
  have htest : (some l.node.kind).any ([Kind.text].contains ·) = l.node.characters?.isSome := by
    cases l.node <;> rfl
  rw [← htest]
  exact Probe.yields_pure _

/-- The locations of texts, each with its characters. -/
theorem forall₂_characters (ls : List Location) :
    List.Forall₂ (fun l x => l.node = .text x) (ls.filter (·.node.characters?.isSome))
      (ls.filterMap (·.node.characters?)) := by
  induction ls with
  | nil => exact .nil
  | cons l ls ih =>
    cases hl : l.node.characters? with
    | none => rwa [List.filter_cons_of_neg (by simp [hl]), List.filterMap_cons_none (by exact hl)]
    | some x =>
      rw [List.filter_cons_of_pos (by simp [hl]), List.filterMap_cons_some (by exact hl)]
      exact .cons (characters?_eq_some_iff.mp hl) ih

/-- The positions of texts are those of the locations that have characters. -/
theorem exists_text_at?_iff {t : Node} {p : List Nat} :
    (∃ x, t.at? p = some (.text x)) ↔
      ∃ l ∈ t.locations, l.path = p ∧ l.node.characters?.isSome = true := by
  constructor
  · rintro ⟨x, hx⟩
    have hposition : p ∈ t.locations.map Location.path := by
      rw [map_path_locations, mem_positions, hx]
      rfl
    obtain ⟨l, hl, rfl⟩ := List.mem_map.mp hposition
    rw [Location.at?_of_mem_locations hl] at hx
    exact ⟨l, hl, rfl, by rw [Option.some.inj hx]; rfl⟩
  · rintro ⟨l, hl, rfl, htext⟩
    obtain ⟨x, hx⟩ := Option.isSome_iff_exists.mp htext
    exact ⟨x, by rw [Location.at?_of_mem_locations hl, characters?_eq_some_iff.mp hx]⟩

theorem inDocumentOrder_texts (t : Node) :
    t.InDocumentOrder (fun p => ∃ x, t.at? p = some (.text x))
      ((t.locations.filter (·.node.characters?.isSome)).map Location.path) where
  sorted := (t.inDocumentOrder_filter _).sorted
  mem_iff p := by
    rw [exists_text_at?_iff]
    exact (t.inDocumentOrder_filter _).mem_iff p

theorem run_select_texts (t : Node) (s : Session) (id : CacheId) :
    ((select id (.selector (.ofKind [.text])) (.node t)).run s).1 =
      .ok ((t.locations.filterMap (·.node.characters?)).map fun x => .node (.text x)) := by
  have hrun := congrFun (Action.compile_selector_eq_pure id (.ofKind [.text])) s
  rw [run_select_of_yields (.node t) hrun fun l _ => yields_ofKind_text l, List.flatMap_singleton]
  exact congrArg Except.ok (map_eq_map_iff_forall₂.mpr
    ((forall₂_characters t.locations).imp fun l x h => congrArg Value.node h))

/-- **Character data is what a selection of the texts finds.** The extractor answers with the texts of
the tree put together, each of them once and in document order; these are the texts that a selection
finds. The character data of a branch is that of its children put together. Comments and doctypes have
none, and what stands at any position has its share at one place in that of the whole tree. -/
theorem character_data_is_selected_texts (t : Node) (s : Session) (id : CacheId) :
    (Extractor.text.apply (.node t)).run s = (.ok (.text t.textContent), s) ∧
    (∃ ps texts, t.InDocumentOrder (fun p => ∃ x, t.at? p = some (.text x)) ps ∧
      List.Forall₂ (fun p x => t.at? p = some (.text x)) ps texts ∧
      ((select id (.selector (.ofKind [.text])) (.node t)).run s).1 =
        .ok (texts.map fun x => .node (.text x)) ∧
      t.textContent = String.join texts) ∧
    (t.isBranch = true → t.textContent = String.join (t.children.map textContent)) ∧
    (∀ n : Node, n.kind = .comment ∨ n.kind = .doctype → n.textContent = "") ∧
    ∀ p n, t.at? p = some n → ∃ before after, ∀ m : Node,
      (t.replaceAt p m).textContent = before ++ m.textContent ++ after := by
  refine ⟨rfl, ⟨_, _, t.inDocumentOrder_texts, ?_, t.run_select_texts s id, ?_⟩,
    textContent_of_isBranch, fun n => textContent_of_silent, fun p n h => ?_⟩
  · rw [List.forall₂_map_left_iff]
    have hall : List.Forall₂ (fun l x => t.at? l.path = some l.node ∧ l.node = .text x)
        (t.locations.filter (·.node.characters?.isSome))
        (t.locations.filterMap (·.node.characters?)) :=
      (List.forall₂_and_left _ _).mpr ⟨fun l hl =>
        Location.at?_of_mem_locations (List.mem_filter.mp hl).1, forall₂_characters t.locations⟩
    exact hall.imp fun l x h => h.1.trans (congrArg some h.2)
  · rw [textContent, gatherText_locations]
  · obtain ⟨before, after, hshare⟩ := exists_gatherText_replaceAt h
    refine ⟨String.join before, String.join after, fun m => ?_⟩
    rw [textContent, hshare m, String.join_append, String.join_append, textContent]

/-- A list with a comment between two items, one of which has an item of its own; another comment in
its place makes no difference. -/
theorem character_data_is_selected_texts_nested :
    let t : Node := .element "ul" none [.text "a", .comment "x",
      .element "li" none [.text "b", .element "i" none [.text "c"]], .text "d"]
    t.textContent = "abcd" ∧ t.isBranch = true ∧
      t.textContent = String.join (t.children.map textContent) ∧
      t.at? [1] = some (.comment "x") ∧ (Node.comment "x").textContent = "" ∧
      ∃ before after, ∀ m : Node, (t.replaceAt [1] m).textContent = before ++ m.textContent ++ after := by
  intro t
  obtain ⟨-, -, hbranch, hsilent, hshare⟩ := character_data_is_selected_texts t {} .shared
  exact ⟨by with_unfolding_all rfl, rfl, hbranch rfl, rfl, hsilent _ (Or.inl rfl), hshare [1] _ rfl⟩

end Node
end MarkupQuery
