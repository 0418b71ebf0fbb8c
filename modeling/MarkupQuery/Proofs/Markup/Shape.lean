import Mathlib.Data.List.Forall2
import MarkupQuery.Extraction.Extractor
import MarkupQuery.Markup.Conversion
import MarkupQuery.Proofs.Steps
import MarkupQuery.Proofs.Tree.DocumentOrder

/-!
# The shape of a converted tree

Conversion neither drops nor merges nor moves a node: the walk through a converted tree meets the
nodes of the parse tree one by one, each at its own path and each turned into the node of its kind.
Hence the character data of the converted tree is that of the parse tree. Only a value that is no
parser output stops a conversion, and the failure names the first such value.

Main statement: `conversion_keeps_shape_and_characters`.
-/

namespace MarkupQuery.Markup
namespace ParseTree

/-! ## The nodes of a parse tree -/

mutual
/-- The nodes of a parse tree in document order, each with the child indices that lead to it. -/
def listing : ParseTree → List (List Nat × ParseTree)
  | .document cs => ([], .document cs) :: listingFrom 0 cs
  | .tag name p attributes cs => ([], .tag name p attributes cs) :: listingFrom 0 cs
  | .string kind s => [([], .string kind s)]

/-- The nodes of siblings, the first of which has the given index. -/
def listingFrom (i : Nat) : List ParseTree → List (List Nat × ParseTree)
  | [] => []
  | t :: ts => t.listing.map (fun e => (i :: e.1, e.2)) ++ listingFrom (i + 1) ts
end

theorem listing_eq (t : ParseTree) : t.listing = ([], t) :: listingFrom 0 t.contents := by
  cases t <;> simp [listing, contents, listingFrom]

/-- The nodes of siblings are nodes of one of them. -/
theorem exists_of_mem_listingFrom {k : Nat} {ts : List ParseTree} {p : List Nat} {u : ParseTree}
    (h : (p, u) ∈ listingFrom k ts) :
    ∃ i t q, ts[i]? = some t ∧ (q, u) ∈ t.listing ∧ p = (k + i) :: q := by
  induction ts generalizing k with
  | nil => simp [listingFrom] at h
  | cons t ts ih =>
    rw [listingFrom, List.mem_append, List.mem_map] at h
    rcases h with ⟨⟨q, v⟩, hv, he⟩ | h
    · obtain ⟨rfl, rfl⟩ := Prod.mk.inj he
      exact ⟨0, t, q, rfl, hv, rfl⟩
    · obtain ⟨i, s, q, hs, hq, rfl⟩ := ih h
      exact ⟨i + 1, s, q, by simpa using hs, hq, by rw [Nat.add_assoc, Nat.add_comm 1]⟩

theorem eq_of_nil_mem_listing {t u : ParseTree} (h : ([], u) ∈ t.listing) : u = t := by
  rw [listing_eq, List.mem_cons] at h
  rcases h with h | h
  · exact (Prod.mk.inj h).2
  · obtain ⟨i, s, q, -, -, hq⟩ := exists_of_mem_listingFrom h
    exact absurd hq.symm (List.cons_ne_nil _ _)

theorem exists_of_cons_mem_listing {t u : ParseTree} {i : Nat} {is : List Nat}
    (h : (i :: is, u) ∈ t.listing) : ∃ s, t.contents[i]? = some s ∧ (is, u) ∈ s.listing := by
  rw [listing_eq, List.mem_cons] at h
  rcases h with h | h
  · exact absurd (Prod.mk.inj h).1 (List.cons_ne_nil _ _)
  · obtain ⟨j, s, q, hs, hq, he⟩ := exists_of_mem_listingFrom h
    obtain ⟨rfl, rfl⟩ : i = j ∧ is = q := by simpa using he
    exact ⟨s, hs, hq⟩

/-! ## The converted tree, node by node -/

/-- What a node of a parse tree turns into, its children left aside. A prefix that is not empty is
part of an element's tag. -/
inductive Becomes : ParseTree → Node → Prop
  | document {cs ns} : Becomes (.document cs) (.document ns)
  | element {name attributes cs ns} :
    Becomes (.tag name none attributes cs)
      (.element (Text.lower name) (convertAttributes attributes) ns)
  | emptyPrefix {name attributes cs ns} :
    Becomes (.tag name (some "") attributes cs)
      (.element (Text.lower name) (convertAttributes attributes) ns)
  | prefixed {name p attributes cs ns} (h : p ≠ "") :
    Becomes (.tag name (some p) attributes cs)
      (.element (Text.lower (p ++ ":" ++ name)) (convertAttributes attributes) ns)
  | comment {s} : Becomes (.string .comment s) (.comment s)
  | doctype {s} :
    Becomes (.string .doctype s) (.doctype (Doctype.read s.toList).attributes?)
  | text {kind s} (hc : kind ≠ .comment) (hd : kind ≠ .doctype) :
    Becomes (.string kind s) (.text s)

theorem toNodes_eq_map (ts : List ParseTree) : toNodes ts = ts.map toNode := by
  induction ts with
  | nil => rfl
  | cons t ts ih => rw [toNodes, ih, List.map_cons]

theorem convertString_of_text {kind : StringKind} (hc : kind ≠ .comment) (hd : kind ≠ .doctype)
    (s : String) : convertString kind s = .text s := by
  cases kind <;> first | rfl | contradiction

theorem becomes_toNode (t : ParseTree) : t.Becomes t.toNode := by
  cases t with
  | document cs => exact .document
  | tag name p attributes cs =>
    cases p with
    | none => exact .element
    | some p =>
      by_cases h : p = ""
      · subst h; exact .emptyPrefix
      · rw [toNode, convertName, if_neg (by simpa using h)]
        exact .prefixed h
  | string kind s =>
    by_cases hc : kind = .comment
    · subst hc; exact .comment
    by_cases hd : kind = .doctype
    · subst hd; exact .doctype
    rw [toNode, convertString_of_text hc hd]
    exact .text hc hd

theorem children_toNode (t : ParseTree) : t.toNode.children = t.contents.map toNode := by
  rw [← toNodes_eq_map]
  cases t with
  | document cs => rfl
  | tag name p attributes cs => rfl
  | string kind s => cases kind <;> rfl

mutual
/-- The converted tree has the paths of the parse tree. -/
theorem positions_toNode (t : ParseTree) : t.toNode.positions = t.listing.map Prod.fst := by
  rw [Node.positions_eq, children_toNode, listing_eq, List.map_cons]
  cases t with
  | document cs => rw [contents, positionsFrom_toNode 0 cs]
  | tag name p attributes cs => rw [contents, positionsFrom_toNode 0 cs]
  | string kind s => rfl

theorem positionsFrom_toNode (i : Nat) : ∀ ts : List ParseTree,
    Node.positionsFrom i (ts.map toNode) = (listingFrom i ts).map Prod.fst
  | [] => rfl
  | t :: ts => by
    rw [List.map_cons, Node.positionsFrom, listingFrom, List.map_append, positions_toNode t,
      positionsFrom_toNode (i + 1) ts, List.map_map, List.map_map]
    rfl
end

/-- At each path stands what the node there was converted to. -/
theorem at?_toNode {t u : ParseTree} {p : List Nat} (h : (p, u) ∈ t.listing) :
    t.toNode.at? p = some u.toNode := by
  induction p generalizing t with
  | nil => rw [Node.at?_nil, eq_of_nil_mem_listing h]
  | cons i is ih =>
    obtain ⟨s, hs, hmem⟩ := exists_of_cons_mem_listing h
    rw [Node.at?_cons, children_toNode, List.getElem?_map, hs]
    exact ih hmem

/-- The walk through a converted tree meets the nodes of the parse tree in turn. -/
theorem locations_toNode (t : ParseTree) :
    List.Forall₂ (fun l e => l.path = e.1 ∧ l.node = e.2.toNode) t.toNode.locations t.listing := by
  obtain ⟨hpaths, hall⟩ := (Location.sound_ofRoot t.toNode).following
  rw [Location.remaining_ofRoot, positions_toNode] at hpaths
  have hpath : List.Forall₂ Eq (t.toNode.locations.map Location.path)
      (t.listing.map Prod.fst) := by
    rw [List.forall₂_eq_eq_eq]
    exact hpaths
  rw [List.forall₂_map_left_iff, List.forall₂_map_right_iff] at hpath
  rw [List.forall₂_iff_get] at hpath ⊢
  obtain ⟨hlen, hpath⟩ := hpath
  refine ⟨hlen, fun i h₁ h₂ => ⟨hpath i h₁ h₂, ?_⟩⟩
  -- the walk and the listing agree on the paths, and the tree has one node at each path
  obtain ⟨hs, hw, -⟩ := hall _ (List.get_mem t.toNode.locations ⟨i, h₁⟩)
  have hnode := hs.at?_path
  rw [hw, hpath i h₁ h₂] at hnode
  have hconverted := at?_toNode (List.get_mem t.listing ⟨i, h₂⟩)
  exact Option.some.inj (hnode.symm.trans hconverted)

theorem locations_become (t : ParseTree) :
    List.Forall₂ (fun l e => l.path = e.1 ∧ e.2.Becomes l.node) t.toNode.locations t.listing :=
  t.locations_toNode.imp fun _ _ h => ⟨h.1, h.2 ▸ becomes_toNode _⟩

/-! ## Character data -/

/-- The characters of a string that is neither a comment nor a doctype. -/
def characters? : ParseTree → Option String
  | .string .comment _ => none
  | .string .doctype _ => none
  | .string _ s => some s
  | _ => none

/-- The strings of a parse tree in document order, comments and doctypes left out. -/
def characterData (t : ParseTree) : List String := t.listing.filterMap (·.2.characters?)

theorem gatherText_string (kind : StringKind) (s : String) (rest : List Node) :
    Node.gatherText (convertString kind s :: rest)
      = ((string kind s).characters?.toList ++ Node.gatherText rest) := by
  cases kind <;> rw [convertString, Node.gatherText] <;> first | rfl | simp

mutual
/-- What is gathered from a converted tree is the character data of the parse tree. -/
theorem gatherText_toNode (t : ParseTree) (rest : List Node) :
    Node.gatherText (t.toNode :: rest) = t.characterData ++ Node.gatherText rest := by
  cases t with
  | document cs =>
    rw [toNode, Node.gatherText, gatherText_toNodes 0 cs rest, characterData, listing_eq]
    rfl
  | tag name p attributes cs =>
    rw [toNode, Node.gatherText, gatherText_toNodes 0 cs rest, characterData, listing_eq]
    rfl
  | string kind s =>
    rw [toNode, gatherText_string, characterData, listing]
    cases h : (string kind s).characters? <;> simp [h]

theorem gatherText_toNodes (i : Nat) : ∀ (ts : List ParseTree) (rest : List Node),
    Node.gatherText (toNodes ts ++ rest)
      = (listingFrom i ts).filterMap (·.2.characters?) ++ Node.gatherText rest
  | [], rest => rfl
  | t :: ts, rest => by
    rw [toNodes, List.cons_append, gatherText_toNode t, gatherText_toNodes (i + 1) ts rest,
      listingFrom, List.filterMap_append, List.filterMap_map, List.append_assoc]
    rfl
end

theorem textContent_toNode (t : ParseTree) :
    t.toNode.textContent = String.join t.characterData := by
  rw [Node.textContent, gatherText_toNode, Node.gatherText, List.append_nil]

end ParseTree

namespace Material

/-! ## Materials -/

/-- What a material turns into: sequences become tuples member by member, and nothing stays
nothing. -/
inductive Becomes : Material → Value → Prop
  | nothing : Becomes .nothing .absent
  | text {s} : Becomes (.text s) (.node (.text s))
  | tree {t} : Becomes (.tree t) (.node t.toNode)
  | list {ms vs} (h : List.Forall₂ Becomes ms vs) : Becomes (.list ms) (.tuple vs)
  | tuple {ms vs} (h : List.Forall₂ Becomes ms vs) : Becomes (.tuple ms) (.tuple vs)

mutual
/-- The kinds of the values in a material that are no parser output, in document order. -/
def strangers : Material → List String
  | .list ms => strangersIn ms
  | .tuple ms => strangersIn ms
  | .foreign kind => [kind]
  | _ => []

def strangersIn : List Material → List String
  | [] => []
  | m :: ms => m.strangers ++ strangersIn ms
end

theorem convert_list (ms : List Material) :
    (list ms).convert = convertAll ms >>= fun vs => .ok (.tuple vs) := rfl

theorem convert_tuple (ms : List Material) :
    (tuple ms).convert = convertAll ms >>= fun vs => .ok (.tuple vs) := rfl

theorem convertAll_cons (m : Material) (ms : List Material) :
    convertAll (m :: ms)
      = m.convert >>= fun v => convertAll ms >>= fun vs => .ok (v :: vs) := rfl

mutual
theorem convert_eq_ok_iff : ∀ (m : Material) (v : Value), m.convert = .ok v ↔ m.Becomes v
  | .nothing, v => ⟨fun h => by cases h; exact .nothing, fun h => by cases h; rfl⟩
  | .text s, v => ⟨fun h => by cases h; exact .text, fun h => by cases h; rfl⟩
  | .tree t, v => ⟨fun h => by cases h; exact .tree, fun h => by cases h; rfl⟩
  | .foreign kind, v => ⟨nofun, nofun⟩
  | .list ms, v => by
    rw [convert_list, bind_eq_ok_iff]
    constructor
    · rintro ⟨vs, hvs, h⟩
      obtain rfl := Except.ok.inj h
      exact .list ((convertAll_eq_ok_iff ms vs).mp hvs)
    · intro h
      cases h with
      | list h => exact ⟨_, (convertAll_eq_ok_iff ms _).mpr h, rfl⟩
  | .tuple ms, v => by
    rw [convert_tuple, bind_eq_ok_iff]
    constructor
    · rintro ⟨vs, hvs, h⟩
      obtain rfl := Except.ok.inj h
      exact .tuple ((convertAll_eq_ok_iff ms vs).mp hvs)
    · intro h
      cases h with
      | tuple h => exact ⟨_, (convertAll_eq_ok_iff ms _).mpr h, rfl⟩

theorem convertAll_eq_ok_iff : ∀ (ms : List Material) (vs : List Value),
    convertAll ms = .ok vs ↔ List.Forall₂ Becomes ms vs
  | [], vs => by
    rw [List.forall₂_nil_left_iff]
    exact ⟨fun h => by cases h; rfl, fun h => by rw [h]; rfl⟩
  | m :: ms, vs => by
    rw [convertAll_cons, bind_eq_ok_iff, List.forall₂_cons_left_iff]
    constructor
    · rintro ⟨v, hv, h⟩
      obtain ⟨rest, hrest, h⟩ := bind_eq_ok_iff.mp h
      obtain rfl := Except.ok.inj h
      exact ⟨v, rest, (convert_eq_ok_iff m v).mp hv, (convertAll_eq_ok_iff ms rest).mp hrest, rfl⟩
    · rintro ⟨v, rest, hv, hrest, rfl⟩
      exact ⟨v, (convert_eq_ok_iff m v).mpr hv,
        bind_eq_ok_iff.mpr ⟨rest, (convertAll_eq_ok_iff ms rest).mpr hrest, rfl⟩⟩
end

mutual
/-- A conversion fails on the first stranger. -/
theorem convert_eq_error_iff : ∀ (m : Material) (f : Failure),
    m.convert = .error f ↔ ∃ kind rest, m.strangers = kind :: rest ∧ f = .unconvertible kind
  | .nothing, f => by simp [convert, strangers]
  | .text s, f => by simp [convert, strangers]
  | .tree t, f => by simp [convert, strangers]
  | .foreign kind, f => by simp [convert, strangers, eq_comm]
  | .list ms, f => by
    rw [convert_list, bind_eq_error_iff, strangers, ← convertAll_eq_error_iff ms f]
    simp
  | .tuple ms, f => by
    rw [convert_tuple, bind_eq_error_iff, strangers, ← convertAll_eq_error_iff ms f]
    simp

theorem convertAll_eq_error_iff : ∀ (ms : List Material) (f : Failure),
    convertAll ms = .error f ↔ ∃ kind rest, strangersIn ms = kind :: rest ∧ f = .unconvertible kind
  | [], f => by simp [convertAll, strangersIn]
  | m :: ms, f => by
    rw [convertAll_cons, bind_eq_error_iff, strangersIn]
    cases h : m.strangers with
    | nil =>
      -- without a stranger in the first member the rest decides
      have hm : ∀ f, m.convert ≠ .error f := by simp [convert_eq_error_iff m, h]
      obtain ⟨v, hv⟩ : ∃ v, m.convert = .ok v := by
        cases hc : m.convert with
        | error f => exact absurd hc (hm f)
        | ok v => exact ⟨v, rfl⟩
      rw [List.nil_append, ← convertAll_eq_error_iff ms f, hv]
      simp [bind_eq_error_iff]
    | cons kind rest =>
      have hm := (convert_eq_error_iff m (.unconvertible kind)).mpr ⟨kind, rest, h, rfl⟩
      simp [hm, eq_comm]
end

end Material

/-- **Conversion keeps the shape and the characters, and fails on strangers only.** The walk meets
the nodes of the parse tree in their order and at their paths. -/
theorem conversion_keeps_shape_and_characters :
    (∀ t : ParseTree, ∃ n, (Material.tree t).convert = .ok (.node n) ∧
      List.Forall₂ (fun l e => l.path = e.1 ∧ e.2.Becomes l.node) n.locations t.listing ∧
      Extractor.text.apply (.node n) = pure (.text (String.join t.characterData))) ∧
    (∀ m : Material,
      (∀ v, m.convert = .ok v ↔ m.Becomes v) ∧
      ∀ f, m.convert = .error f ↔
        ∃ kind rest, m.strangers = kind :: rest ∧ f = .unconvertible kind) ∧
    ∀ kind, (Failure.unconvertible kind).className = "TypeError" ∧
      (Failure.unconvertible kind).message = "Cannot convert " ++ kind ++ " into a tree node" := by
  refine ⟨fun t => ⟨t.toNode, rfl, t.locations_become, ?_⟩,
    fun m => ⟨m.convert_eq_ok_iff, m.convert_eq_error_iff⟩,
    fun kind => ⟨rfl, by rw [Failure.message]⟩⟩
  rw [← t.textContent_toNode]
  rfl

example : (Material.list [.text "a", .tuple [.nothing, .foreign "int"], .foreign "float"]).convert
    = .error (.unconvertible "int") := rfl

end MarkupQuery.Markup
