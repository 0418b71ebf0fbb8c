import MarkupQuery.Markup.Parsing
import MarkupQuery.Proofs.Markup.Css.Conditions
import MarkupQuery.Proofs.Markup.Lineage
import MarkupQuery.Proofs.Selection.Filter
import MarkupQuery.Proofs.Selector.Chain
import MarkupQuery.Proofs.Selector.Normal

/-!
# Chains and style sheets

A chain of tokens can be asked of a document in two ways: as a query of the converted tree, whose
links climb from each node to its ancestors, and as a style sheet selector of the parse tree. Both
settle the tokens, last first, at a node and at nodes above it (`Settled`), and both go through the
document in order. So they find the same nodes, except where an attribute of the document is read
differently: a style sheet never finds more, and it finds less when one of the names of the chain is
cut out of a class by a blank that is no space, or when an id has several parts (`ReadAlike`).

Main statement: `chains_agree_with_style_sheets`.
-/

namespace MarkupQuery.Markup.Css

/-! ## Settling a chain -/

/-- A chain of tokens, given last first, is settled at a node and the nodes above it: the last token
holds of the node itself and the others, in turn, of nodes further and further up. -/
def Settled {α : Type} (R : Token → α → Prop) (x : α × List α) : List Token → Prop
  | [] => False
  | last :: outer => R last x.1 ∧ List.SublistForall₂ R outer x.2

section Settled

variable {α β : Type} {R S : Token → α → Prop}

theorem sublistForall₂_imp {ts : List Token} {as : List α}
    (h : ∀ t ∈ ts, ∀ a ∈ as, R t a → S t a) (hR : List.SublistForall₂ R ts as) :
    List.SublistForall₂ S ts as := by
  induction hR with
  | nil => exact .nil
  | cons hta _ ih =>
    exact .cons (h _ List.mem_cons_self _ List.mem_cons_self hta)
      (ih fun t ht a ha => h t (List.mem_cons_of_mem _ ht) a (List.mem_cons_of_mem _ ha))
  | cons_right _ ih => exact .cons_right (ih fun t ht a ha => h t ht a (List.mem_cons_of_mem _ ha))

/-- What is settled stays so when every token holds wherever it held. -/
theorem Settled.imp {ts : List Token} {x : α × List α}
    (h : ∀ t ∈ ts, ∀ a ∈ x.1 :: x.2, R t a → S t a) (hR : Settled R x ts) : Settled S x ts := by
  cases ts with
  | nil => exact hR
  | cons last outer =>
    exact ⟨h last List.mem_cons_self _ List.mem_cons_self hR.1, sublistForall₂_imp
      (fun t ht a ha => h t (List.mem_cons_of_mem _ ht) a (List.mem_cons_of_mem _ ha)) hR.2⟩

end Settled

/-! ## On the parse tree -/

/-- The node at a place and the nodes above it, nearest first. -/
def Place.lineage (p : Place) : ParseTree × List ParseTree := (p.node, p.ancestors.map Place.node)

/-- Settling tokens above a place is settling the first of them at an ancestor and the others above
that. -/
theorem sublistForall₂_ancestors_iff {R : Token → ParseTree → Prop} {t : Token} {outer : List Token}
    (p : Place) : List.SublistForall₂ R (t :: outer) (p.ancestors.map Place.node) ↔
      ∃ q ∈ p.ancestors, R t q.node ∧ List.SublistForall₂ R outer (q.ancestors.map Place.node) := by
  fun_induction Place.ancestors p with
  | case1 node earlier later => exact iff_of_false (by rintro ⟨⟩) (by simp)
  | case2 node earlier later p ih =>
    rw [List.map_cons, sublistForall₂_cons_cons_iff, ih, List.exists_mem_cons_iff]

/-- The selector of a chain holds where the chain is settled. -/
theorem holds_complexOf_iff {tokens : List Token} (hne : tokens ≠ []) (h : ∀ t ∈ tokens, t.Shared)
    (p : Place) : (complexOf tokens).holds p = true ↔ Settled Styled p.lineage tokens := by
  induction tokens generalizing p with
  | nil => exact absurd rfl hne
  | cons t outer ih =>
    have ht := allHold_conditionsOf_iff (h t List.mem_cons_self) p
    cases outer with
    | nil =>
      rw [complexOf, Complex.holds, ht, Settled]
      exact (and_iff_left List.SublistForall₂.nil).symm
    | cons u outer =>
      have hrest (q : Place) : (complexOf (u :: outer)).holds q = true ↔
          Styled u q.node ∧ List.SublistForall₂ Styled outer (q.ancestors.map Place.node) :=
        ih (List.cons_ne_nil u outer) (fun v hv => h v (List.mem_cons_of_mem _ hv)) q
      rw [complexOf, Complex.holds, Bool.and_eq_true, ht, List.any_eq_true, Settled, Place.lineage,
        sublistForall₂_ancestors_iff]
      simp only [Combinator.places, hrest]

mutual
/-- The places of the tags among nodes have the lineages of these tags. -/
theorem map_lineage_placesFrom (earlier later : List ParseTree) (parent : Place) (t : ParseTree)
    (ht : Lowered t) : (placesFrom earlier later parent t).map Place.lineage =
      (t.lineages (parent.node :: parent.ancestors.map Place.node)).filter fun x => isTag x.1 := by
  cases t with
  | document cs => cases ht
  | tag name p attributes cs =>
    have hcs : ∀ u ∈ cs, Lowered u := fun u hu => ht.of_mem_contents hu
    rw [placesFrom, ParseTree.lineages, List.filter_cons_of_pos (by rfl), List.map_cons,
      map_lineage_placesAmong [] _ cs hcs]
    rfl
  | string kind s => simp [placesFrom, ParseTree.lineages, isTag]

theorem map_lineage_placesAmong (earlier : List ParseTree) (parent : Place) : ∀ ts : List ParseTree,
    (∀ t ∈ ts, Lowered t) → (placesAmong earlier parent ts).map Place.lineage =
      (ParseTree.lineagesAmong (parent.node :: parent.ancestors.map Place.node) ts).filter
        fun x => isTag x.1
  | [], _ => rfl
  | t :: ts, h => by
    rw [placesAmong, ParseTree.lineagesAmong, List.map_append, List.filter_append,
      map_lineage_placesFrom earlier ts parent t (h t List.mem_cons_self),
      map_lineage_placesAmong (t :: earlier) parent ts fun u hu => h u (List.mem_cons_of_mem _ hu)]
end

theorem map_lineage_placesIn {contents : List ParseTree} (h : ∀ t ∈ contents, Lowered t) :
    (placesIn (.document contents)).map Place.lineage =
      ((ParseTree.document contents).lineages []).filter fun x => isTag x.1 := by
  rw [placesIn, ParseTree.lineages, List.filter_cons_of_neg (by simp [isTag])]
  exact map_lineage_placesAmong [] _ contents h

theorem IsChain.ne_nil {tokens : List Token} {text : String} (h : IsChain tokens text) :
    tokens ≠ [] := by
  obtain ⟨front, core, back, -, -, hjoined, -⟩ := h.layout
  cases hjoined <;> exact List.cons_ne_nil _ _

open Classical in
/-- A style sheet finds the tags of a document at which the chain is settled. -/
theorem select_chain {tokens : List Token} {text : String} (h : IsChain tokens text)
    {contents : List ParseTree} (hcontents : ∀ t ∈ contents, Lowered t) :
    select [complexOf tokens.reverse] (.document contents) =
      ((((ParseTree.document contents).lineages []).filter fun x => isTag x.1).filter fun x =>
        decide (Settled Styled x tokens.reverse)).map Prod.fst := by
  have hne : tokens.reverse ≠ [] := by simpa using h.ne_nil
  have hshared : ∀ t ∈ tokens.reverse, t.Shared := fun t ht => h.shared t (List.mem_reverse.mp ht)
  rw [select, ← map_lineage_placesIn hcontents, List.filter_map, List.map_map]
  refine congrArg₂ _ rfl (List.filter_congr fun p _ => ?_)
  rw [Bool.eq_iff_iff, oneHolds, oneHolds, Bool.or_false, holds_complexOf_iff hne hshared]
  simp

/-! ## On the converted tree -/

theorem isBlank_of_isTokenChar {c : Char} (h : isTokenChar c = true) : Text.isBlank c = false := by
  simp only [isTokenChar, Bool.or_eq_true, beq_iff_eq] at h
  rcases h with (h | rfl) | rfl
  · exact Text.isBlank_of_isAsciiNameChar h
  · decide
  · decide

theorem IsGap.blanks {gap : List Char} (h : IsGap gap) : ∀ c ∈ gap, Text.isBlank c = true :=
  fun c hc => isBlank_of_isSpace (h c hc)

theorem wordsOf_write {t : Token} (ht : t.Shared) : Text.wordsOf t.write = [t.write] :=
  Text.wordsOf_eq_singleton (write_ne_nil ht) fun c hc =>
    isBlank_of_isTokenChar (isTokenChar_of_mem_write ht c hc)

theorem Joined.wordsOf {tokens : List Token} {core : List Char} (h : Joined tokens core)
    (hshared : ∀ t ∈ tokens, t.Shared) : Text.wordsOf core = tokens.map Token.write := by
  induction h with
  | last t => exact wordsOf_write (hshared t List.mem_cons_self)
  | @cons t gap ts cs hne hgap hjoined ih =>
    rw [Text.cutsAt_wordsOf.append_gap hgap.blanks _ fun h => absurd h hne,
      wordsOf_write (hshared t List.mem_cons_self),
      ih fun u hu => hshared u (List.mem_cons_of_mem _ hu)]
    rfl

/-- The words of a chain are its tokens. -/
theorem IsChain.words {tokens : List Token} {text : String} (h : IsChain tokens text) :
    Text.words text = tokens.map Token.text := by
  obtain ⟨front, core, back, htext, hfront, hjoined, hback⟩ := h.layout
  have hcut : Text.wordsOf (core ++ (back ++ [])) = Text.wordsOf core ++ Text.wordsOf [] :=
    Text.cutsAt_wordsOf.append_gap hback.blanks core fun _ => rfl
  rw [List.append_nil] at hcut
  rw [Text.words, htext, Text.cutsAt_wordsOf.append_left hfront.blanks, hcut, hjoined.wordsOf h.shared,
    Text.cutsAt_wordsOf.nil, List.append_nil, List.map_map]
  rfl

/-- The link of a chain that a token is. -/
def linkOf (t : Token) : Selector := { t.test with name := t.text }

theorem compile_token {t : Token} (ht : t.Shared) :
    ChainElement.compile (.token t.text) = .ok (linkOf t) := by
  have hread : Token.read? t.text.toList = some t := Token.read?_text_iff.mpr ⟨ht.wellFormed, rfl⟩
  have hempty : t.text.isEmpty = false := by
    rw [String.isEmpty_eq_false_iff, Token.text, ← String.toList_inj.ne, String.toList_ofList]
    exact write_ne_nil ht
  rw [ChainElement.compile, Selector.ofToken, hread, hempty]
  rfl

theorem compile_chain {tokens : List Token} {text : String} (h : IsChain tokens text) :
    (Query.text text).compile = .ok (Selector.chain (tokens.map linkOf)) := by
  have hnormal : (Query.text text).normalise = .ok ((tokens.map Token.text).map .token) := by
    rw [Query.normalise, h.words]
  have hlinks : ((tokens.map Token.text).map ChainElement.token).mapM ChainElement.compile =
      .ok (tokens.map linkOf) := by
    have hshared := h.shared
    clear h hnormal
    induction tokens with
    | nil => rfl
    | cons t ts ih =>
      rw [List.map_cons, List.map_cons, List.mapM_cons, compile_token (hshared t List.mem_cons_self),
        ih fun u hu => hshared u (List.mem_cons_of_mem _ hu)]
      rfl
  rw [Query.compile_eq_of_normalise hnormal, Query.compileElements, hlinks]
  rfl

/-- A chain answers everywhere, and says whether it is settled. -/
theorem chain_yields_settled {tokens : List Token} (hne : tokens ≠ []) (l : Location) :
    ∃ b, ((Selector.chain (tokens.map linkOf)).holds (.position l)).Yields b ∧
      (b = true ↔ Settled Token.Matches l.lineage tokens.reverse) := by
  -- the last link is asked about the position itself, the links before it on the way up
  obtain ⟨outer, last, rfl⟩ := List.eq_nil_or_concat tokens |>.resolve_left hne
  have htotal : ∀ p ∈ outer.map linkOf ++ [linkOf last], p.IsTotal := by
    intro p hp
    have hmem : ∃ t, linkOf t = p := by
      rcases List.mem_append.mp hp with hp | hp
      · obtain ⟨t, -, ht⟩ := List.mem_map.mp hp
        exact ⟨t, ht⟩
      · exact ⟨last, (List.mem_singleton.mp hp).symm⟩
    obtain ⟨t, rfl⟩ := hmem
    exact t.isTotal_test
  obtain ⟨b, hb, hiff⟩ := Selector.chain_yields_of_isTotal htotal l
  have hholds (t : Token) (m : Location) : (linkOf t).HoldsAt m ↔ t.Matches m.node :=
    t.holdsAt_test_iff m
  refine ⟨b, by simpa using hb, hiff.trans ?_⟩
  rw [List.concat_eq_append, List.reverse_append, List.reverse_singleton, List.singleton_append,
    Settled, hholds, ← List.map_reverse, List.sublistForall₂_map_left_iff, Location.lineage,
    List.sublistForall₂_map_right_iff]
  simp only [hholds]

open Classical in
/-- A chain finds the nodes of a tree at which it is settled. -/
theorem run_select_chain {s : Session} (hs : s.Faithful) (id : CacheId) {tokens : List Token}
    {text : String} (h : IsChain tokens text) (n : Node) :
    ((MarkupQuery.select id (.text text) (.node n)).run s).1 =
      .ok (((n.locations.map Location.lineage).filter fun x =>
        decide (Settled Token.Matches x tokens.reverse)).map fun x => .node x.1) := by
  obtain ⟨t, ht, -⟩ := Action.run_compile_of_ok hs (compile_chain h) id
  have hyields : ∀ l ∈ [n].flatMap Node.locations,
      ((Selector.chain (tokens.map linkOf)).holds (.position l)).Yields
        (decide (Settled Token.Matches l.lineage tokens.reverse)) := fun l _ => by
    obtain ⟨b, hb, hiff⟩ := chain_yields_settled h.ne_nil l
    have hverdict : decide (Settled Token.Matches l.lineage tokens.reverse) = b := by
      rw [Bool.eq_iff_iff, decide_eq_true_iff, hiff]
    rwa [hverdict]
  rw [run_select_of_yields (.node n) ht hyields, List.flatMap_singleton, List.filter_map, List.map_map]
  rfl

/-! ## Both ways -/

/-- What a chain finds in a converted document, and what it finds in the document itself as a style
sheet selector. -/
structure Finds (s : Session) (id : CacheId) (doc : ParseTree) (text : String)
    (found styled : List Node) : Prop where
  tree : ∃ v, (Material.tree doc).convert = .ok v ∧
    ((MarkupQuery.select id (.text text) v).run s).1 = .ok (found.map .node)
  style : ((selectCss (.tree doc) text).run s).1 = .ok (.list (styled.map .node))

/-- A name is read alike in all attributes of a document. -/
def ReadAlike (doc : ParseTree) (w : List Char) : Prop :=
  ∀ (p : List Nat) (name : String) (source : SourceAttributes) (cs : List ParseTree),
    (p, .tag name none source.values cs) ∈ doc.listing → source.ReadsAlike (String.ofList w)

theorem Lowered.of_mem_listing {t u : ParseTree} {p : List Nat} (h : ∀ c ∈ t.contents, Lowered c)
    (hp : p ≠ []) (hu : (p, u) ∈ t.listing) : Lowered u := by
  induction p generalizing t with
  | nil => exact absurd rfl hp
  | cons i is ih =>
    obtain ⟨c, hc, hmem⟩ := ParseTree.exists_of_cons_mem_listing hu
    have hlowered := h c (List.mem_of_getElem? hc)
    cases is with
    | nil => rwa [ParseTree.eq_of_nil_mem_listing hmem]
    | cons j js => exact ih (fun d hd => hlowered.of_mem_contents hd) (List.cons_ne_nil j js) hmem

theorem settled_lineageToNode_iff {tokens : List Token} (x : ParseTree × List ParseTree) :
    Settled Token.Matches (ParseTree.lineageToNode x) tokens ↔
      Settled (fun t u => t.Matches u.toNode) x tokens := by
  cases tokens with
  | nil => exact Iff.rfl
  | cons t outer => exact and_congr_right fun _ => List.sublistForall₂_map_right_iff

section Filter

variable {α : Type} {xs : List α} {p q : α → Bool} (himp : ∀ x ∈ xs, q x = true → p x = true)
include himp

theorem filter_filter_of_imp : (xs.filter p).filter q = xs.filter q := by
  rw [List.filter_filter]
  refine List.filter_congr fun x hx => ?_
  cases h : q x with
  | false => rfl
  | true => simp [himp x hx h]

/-- A test that is passed by no fewer members than a weaker one is the same test. -/
theorem of_length_filter_le (hlength : (xs.filter p).length ≤ (xs.filter q).length) :
    ∀ x ∈ xs, p x = true → q x = true := by
  intro x hx hpx
  have hall : (xs.filter p).filter q = xs.filter p :=
    List.filter_sublist.eq_of_length_le (by rwa [filter_filter_of_imp himp])
  have hmem : x ∈ (xs.filter p).filter q := by
    rw [hall]
    exact List.mem_filter.mpr ⟨hx, hpx⟩
  exact (List.mem_filter.mp hmem).2

end Filter

section Document

variable {contents : List ParseTree} (hcontents : ∀ t ∈ contents, Lowered t)
include hcontents

theorem lowered_of_mem_lineages :
    ∀ x ∈ (ParseTree.document contents).lineages [], (isTag x.1 = true → Lowered x.1) ∧
      ∀ u ∈ x.2, isTag u = true → Lowered u := by
  refine ParseTree.forall_lineages (P := fun u => isTag u = true → Lowered u) (by simp) _ ?_
  rintro ⟨p, u⟩ hu htag
  by_cases hp : p = []
  · subst hp
    rw [ParseTree.eq_of_nil_mem_listing hu] at htag
    simp [isTag] at htag
  · exact Lowered.of_mem_listing (t := .document contents) hcontents hp hu

variable {tokens : List Token} (hshared : ∀ t ∈ tokens, t.Shared)
include hshared

theorem settled_matches_of_styled (x : ParseTree × List ParseTree)
    (hx : x ∈ (ParseTree.document contents).lineages []) (h : Settled Styled x tokens) :
    Settled Token.Matches (ParseTree.lineageToNode x) tokens := by
  obtain ⟨hhere, habove⟩ := lowered_of_mem_lineages hcontents x hx
  have hall : ∀ u ∈ x.1 :: x.2, isTag u = true → Lowered u := List.forall_mem_cons.mpr ⟨hhere, habove⟩
  rw [settled_lineageToNode_iff]
  exact h.imp fun t ht u hu => Styled.matches (hshared t ht) (hall u hu)

theorem settled_styled_of_matches
    (hnames : ∀ t ∈ tokens, ∀ w ∈ namesOf t, ReadAlike (.document contents) w)
    (x : ParseTree × List ParseTree) (hx : x ∈ (ParseTree.document contents).lineages [])
    (h : Settled Token.Matches (ParseTree.lineageToNode x) tokens) :
    isTag x.1 = true ∧ Settled Styled x tokens := by
  have hall : ∀ u ∈ x.1 :: x.2, (isTag u = true → Lowered u) ∧ ∀ t ∈ tokens, NamesReadAlike t u := by
    obtain ⟨hhere, habove⟩ := lowered_of_mem_lineages hcontents x hx
    have halike := ParseTree.forall_lineages (P := fun u => ∀ t ∈ tokens, NamesReadAlike t u)
      (List.forall_mem_nil _) (.document contents) ?_ x hx
    · exact List.forall_mem_cons.mpr ⟨⟨hhere, halike.1⟩, fun u hu => ⟨habove u hu, halike.2 u hu⟩⟩
    · rintro ⟨p, u⟩ hu t ht name source cs rfl w hw
      exact hnames t ht w hw p name source cs hu
  rw [settled_lineageToNode_iff] at h
  have hboth := h.imp (S := fun t u => isTag u = true ∧ Styled t u) fun t ht u hu =>
    Styled.of_matches (hshared t ht) (hall u hu).1 ((hall u hu).2 t ht)
  refine ⟨?_, hboth.imp fun _ _ _ _ h => h.2⟩
  cases tokens with
  | nil => exact hboth.elim
  | cons t outer => exact hboth.1.1

end Document

/-- A style sheet selector that can be read is asked of the tags of a document. -/
theorem run_selectCss_document {text : String} {selectors : List Complex}
    (h : read text = .ok selectors) (contents : List ParseTree) (s : Session) :
    ((selectCss (.tree (.document contents)) text).run s).1 =
      .ok (.list ((ParseTree.toNodes (select selectors (.document contents))).map .node)) := by
  simp only [selectCss, h]
  rfl

open Classical in
/-- What a chain finds in a document, both times as a part of the lineages. -/
theorem finds_filter {s : Session} (hs : s.Faithful) (id : CacheId) {tokens : List Token}
    {text : String} (h : IsChain tokens text) {contents : List ParseTree}
    (hcontents : ∀ t ∈ contents, Lowered t) :
    let doc := ParseTree.document contents
    Finds s id doc text
      (((doc.lineages []).filter fun x =>
        decide (Settled Token.Matches (ParseTree.lineageToNode x) tokens.reverse)).map (·.1.toNode))
      (((doc.lineages []).filter fun x =>
        decide (isTag x.1 = true ∧ Settled Styled x tokens.reverse)).map (·.1.toNode)) where
  tree := by
    refine ⟨_, rfl, ?_⟩
    rw [run_select_chain hs id h, ParseTree.lineages_toNode, List.filter_map, List.map_map,
      List.map_map]
    rfl
  style := by
    have hfilter : (((ParseTree.document contents).lineages []).filter fun x => isTag x.1).filter
        (fun x => decide (Settled Styled x tokens.reverse)) =
          ((ParseTree.document contents).lineages []).filter
            fun x => decide (isTag x.1 = true ∧ Settled Styled x tokens.reverse) := by
      rw [List.filter_filter]
      exact List.filter_congr fun x _ => by simp [and_comm]
    rw [run_selectCss_document (read_chain h), select_chain h hcontents, hfilter,
      ParseTree.toNodes_eq_map, List.map_map, List.map_map, List.map_map]
    rfl

theorem Finds.unique {s : Session} {id : CacheId} {doc : ParseTree} {text : String}
    {found styled found' styled' : List Node} (h : Finds s id doc text found styled)
    (h' : Finds s id doc text found' styled') : found = found' ∧ styled = styled' := by
  have hnode : Function.Injective Value.node := fun _ _ h => Value.node.inj h
  obtain ⟨v, hv, hfound⟩ := h.tree
  obtain ⟨v', hv', hfound'⟩ := h'.tree
  obtain rfl : v = v' := Except.ok.inj (hv.symm.trans hv')
  exact ⟨hnode.list_map (Except.ok.inj (hfound.symm.trans hfound')),
    hnode.list_map (Value.list.inj (Except.ok.inj (h.style.symm.trans h'.style)))⟩

/-! ## One token -/

/-- A token alone is a chain. -/
theorem isChain_singleton {t : Token} (ht : t.Shared) : IsChain [t] t.text where
  shared := by simpa using ht
  layout := ⟨[], t.write, [], by simp [Token.text], isGap_nil, .last t, isGap_nil⟩

theorem shared_class {w : List Char} (hw : Text.IsAsciiName w) : Token.Shared ⟨[], none, [w]⟩ :=
  ⟨Or.inl rfl, by simp, by simpa using hw, by simp⟩

theorem shared_id {w : List Char} (hw : Text.IsAsciiName w) : Token.Shared ⟨[], some w, []⟩ :=
  ⟨Or.inl rfl, by simpa using hw, by simp, by simp⟩

section Single

variable {s : Session} (hs : s.Faithful) (id : CacheId) {contents : List ParseTree}
  (hcontents : ∀ t ∈ contents, Lowered t) {t : Token} (ht : t.Shared) {found : List Node}
  (hfound : Finds s id (.document contents) t.text found found)

include hs hcontents ht hfound

/-- If a token finds the same both ways, its conditions hold wherever in the document it matches. -/
theorem styled_of_finds {p : List Nat} {u : ParseTree}
    (hu : (p, u) ∈ (ParseTree.document contents).listing) (hmatches : t.Matches u.toNode) :
    Styled t u := by
  classical
  have hshared : ∀ v ∈ [t].reverse, v.Shared := by simpa using ht
  obtain ⟨hleft, hright⟩ := hfound.unique (finds_filter hs id (isChain_singleton ht) hcontents)
  have hmem : u ∈ ((ParseTree.document contents).lineages []).map Prod.fst := by
    rw [ParseTree.map_fst_lineages]
    exact List.mem_map.mpr ⟨(p, u), hu, rfl⟩
  obtain ⟨x, hx, rfl⟩ := List.mem_map.mp hmem
  -- both answers are parts of the lineages, one inside the other, so of one length they are the same
  have hlength := congrArg List.length (hleft.symm.trans hright)
  rw [List.length_map, List.length_map] at hlength
  have hsettled : Settled Token.Matches (ParseTree.lineageToNode x) [t].reverse :=
    ⟨hmatches, List.SublistForall₂.nil⟩
  have hboth := of_length_filter_le (fun y hy h => decide_eq_true
    (settled_matches_of_styled hcontents hshared y hy (of_decide_eq_true h).2)) hlength.le x hx
    (decide_eq_true hsettled)
  exact (of_decide_eq_true hboth).2.1

end Single

/-- If a name finds the same both ways as a class and as an id, it is read alike. -/
theorem readAlike_of_finds {s : Session} (hs : s.Faithful) (id : CacheId) {contents : List ParseTree}
    (hcontents : ∀ t ∈ contents, Lowered t) {w : List Char} (hw : Text.IsAsciiName w)
    (hclass : ∃ found, Finds s id (.document contents) (Token.text ⟨[], none, [w]⟩) found found)
    (hid : ∃ found, Finds s id (.document contents) (Token.text ⟨[], some w, []⟩) found found) :
    ReadAlike (.document contents) w := by
  intro p name source cs hmem
  have hlowered : Lowered (.tag name none source.values cs) := by
    refine Lowered.of_mem_listing (t := .document contents) hcontents (fun hp => ?_) hmem
    subst hp
    cases ParseTree.eq_of_nil_mem_listing hmem
  obtain ⟨-, hkeys, hdistinct⟩ := hlowered.of_tag
  refine ⟨fun v hv hword => ?_, fun v hv hspelled => ?_⟩
  · obtain ⟨found, hfound⟩ := hclass
    have hlooked : (ParseTree.tag name none source.values cs).toNode.attribute? "class" =
        some v.spelled := by
      rw [attribute?_toNode_tag lower_class, hv, Option.map_some]
    have hstyled := styled_of_finds hs id hcontents (shared_class hw) hfound hmem
      ⟨Or.inl rfl, by simp, by simpa [hlooked] using hword⟩
    obtain ⟨v', hv', hmem'⟩ :=
      (mem_classNames_iff hkeys hdistinct).mp (hstyled.classes w List.mem_cons_self)
    rwa [Option.some.inj (hv.symm.trans hv')]
  · obtain ⟨found, hfound⟩ := hid
    have hlooked : (ParseTree.tag name none source.values cs).toNode.attribute? "id" =
        some v.spelled := by
      rw [attribute?_toNode_tag Token.lower_id, hv, Option.map_some]
    have hstyled := styled_of_finds hs id hcontents (shared_id hw) hfound hmem
      ⟨Or.inl rfl, by simpa [hlooked] using hspelled, by simp⟩
    obtain ⟨v', hv', hparts, -⟩ :=
      (idText?_eq_some_iff hkeys hdistinct hw.ne_nil).mp (hstyled.id w rfl)
    rwa [Option.some.inj (hv.symm.trans hv')]

/-- **Chains find what style sheets find, wherever names are read alike.** In a document in lower
case, a chain of tokens that style sheets can spell finds nodes both ways, in document order. What it
finds as a style sheet selector it finds in the converted document, too. It finds nothing else there
if all attributes read its ids and classes alike; and if all chains find the same both ways, all
attributes read all names alike. They do where the blanks in class values are spaces, class values of
several parts are words, and no id has several parts. -/
theorem chains_agree_with_style_sheets {s : Session} (hs : s.Faithful) (id : CacheId)
    {contents : List ParseTree} (hcontents : ∀ t ∈ contents, Lowered t) :
    let doc := ParseTree.document contents
    (∀ tokens text, IsChain tokens text → ∃ found styled, Finds s id doc text found styled ∧
      styled.Sublist found ∧
      ((∀ t ∈ tokens, ∀ w ∈ namesOf t, ReadAlike doc w) → found = styled)) ∧
    ((∀ tokens text, IsChain tokens text → ∃ found, Finds s id doc text found found) ↔
      ∀ w, Text.IsAsciiName w → ReadAlike doc w) ∧
    ((∀ e ∈ doc.listing, PlainlyWritten e.2) → ∀ w, ReadAlike doc w) := by
  classical
  intro doc
  have hfinds : ∀ tokens text, IsChain tokens text → ∃ found styled,
      Finds s id doc text found styled ∧ styled.Sublist found ∧
      ((∀ t ∈ tokens, ∀ w ∈ namesOf t, ReadAlike doc w) → found = styled) := by
    intro tokens text h
    have hshared : ∀ t ∈ tokens.reverse, t.Shared := fun t ht => h.shared t (List.mem_reverse.mp ht)
    refine ⟨_, _, finds_filter hs id h hcontents, List.Sublist.map _ ?_, fun hnames => ?_⟩
    · rw [← filter_filter_of_imp (fun x hx h => decide_eq_true
        (settled_matches_of_styled hcontents hshared x hx (of_decide_eq_true h).2))]
      exact List.filter_sublist
    · refine congrArg _ (List.filter_congr fun x hx => decide_eq_decide.mpr ⟨fun hmatches => ?_,
        fun hstyled => settled_matches_of_styled hcontents hshared x hx hstyled.2⟩)
      exact settled_styled_of_matches hcontents hshared
        (fun t ht => hnames t (List.mem_reverse.mp ht)) x hx hmatches
  refine ⟨hfinds, ⟨fun h w hw => ?_, fun h tokens text hchain => ?_⟩, fun h w p name source cs hmem => ?_⟩
  -- a name that is read differently somewhere is told by the chain of this class, or of this id, alone
  · exact readAlike_of_finds hs id hcontents hw (h _ _ (isChain_singleton (shared_class hw)))
      (h _ _ (isChain_singleton (shared_id hw)))
  · obtain ⟨found, styled, hfound, -, heq⟩ := hfinds tokens text hchain
    obtain rfl := heq fun t ht w hw => h w (isAsciiName_of_mem_namesOf (hchain.shared t ht) hw)
    exact ⟨found, hfound⟩
  · exact (h _ hmem).readsAlike _

/-- Two tokens with spaces around them, and a class that was given word by word. -/
theorem chains_agree_with_style_sheets_nested :
    let b : ParseTree := .tag "b" none (SourceAttributes.values [("class", .list ["x", "y"])]) []
    let p : ParseTree := .tag "p" none (SourceAttributes.values [("id", .text "top")])
      [.string .plain "t", b]
    let e : Node := .element "b" (some [("class", "x y")]) []
    Lowered p ∧ PlainlyWritten p ∧ PlainlyWritten b ∧
      IsChain [⟨['P'], some ['t', 'o', 'p'], []⟩, ⟨[], none, [['y']]⟩] " P#top\n .y\t" ∧
      Finds {} .shared (.document [p]) " P#top\n .y\t" [e] [e] := by
  intro b p e
  have hlowered : Lowered p :=
    .tag (by decide) (by decide) (by decide) (List.forall_mem_cons.mpr ⟨.string,
      List.forall_mem_singleton.mpr (.tag (by decide) (by decide) (by decide) (by simp))⟩)
  have hp : PlainlyWritten p := .tag nofun fun v hv => by
    obtain rfl : SourceValue.text "top" = v := Option.some.inj hv
    rfl
  have hb : PlainlyWritten b := .tag (fun v hv => by
    obtain rfl : SourceValue.list ["x", "y"] = v := Option.some.inj hv
    rw [SourceValue.PlainlySpaced, show ["x", "y"] = Text.words "x y" by decide]
    exact fun w => Text.isWord_of_mem_words) nofun
  have hchain : IsChain [⟨['P'], some ['t', 'o', 'p'], []⟩, ⟨[], none, [['y']]⟩] " P#top\n .y\t" := by
    have htag : Text.IsAsciiName ['P'] := ⟨⟨_, _, rfl, rfl⟩, List.all_eq_true.mp rfl⟩
    have hid : Text.IsAsciiName ['t', 'o', 'p'] := ⟨⟨_, _, rfl, rfl⟩, List.all_eq_true.mp rfl⟩
    have hclass : Text.IsAsciiName ['y'] := ⟨⟨_, _, rfl, rfl⟩, List.all_eq_true.mp rfl⟩
    have hspaces : IsGap ['\n', ' '] := List.all_eq_true.mp rfl
    refine ⟨List.forall_mem_cons.mpr ⟨⟨Or.inr htag, by simpa using hid, by simp, by simp⟩,
      List.forall_mem_singleton.mpr (shared_class hclass)⟩, [' '], _, ['\t'], ?_,
      List.all_eq_true.mp rfl, .cons _ (by simp) hspaces (.last _), List.all_eq_true.mp rfl⟩
    rfl
  have hcontents : ∀ t ∈ [p], Lowered t := List.forall_mem_singleton.mpr hlowered
  obtain ⟨hfinds, -, hplain⟩ :=
    chains_agree_with_style_sheets Session.faithful_default .shared hcontents
  have hlisting : (ParseTree.document [p]).listing =
      [([], .document [p]), ([0], p), ([0, 0], .string .plain "t"), ([0, 1], b)] := rfl
  have halike := hplain (by simp [hlisting, PlainlyWritten.document, PlainlyWritten.string, hp, hb])
  obtain ⟨found, styled, hfound, -, heq⟩ := hfinds _ _ hchain
  obtain rfl := heq fun _ _ w _ => halike w
  have hselect : select [complexOf
      (List.reverse [⟨['P'], some ['t', 'o', 'p'], []⟩, ⟨[], none, [['y']]⟩])] (.document [p]) = [b] := by
    with_unfolding_all rfl
  have hstyle := hfound.style
  rw [run_selectCss_document (read_chain hchain), hselect] at hstyle
  obtain rfl : found = [e] := (Function.Injective.list_map (fun _ _ h => Value.node.inj h)
    (Value.list.inj (Except.ok.inj hstyle))).symm
  exact ⟨hlowered, hp, hb, hchain, hfound⟩

/-- A no-break space in a class value parts two classes for tokens, and none for style sheets. -/
theorem finds_no_break_space_in_value :
    Finds {} .shared
      (.document [.tag "p" none (SourceAttributes.values [("class", .text "a\u00a0b")]) []]) ".a"
      [.element "p" (some [("class", "a\u00a0b")]) []] [] where
  tree := ⟨.node (.document [.element "p" (some [("class", "a\u00a0b")]) []]),
    by with_unfolding_all rfl, by with_unfolding_all rfl⟩
  style := by
    have hname : Text.IsAsciiName ['a'] := ⟨⟨'a', [], rfl, rfl⟩, List.all_eq_true.mp rfl⟩
    have hselect : select [complexOf [⟨[], none, [['a']]⟩].reverse] (.document
        [.tag "p" none (SourceAttributes.values [("class", .text "a\u00a0b")]) []]) = [] := by
      with_unfolding_all rfl
    have hchain : IsChain [⟨[], none, [['a']]⟩] ".a" := isChain_singleton (shared_class hname)
    rw [run_selectCss_document (read_chain hchain), hselect]
    rfl

/-- A no-break space in a selector parts two tokens, and is a part of a name in a style sheet. -/
theorem finds_no_break_space_in_text :
    Finds {} .shared (.document [.tag "p" none (SourceAttributes.values [("class", .text "a")])
      [.tag "b" none (SourceAttributes.values []) []]]) ".a\u00a0b" [.element "b" none []] [] where
  tree := ⟨.node (.document [.element "p" (some [("class", "a")]) [.element "b" none []]]),
    by with_unfolding_all rfl, by with_unfolding_all rfl⟩
  style := by
    obtain ⟨selectors, hread, hnone⟩ := map_eq_ok_iff.mp (show (read ".a\u00a0b").map (fun selectors =>
      (select selectors (.document [.tag "p" none (SourceAttributes.values [("class", .text "a")])
        [.tag "b" none (SourceAttributes.values []) []]])).isEmpty) = .ok true by decide +kernel)
    rw [run_selectCss_document hread, List.isEmpty_iff.mp hnone]
    rfl

/-- A no-break space is a blank to tokens and a letter to style sheets, in a class and between two
tokens. -/
theorem chains_disagree_at_no_break_space :
    let p : ParseTree := .tag "p" none (SourceAttributes.values [("class", .text "a\u00a0b")]) []
    let e : Node := .element "p" (some [("class", "a\u00a0b")]) []
    let b : ParseTree := .tag "b" none (SourceAttributes.values []) []
    let q : ParseTree := .tag "p" none (SourceAttributes.values [("class", .text "a")]) [b]
    Lowered p ∧ IsChain [⟨[], none, [['a']]⟩] ".a" ∧
      Finds {} .shared (.document [p]) ".a" [e] [] ∧
      (¬ ∃ found, Finds {} .shared (.document [p]) ".a" found found) ∧
      Lowered q ∧ Finds {} .shared (.document [q]) ".a\u00a0b" [.element "b" none []] [] := by
  intro p e b q
  have hname : Text.IsAsciiName ['a'] := ⟨⟨'a', [], rfl, rfl⟩, List.all_eq_true.mp rfl⟩
  refine ⟨.tag (by decide) (by decide) (by decide) (by simp), isChain_singleton (shared_class hname),
    finds_no_break_space_in_value, ?_, ?_, finds_no_break_space_in_text⟩
  · rintro ⟨found, hfound⟩
    obtain ⟨hleft, hright⟩ := finds_no_break_space_in_value.unique hfound
    exact List.cons_ne_nil _ _ (hleft.trans hright.symm)
  · exact .tag (by decide) (by decide) (by decide) (List.forall_mem_singleton.mpr
      (.tag (by decide) (by decide) (by decide) (by simp)))

end MarkupQuery.Markup.Css
