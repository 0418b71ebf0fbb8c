import MarkupQuery.Proofs.Selector.Chain
import MarkupQuery.Proofs.Selector.Outlook

/-!
# Chains in front of chains

A chain may be the first link of another. The inner chain is then asked about ancestors like any link,
and at each of them it looks for places of its own further up. A flat chain of all the links commits to
the nearest ancestor that its last inner link will do with, and goes on from there. Both find a place
for every link when there is one: settling links greedily loses nothing, so what is to be had from an
ancestor further up is to be had from the nearest one.

Main statement: `Selector.chain_in_front_is_flat`.
-/

namespace MarkupQuery
namespace Selector

/-- A chain of links with answers has answers. -/
theorem isTotal_chain {links : List Selector} (h : ∀ p ∈ links, p.IsTotal) :
    (chain links).IsTotal := by
  intro l
  rcases List.eq_nil_or_concat' links with rfl | ⟨outer, last, rfl⟩
  · exact ⟨true, Probe.yields_pure true⟩
  · obtain ⟨b, hb, -⟩ := chain_yields_of_isTotal h l
    exact ⟨b, hb⟩

/-- Above a position, a chain can be settled as one link or link by link. -/
theorem sublistForall₂_concat_chain {outer : List Selector} {last : Selector}
    (h : ∀ p ∈ outer ++ [last], p.IsTotal) (links : List Selector) (l : Location) :
    List.SublistForall₂ HoldsAt (links ++ [chain (outer ++ [last])]) l.ancestors ↔
      List.SublistForall₂ HoldsAt (links ++ last :: outer.reverse) l.ancestors := by
  fun_induction Location.ancestors l generalizing links with
  | case1 l hup => cases links <;> exact iff_of_false (by rintro ⟨⟩) (by rintro ⟨⟩)
  | case2 l p hup ih =>
    cases links with
    | nil =>
      obtain ⟨b, hb, hiff⟩ := chain_yields_of_isTotal h p
      have hhere : (chain (outer ++ [last])).HoldsAt p ↔
          last.HoldsAt p ∧ List.SublistForall₂ HoldsAt outer.reverse p.ancestors :=
        (holdsAt_iff_of_yields hb).trans hiff
      rw [List.nil_append, List.nil_append, sublistForall₂_cons_cons_iff,
        sublistForall₂_cons_cons_iff, hhere, and_iff_left List.SublistForall₂.nil]
      exact or_congr Iff.rfl (ih [])
    | cons q links =>
      rw [List.cons_append, List.cons_append, sublistForall₂_cons_cons_iff,
        sublistForall₂_cons_cons_iff]
      exact or_congr (and_congr Iff.rfl (ih links)) (ih (q :: links))

/-- A chain in front of further links says what the chain of all of them says. -/
theorem chain_cons_chain {ps qs : List Selector} (hne : ps ≠ []) (hp : ∀ p ∈ ps, p.IsTotal)
    (hq : ∀ q ∈ qs, q.IsTotal) (l : Location) :
    ∃ b, ((chain (chain ps :: qs)).holds (.position l)).Yields b ∧
      ((chain (ps ++ qs)).holds (.position l)).Yields b := by
  have hchain := isTotal_chain hp
  rcases List.eq_nil_or_concat' qs with rfl | ⟨qs, last, rfl⟩
  · rw [chain_singleton, List.append_nil]
    exact (hchain l).imp fun b hb => ⟨hb, hb⟩
  · obtain ⟨ps, inner, rfl⟩ := (List.eq_nil_or_concat' ps).resolve_left hne
    have hnested : ∀ p ∈ chain (ps ++ [inner]) :: qs ++ [last], p.IsTotal := by
      rw [List.cons_append]
      exact List.forall_mem_cons.mpr ⟨hchain, hq⟩
    have hflat : ∀ p ∈ ps ++ [inner] ++ qs ++ [last], p.IsTotal := by
      rw [List.append_assoc]
      exact List.forall_mem_append.mpr ⟨hp, hq⟩
    obtain ⟨b, hb, hbiff⟩ := chain_yields_of_isTotal hnested l
    obtain ⟨c, hc, hciff⟩ := chain_yields_of_isTotal hflat l
    have hsame : b = c := by
      rw [Bool.eq_iff_iff, hbiff, hciff, List.reverse_cons, List.reverse_append,
        List.reverse_concat', sublistForall₂_concat_chain hp]
    rw [List.cons_append] at hb
    rw [List.append_assoc, ← hsame] at hc
    exact ⟨b, hb, hc⟩

/-! ## Compiled chains -/

theorem IsBuiltIn.isTotal {p : Selector} (h : p.IsBuiltIn) : p.IsTotal := by
  intro l
  obtain ⟨b, hb, -⟩ := h.goesByOutlook (.position l) (.position l) rfl
  exact ⟨b, hb ▸ Probe.yields_pure b⟩

end Selector

namespace Query

/-- A text that compiles is the chain of its tokens. -/
theorem exists_links_of_compile_text {s : String} {p : Selector}
    (h : (Query.text s).compile = .ok p) :
    ∃ links, ((Text.words s).map ChainElement.token).mapM ChainElement.compile = .ok links ∧
      p = Selector.chain links ∧ ∀ q ∈ links, q.IsTotal := by
  have hnormal : (Query.text s).normalise = .ok ((Text.words s).map .token) := rfl
  rw [compile_eq_of_normalise hnormal, compileElements] at h
  obtain ⟨links, hlinks, hp⟩ := bind_eq_ok_iff.mp h
  refine ⟨links, hlinks, (Except.ok.inj hp).symm, fun q hq => ?_⟩
  obtain ⟨e, he, hcompile⟩ := exists_element_of_mem_links hlinks q hq
  obtain ⟨w, -, rfl⟩ := List.mem_map.mp he
  exact (Selector.IsBuiltIn.token hcompile).isTotal

theorem ne_nil_of_mapM_eq_ok {elements : List ChainElement} {links : List Selector}
    (hne : elements ≠ []) (h : elements.mapM ChainElement.compile = .ok links) : links ≠ [] := by
  obtain ⟨e, es, rfl⟩ := List.exists_cons_of_ne_nil hne
  rw [List.mapM_cons] at h
  obtain ⟨first, -, h⟩ := bind_eq_ok_iff.mp h
  obtain ⟨rest, -, h⟩ := bind_eq_ok_iff.mp h
  rw [← Except.ok.inj h]
  exact List.cons_ne_nil first rest

variable {a b sep : String} {p : Selector} {inner outer : List Selector}

/-- A selector in front of a text. -/
theorem compile_list_selector_text
    (h : ((Text.words b).map ChainElement.token).mapM ChainElement.compile = .ok inner) :
    (Query.list [.selector p, .text b]).compile = .ok (.chain (p :: inner)) := by
  have hnormal : (Query.list [.selector p, .text b]).normalise =
      .ok (.selector p :: ((Text.words b).map .token ++ [])) := rfl
  rw [compile_eq_of_normalise hnormal, compileElements, List.mapM_cons, List.append_nil, h]
  rfl

/-- A text followed by another, with blanks in between. -/
theorem compile_text_append (hne : sep ≠ "") (hsep : ∀ c ∈ sep.toList, Text.isBlank c = true)
    (ha : ((Text.words a).map ChainElement.token).mapM ChainElement.compile = .ok outer)
    (hb : ((Text.words b).map ChainElement.token).mapM ChainElement.compile = .ok inner) :
    (Query.text (a ++ sep ++ b)).compile = .ok (.chain (outer ++ inner)) := by
  have hnormal : (Query.text (a ++ sep ++ b)).normalise =
      .ok ((Text.words a).map .token ++ (Text.words b).map .token) := by
    rw [normalise, Text.words_append a b hne hsep, List.map_append]
  rw [compile_eq_of_normalise hnormal, compileElements, List.mapM_append, ha, hb]
  rfl

end Query

namespace Selector

/-- **A chain in front of further links can be written flat.** The chain that begins with a chain gives
the same answer everywhere as the chain of all the links. So a text that is compiled already, followed
by another text, matches what both texts match when they are written one after the other. -/
theorem chain_in_front_is_flat :
    (∀ ps qs : List Selector, ps ≠ [] → (∀ p ∈ ps, p.IsTotal) → (∀ q ∈ qs, q.IsTotal) →
      ∀ l : Location, ∃ verdict, ((chain (chain ps :: qs)).holds (.position l)).Yields verdict ∧
        ((chain (ps ++ qs)).holds (.position l)).Yields verdict) ∧
    ∀ (a sep b : String) (pa pb : Selector), (Query.text a).compile = .ok pa →
      (Query.text b).compile = .ok pb → Text.words a ≠ [] →
      sep ≠ "" → (∀ c ∈ sep.toList, Text.isBlank c = true) →
      ∃ nested flat, (Query.list [.selector pa, .text b]).compile = .ok nested ∧
        (Query.text (a ++ sep ++ b)).compile = .ok flat ∧
        ∀ l : Location, ∃ verdict, (nested.holds (.position l)).Yields verdict ∧
          (flat.holds (.position l)).Yields verdict := by
  refine ⟨fun ps qs hne hp hq l => chain_cons_chain hne hp hq l, ?_⟩
  intro a sep b pa pb ha hb hwords hne hsep
  obtain ⟨ps, hps, rfl, hp⟩ := Query.exists_links_of_compile_text ha
  obtain ⟨qs, hqs, -, hq⟩ := Query.exists_links_of_compile_text hb
  have hsome : ps ≠ [] := Query.ne_nil_of_mapM_eq_ok (fun h => hwords (List.map_eq_nil_iff.mp h)) hps
  exact ⟨_, _, Query.compile_list_selector_text hqs, Query.compile_text_append hne hsep hps hqs,
    chain_cons_chain hsome hp hq⟩

/-- Tests of the kind, and tokens, two in front and one behind. -/
theorem chain_in_front_is_flat_two_and_one :
    (∀ l : Location, ∃ verdict,
      ((chain (chain [ofKind [.document], ofKind [.element]] :: [ofKind [.text]])).holds
        (.position l)).Yields verdict ∧
      ((chain ([ofKind [.document], ofKind [.element]] ++ [ofKind [.text]])).holds
        (.position l)).Yields verdict) ∧
    ∃ pa nested flat, (Query.text "ul li").compile = .ok pa ∧
      (Query.list [.selector pa, .text "a"]).compile = .ok nested ∧
      (Query.text ("ul li" ++ " " ++ "a")).compile = .ok flat ∧
      ∀ l : Location, ∃ verdict, (nested.holds (.position l)).Yields verdict ∧
        (flat.holds (.position l)).Yields verdict := by
  obtain ⟨hchains, htexts⟩ := chain_in_front_is_flat
  have hkinds (kinds : List Kind) : (ofKind kinds).IsTotal := isTotal_looking _ _
  obtain ⟨pa, ha⟩ := Query.exists_compile_eq_ok (q := .text "ul li") (by decide +kernel)
  obtain ⟨pb, hb⟩ := Query.exists_compile_eq_ok (q := .text "a") (by decide +kernel)
  obtain ⟨nested, flat, hnested, hflat, hsame⟩ :=
    htexts "ul li" " " "a" pa pb ha hb (by decide) (by decide)
      (List.forall_mem_singleton.mpr (by decide))
  exact ⟨hchains _ _ (List.cons_ne_nil _ _) (by simp [hkinds]) (by simp [hkinds]),
    pa, nested, flat, ha, hnested, hflat, hsame⟩

end Selector
end MarkupQuery
