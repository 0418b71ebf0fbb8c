import Mathlib.Data.List.Forall2
import MarkupQuery.Proofs.Selector.Normal
import MarkupQuery.Proofs.Steps

/-!
# Canonical names

It does not matter how the tokens of a chain are spread over texts: a list of texts has the elements
of the texts joined with spaces, which are those of the first, then those of the second, and so on.
Nor does it matter how often they are cut. A compiled chain is named by its tokens with a space
between two of them, and the name is a text that compiles to the chain again. So the name of a chain
stands for all the ways to write it.

Main statement: `Query.normalising_is_canonical`.
-/

namespace MarkupQuery

/-! ## Names -/

namespace Selector

theorem name_ofToken {s : String} {p : Selector} (hne : s ≠ "") (h : ofToken s = .ok p) :
    p.name = s := by
  rw [ofToken] at h
  split at h
  · rw [← Except.ok.inj h]
    exact if_neg (mt String.isEmpty_iff.mp hne)
  · cases h

theorem name_chain {links : List Selector} (hne : links ≠ []) :
    (chain links).name = joinedNames links " " := by
  obtain ⟨outer, last, rfl⟩ := (List.eq_nil_or_concat' links).resolve_left hne
  unfold chain
  rw [List.reverse_append, List.reverse_singleton, List.singleton_append]
  cases hrev : outer.reverse with
  | nil =>
    obtain rfl := List.reverse_eq_nil_iff.mp hrev
    exact String.intercalate_singleton.symm
  | cons p ps => rfl

end Selector

namespace Query

/-- The links of a chain are named by its tokens. -/
theorem map_name_of_mapM_eq_ok {key : List String} {links : List Selector}
    (hne : ∀ w ∈ key, w ≠ "")
    (h : (key.map ChainElement.token).mapM ChainElement.compile = .ok links) :
    links.map Selector.name = key := by
  induction key generalizing links with
  | nil =>
    obtain rfl := Except.ok.inj h
    rfl
  | cons w key ih =>
    obtain ⟨hw, hkey⟩ := List.forall_mem_cons.mp hne
    rw [List.map_cons, List.mapM_cons] at h
    obtain ⟨first, hfirst, h⟩ := bind_eq_ok_iff.mp h
    obtain ⟨rest, hrest, h⟩ := bind_eq_ok_iff.mp h
    obtain rfl := Except.ok.inj h
    rw [List.map_cons, Selector.name_ofToken hw hfirst, ih hkey hrest]

/-! ## Elements -/

theorem sequenceElements_map_text (xs : List String) :
    sequenceElements (xs.map .text) = .ok ((xs.flatMap Text.words).map .token) := by
  induction xs with
  | nil => rfl
  | cons x xs ih =>
    rw [List.map_cons, sequenceElements, ih, List.flatMap_cons, List.map_append]
    rfl

theorem normalise_text_intercalate (xs : List String) :
    (text (String.intercalate " " xs)).normalise = .ok ((xs.flatMap Text.words).map .token) := by
  rw [normalise, Text.words_intercalate]

/-- The tokens among the elements of a query are words. -/
theorem isWord_of_token_mem {q : Query} {elements : List ChainElement} {w : String}
    (h : q.normalise = .ok elements) (hw : .token w ∈ elements) : Text.IsWord w := by
  -- an element of a query is cut no further, so what it is cut into is itself
  have halone := normalise_toQuery h _ hw
  have hwords : (Text.words w).map ChainElement.token = [.token w] := Except.ok.inj halone
  have hmem : ChainElement.token w ∈ (Text.words w).map ChainElement.token := by
    rw [hwords]
    exact List.mem_singleton_self _
  obtain ⟨v, hv, hvw⟩ := List.mem_map.mp hmem
  rw [← ChainElement.token.inj hvw]
  exact Text.isWord_of_mem_words hv

/-- The name of a chain of tokens is a text that compiles to the chain. -/
theorem name_of_compile {q : Query} {key : List String} {p : Selector}
    (h : q.normalise = .ok (key.map .token)) (hne : key ≠ []) (hp : q.compile = .ok p) :
    p.name = String.intercalate " " key ∧ (text p.name).compile = .ok p := by
  have hwords : ∀ w ∈ key, Text.IsWord w :=
    fun w hw => isWord_of_token_mem h (List.mem_map_of_mem hw)
  have hname : p.name = String.intercalate " " key := by
    rw [compile_eq_of_normalise h] at hp
    obtain ⟨links, hlinks, hchain⟩ := bind_eq_ok_iff.mp hp
    have hnames := map_name_of_mapM_eq_ok (fun w hw => (hwords w hw).1) hlinks
    have hlinksne : links ≠ [] := by
      rintro rfl
      exact hne hnames.symm
    rw [← Except.ok.inj hchain, Selector.name_chain hlinksne, Selector.joinedNames, hnames]
  have hagain : (text p.name).normalise = .ok (key.map .token) := by
    rw [normalise, hname, Text.words_intercalate_of_isWord hwords]
  exact ⟨hname, by rw [compile_eq_of_normalise hagain, ← compile_eq_of_normalise h, hp]⟩

/-- **Normalising makes chains canonical.** A list or tuple of texts has the elements of the texts
joined with spaces, and those are the elements of its members one after the other. What has been
normalised stays as it is, and its tokens are words: not empty, and without a blank. A chain of
tokens that compiles is named by its tokens with single spaces in between, and its name compiles to
the same selector. -/
theorem normalising_is_canonical :
    (∀ xs : List String, ∃ parts,
      List.Forall₂ (fun x part => (text x).normalise = .ok part) xs parts ∧
      (text (String.intercalate " " xs)).normalise = .ok parts.flatten ∧
      (list (xs.map .text)).normalise = .ok parts.flatten ∧
      (tuple (xs.map .text)).normalise = .ok parts.flatten) ∧
    (∀ (q : Query) (elements : List ChainElement), q.normalise = .ok elements →
      (ofElements elements).normalise = .ok elements ∧
      ∀ w, .token w ∈ elements → Text.IsWord w) ∧
    ∀ (q : Query) (key : List String) (p : Selector), q.normalise = .ok (key.map .token) →
      key ≠ [] → q.compile = .ok p →
      p.name = String.intercalate " " key ∧ (text p.name).compile = .ok p := by
  refine ⟨fun xs => ?_, fun q elements h => ?_, fun q key p h hne hp => name_of_compile h hne hp⟩
  · have hflat : (xs.map fun x => (Text.words x).map ChainElement.token).flatten =
        (xs.flatMap Text.words).map .token := by
      rw [List.map_flatMap, List.flatMap]
    refine ⟨xs.map fun x => (Text.words x).map .token, ?_, ?_⟩
    · exact List.forall₂_map_right_iff.mpr (List.forall₂_same.mpr fun x _ => rfl)
    · rw [hflat]
      have hsequence := sequenceElements_map_text xs
      exact ⟨normalise_text_intercalate xs, hsequence, hsequence⟩
  · exact ⟨normalise_ofElements h, fun w hw => isWord_of_token_mem h hw⟩

/-- Three tokens in two texts with more blanks than needed. -/
theorem normalising_is_canonical_three_tokens :
    ∃ p, (list [.text " ul \t li", .text "a.x\n"]).compile = .ok p ∧
      p.name = "ul li a.x" ∧ (text "ul li a.x").compile = .ok p := by
  obtain ⟨p, hp⟩ := exists_compile_eq_ok (q := list [.text " ul \t li", .text "a.x\n"])
    (by decide +kernel)
  have hnormal : (list [.text " ul \t li", .text "a.x\n"]).normalise =
      .ok (["ul", "li", "a.x"].map .token) := by with_unfolding_all rfl
  obtain ⟨hname, hagain⟩ :=
    normalising_is_canonical.2.2 _ ["ul", "li", "a.x"] p hnormal (by simp) hp
  rw [hname] at hagain
  exact ⟨p, hp, hname, hagain⟩

end Query
end MarkupQuery
