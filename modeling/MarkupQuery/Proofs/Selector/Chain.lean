import Mathlib.Data.List.Forall2
import MarkupQuery.Proofs.Selector.Answer
import MarkupQuery.Proofs.Tree.Ancestor

/-!
# Chains find every match

A chain settles each of its links, last first, at the nearest ancestor that will do, and never goes
back. This loses nothing: a link that could be settled further up leaves fewer ancestors to the
links before it (`sublistForall₂_cons_of_pos`). So a chain holds exactly where its links can be
settled at some ancestors in order.

Main statement: `Selector.chain_holdsAt_iff`.
-/

namespace MarkupQuery

/-! ## Settling links greedily -/

section Greedy

variable {α β : Type} {R : α → β → Prop}

theorem sublistForall₂_of_cons {x : α} {xs : List α} {ys : List β}
    (h : List.SublistForall₂ R (x :: xs) ys) : List.SublistForall₂ R xs ys := by
  induction ys with
  | nil => cases h
  | cons y ys ih =>
    cases h with
    | cons _ h => exact h.cons_right
    | cons_right h => exact (ih h).cons_right

/-- Taking the first member that will do loses no match. -/
theorem sublistForall₂_cons_of_pos {x : α} {xs : List α} {y : β} {ys : List β} (hxy : R x y) :
    List.SublistForall₂ R (x :: xs) (y :: ys) ↔ List.SublistForall₂ R xs ys := by
  constructor
  · intro h
    cases h with
    | cons _ h => exact h
    | cons_right h => exact sublistForall₂_of_cons h
  · exact List.SublistForall₂.cons hxy

theorem sublistForall₂_cons_of_neg {x : α} {xs : List α} {y : β} {ys : List β} (hxy : ¬ R x y) :
    List.SublistForall₂ R (x :: xs) (y :: ys) ↔ List.SublistForall₂ R (x :: xs) ys := by
  constructor
  · intro h
    cases h with
    | cons h _ => exact absurd h hxy
    | cons_right h => exact h
  · exact List.SublistForall₂.cons_right

/-- The first of the links is settled at the first place or further on. -/
theorem sublistForall₂_cons_cons_iff {x : α} {xs : List α} {y : β} {ys : List β} :
    List.SublistForall₂ R (x :: xs) (y :: ys) ↔
      (R x y ∧ List.SublistForall₂ R xs ys) ∨ List.SublistForall₂ R (x :: xs) ys := by
  constructor
  · intro h
    cases h with
    | cons hxy h => exact Or.inl ⟨hxy, h⟩
    | cons_right h => exact Or.inr h
  · rintro (⟨hxy, h⟩ | h)
    · exact h.cons hxy
    · exact h.cons_right

theorem sublistForall₂_singleton_iff {x : α} {ys : List β} :
    List.SublistForall₂ R [x] ys ↔ ∃ y ∈ ys, R x y := by
  induction ys with
  | nil => exact iff_of_false (by rintro ⟨⟩) (by simp)
  | cons y ys ih =>
    rw [sublistForall₂_cons_cons_iff, ih, List.exists_mem_cons_iff]
    simp [List.SublistForall₂.nil]

end Greedy

namespace Selector

/-- The walk over the ancestors answers, and says whether the links hold at some of them in order. -/
theorem linksHold_yields : ∀ (links : List Selector) (above : List Location),
    (∀ p ∈ links, ∀ a ∈ above, p.AnswersAt a) →
    ∃ b, (linksHold links (above.map .position)).Yields b ∧
      (b = true ↔ List.SublistForall₂ HoldsAt links above)
  | [], _, _ => by
    rw [linksHold]
    exact ⟨true, Probe.yields_pure _, iff_of_true rfl List.SublistForall₂.nil⟩
  | _ :: _, [], _ => by
    rw [List.map_nil, linksHold]
    exact ⟨false, Probe.yields_pure _, iff_of_false Bool.false_ne_true (by rintro ⟨⟩)⟩
  | p :: ps, a :: above, h => by
    rw [List.map_cons, linksHold]
    obtain ⟨here, hhere⟩ := h p List.mem_cons_self a List.mem_cons_self
    have habove : ∀ q ∈ p :: ps, ∀ l ∈ above, q.AnswersAt l :=
      fun q hq l hl => h q hq l (List.mem_cons_of_mem _ hl)
    cases here with
    | true =>
      have hyes : p.HoldsAt a := hhere
      obtain ⟨b, hb, hiff⟩ := linksHold_yields ps above fun q hq => habove q (List.mem_cons_of_mem _ hq)
      exact ⟨b, hhere.bind hb, hiff.trans (sublistForall₂_cons_of_pos hyes).symm⟩
    | false =>
      -- the same link goes on with the ancestors further up
      have hno : ¬ p.HoldsAt a := by simp [holdsAt_iff_of_yields hhere]
      obtain ⟨b, hb, hiff⟩ := linksHold_yields (p :: ps) above habove
      exact ⟨b, hhere.bind hb, hiff.trans (sublistForall₂_cons_of_neg hno).symm⟩

theorem chain_singleton (last : Selector) : chain [last] = last := rfl

theorem chain_holds {outer : List Selector} (h : outer ≠ []) (last : Selector) (s : Subject) :
    (chain (outer ++ [last])).holds s = (do
      if ← last.holds s then linksHold outer.reverse s.ancestors else pure false) := by
  unfold chain
  rw [List.reverse_append, List.reverse_singleton, List.singleton_append]
  cases hrev : outer.reverse with
  | nil => exact absurd (List.reverse_eq_nil_iff.mp hrev) h
  | cons p ps => rfl

/-- Where its links have answers, at the position and above, a chain has one, too. -/
theorem chain_yields {outer : List Selector} {last : Selector} {l : Location}
    (h : ∀ p ∈ outer ++ [last], ∀ a ∈ l :: l.ancestors, p.AnswersAt a) :
    ∃ b, ((chain (outer ++ [last])).holds (.position l)).Yields b ∧
      (b = true ↔ last.HoldsAt l ∧ List.SublistForall₂ HoldsAt outer.reverse l.ancestors) := by
  obtain ⟨here, hhere⟩ := h last (List.mem_append_right _ List.mem_cons_self) l List.mem_cons_self
  have hlast : last.HoldsAt l ↔ here = true := holdsAt_iff_of_yields hhere
  -- a single link is asked as it is, without a walk
  by_cases hne : outer = []
  · subst hne
    rw [List.nil_append, chain_singleton]
    exact ⟨here, hhere, by simp [hlast, List.SublistForall₂.nil]⟩
  · rw [chain_holds hne]
    obtain ⟨b, hb, hiff⟩ := linksHold_yields outer.reverse l.ancestors
      fun p hp a ha => h p (List.mem_append_left _ (List.mem_reverse.mp hp)) a
        (List.mem_cons_of_mem _ ha)
    cases here with
    | true => exact ⟨b, hhere.bind hb, by rw [hiff, hlast]; simp⟩
    | false => exact ⟨false, hhere.bind (Probe.yields_pure _), by rw [hlast]; simp⟩

theorem chain_yields_of_isTotal {outer : List Selector} {last : Selector}
    (h : ∀ p ∈ outer ++ [last], p.IsTotal) (l : Location) :
    ∃ b, ((chain (outer ++ [last])).holds (.position l)).Yields b ∧
      (b = true ↔ last.HoldsAt l ∧ List.SublistForall₂ HoldsAt outer.reverse l.ancestors) :=
  chain_yields fun p hp a _ => h p hp a

/-- Settling the outer links, last first, at ancestors from the nearest up is finding a place for
each of them, outermost first, that lies strictly above the next one. -/
theorem exists_above_iff (outer : List Selector) (l : Location) :
    List.SublistForall₂ HoldsAt outer.reverse l.ancestors ↔
      ∃ above, List.Forall₂ HoldsAt outer above ∧
        (above ++ [l]).IsChain Location.StrictAncestor := by
  rw [List.sublistForall₂_iff]
  constructor
  · rintro ⟨picked, hall, hsub⟩
    refine ⟨picked.reverse, ?_, ?_⟩
    · rw [← List.forall₂_reverse_iff, List.reverse_reverse]
      exact hall
    · rw [← List.reverse_cons, List.isChain_reverse]
      exact (Location.sublist_ancestors_iff l picked).mp hsub
  · rintro ⟨above, hall, hchain⟩
    refine ⟨above.reverse, List.forall₂_reverse_iff.mpr hall, ?_⟩
    rw [Location.sublist_ancestors_iff, ← List.isChain_reverse, List.reverse_cons,
      List.reverse_reverse]
    exact hchain

/-- **A chain finds every match.** It has an answer everywhere, and it holds at a position exactly
when its last link does and the other links hold at some positions, each strictly above the next. -/
theorem chain_holdsAt_iff {outer : List Selector} {last : Selector}
    (h : ∀ p ∈ outer ++ [last], p.IsTotal) (l : Location) :
    (∃ b, ((chain (outer ++ [last])).holds (.position l)).Yields b) ∧
      ((chain (outer ++ [last])).HoldsAt l ↔
        last.HoldsAt l ∧ ∃ above, List.Forall₂ HoldsAt outer above ∧
          (above ++ [l]).IsChain Location.StrictAncestor) := by
  obtain ⟨b, hb, hiff⟩ := chain_yields_of_isTotal h l
  refine ⟨⟨b, hb⟩, ?_⟩
  rw [← exists_above_iff, ← hiff]
  exact holdsAt_iff_of_yields hb

/-- The same test twice over a text: both elements around it are needed. -/
theorem chain_holdsAt_iff_nested :
    ∃ l, (Location.ofRoot (.element "ul" none [.element "li" none [.text "x"]])).descend? [0, 0]
        = some l ∧
      (∀ p ∈ [ofKind [.element], ofKind [.element]] ++ [ofKind [.text]], p.IsTotal) ∧
      (chain ([ofKind [.element], ofKind [.element]] ++ [ofKind [.text]])).HoldsAt l := by
  have htotal : ∀ p ∈ [ofKind [.element], ofKind [.element]] ++ [ofKind [.text]], p.IsTotal := by
    simp [ofKind, isTotal_looking]
  let ul : Node := .element "ul" none [.element "li" none [.text "x"]]
  let li : Location := ⟨.element "li" none [.text "x"], [⟨ul, [], [], false⟩], false, false⟩
  refine ⟨_, rfl, htotal, (chain_holdsAt_iff htotal _).2.mpr ⟨?_, [.ofRoot ul, li], ?_, ?_⟩⟩
  · exact holdsAt_looking_iff.mpr rfl
  · exact .cons (holdsAt_looking_iff.mpr rfl) (.cons (holdsAt_looking_iff.mpr rfl) .nil)
  · exact .cons_cons (.single rfl) (.cons_cons (.single rfl) (.singleton _))

end Selector
end MarkupQuery
