import Mathlib.Data.List.Basic
import Mathlib.Data.List.TakeWhile
import MarkupQuery.Proofs.Text.Words

/-!
# Cutting at separators

Texts are cut into words in two ways: at blanks, which include separators far beyond ASCII, and at
the few spaces of style sheets. The two differ in what they cut at and in nothing else: each leaves a
text without a separator whole and never cuts across one (`CutsAt`). So either way the words are the
runs of a text that a separator, or the end of the text, stands on both sides of
(`CutsAt.mem_iff`).
-/

namespace MarkupQuery.Text

/-- A way to cut texts at separators: what has none is a word, and texts with one between them are
cut apart. -/
structure CutsAt (sep : Char → Bool) (cut : List Char → List (List Char)) : Prop where
  nil : cut [] = []
  word : ∀ w, w ≠ [] → (∀ c ∈ w, sep c = false) → cut w = [w]
  apart : ∀ c, sep c = true → ∀ cs ds, cut (cs ++ c :: ds) = cut cs ++ cut ds

/-- A part of a text that has no separator in it and cannot be made longer without one. -/
structure IsRun (sep : Char → Bool) (w cs : List Char) : Prop where
  ne_nil : w ≠ []
  whole : ∀ c ∈ w, sep c = false
  bounded : ∃ before after, cs = before ++ w ++ after ∧ (∀ c ∈ before.getLast?, sep c = true) ∧
    ∀ c ∈ after.head?, sep c = true

section Cutting

variable {sep : Char → Bool} {cut : List Char → List (List Char)} {w cs : List Char}

/-- Behind a separator the runs are those of the text there. -/
theorem IsRun.append_cons {c : Char} {ds : List Char} (hc : sep c = true) (h : IsRun sep w ds)
    (cs : List Char) : IsRun sep w (cs ++ c :: ds) := by
  obtain ⟨hne, hwhole, before, after, rfl, hbefore, hafter⟩ := h
  refine ⟨hne, hwhole, cs ++ c :: before, after, by simp, fun b hb => ?_, hafter⟩
  cases before with
  | nil =>
    obtain rfl : c = b := by simpa using hb
    exact hc
  | cons d before =>
    rw [List.getLast?_append_of_ne_nil _ (List.cons_ne_nil _ _), List.getLast?_cons_cons] at hb
    exact hbefore b hb

namespace CutsAt

variable (h : CutsAt sep cut)
include h

theorem cons {c : Char} (hc : sep c = true) (cs : List Char) : cut (c :: cs) = cut cs := by
  rw [← List.nil_append (c :: cs), h.apart c hc, h.nil, List.nil_append]

/-- Separators in front make no word. -/
theorem append_left {gap : List Char} (hgap : ∀ c ∈ gap, sep c = true) (cs : List Char) :
    cut (gap ++ cs) = cut cs := by
  induction gap with
  | nil => rfl
  | cons c gap ih =>
    rw [List.cons_append, h.cons (hgap c List.mem_cons_self),
      ih fun d hd => hgap d (List.mem_cons_of_mem _ hd)]

/-- Separators between two texts, or behind a text, cut once. -/
theorem append_gap {gap : List Char} (hgap : ∀ c ∈ gap, sep c = true) (cs : List Char)
    {ds : List Char} (hend : gap = [] → ds = []) : cut (cs ++ (gap ++ ds)) = cut cs ++ cut ds := by
  cases gap with
  | nil => rw [hend rfl, h.nil, List.nil_append, List.append_nil, List.append_nil]
  | cons c gap =>
    rw [List.cons_append, h.apart c (hgap c List.mem_cons_self),
      h.append_left fun d hd => hgap d (List.mem_cons_of_mem _ hd)]

/-- **The words are the runs.** -/
theorem mem_iff : w ∈ cut cs ↔ IsRun sep w cs := by
  constructor
  · intro hw
    -- by the length of what stands behind the first separator
    induction hn : cs.length using Nat.strong_induction_on generalizing cs with
    | _ n ih =>
      have hfirst : ∀ c ∈ cs.takeWhile fun c => !sep c, sep c = false := fun c hc => by
        simpa using List.mem_takeWhile_imp hc
      have hsplit := List.takeWhile_append_dropWhile (p := fun c => !sep c) (l := cs)
      generalize cs.takeWhile (fun c => !sep c) = first at hfirst hsplit
      have hhere (hmem : w ∈ cut first) : w = first ∧ first ≠ [] := by
        by_cases hne : first = []
        · simp [hne, h.nil] at hmem
        · rw [h.word first hne hfirst] at hmem
          exact ⟨List.mem_singleton.mp hmem, hne⟩
      cases hrest : cs.dropWhile (fun c => !sep c) with
      | nil =>
        rw [hrest, List.append_nil] at hsplit
        obtain ⟨rfl, hne⟩ := hhere (hsplit ▸ hw)
        exact ⟨hne, hfirst, [], [], by simp [hsplit], by simp, by simp⟩
      | cons c rest =>
        have hc : sep c = true := by
          have hhead := List.head?_dropWhile_not (fun c => !sep c) cs
          simpa [hrest] using hhead
        rw [hrest] at hsplit
        rw [← hsplit, h.apart c hc, List.mem_append] at hw
        rw [← hsplit]
        rcases hw with hw | hw
        · obtain ⟨rfl, hne⟩ := hhere hw
          exact ⟨hne, hfirst, [], c :: rest, by simp, by simp, by simpa using hc⟩
        · refine (ih rest.length ?_ hw rfl).append_cons hc first
          rw [← hn, ← hsplit]
          simp
          omega
  · rintro ⟨hne, hwhole, before, after, rfl, hbefore, hafter⟩
    have hright : cut (w ++ after) = w :: cut after := by
      cases after with
      | nil => rw [List.append_nil, h.word w hne hwhole, h.nil]
      | cons c after =>
        have hc := hafter c rfl
        rw [h.apart c hc, h.word w hne hwhole, h.cons hc, List.singleton_append]
    rcases List.eq_nil_or_concat before with rfl | ⟨front, c, rfl⟩
    · simp [hright]
    · have hc : sep c = true := hbefore c (by simp)
      rw [List.append_assoc, List.concat_append, h.apart c hc, hright]
      simp

end CutsAt
end Cutting

theorem cutsAt_wordsOf : CutsAt isBlank wordsOf where
  nil := rfl
  word _ := wordsOf_eq_singleton
  apart _ hc := wordsOf_append_cons hc

end MarkupQuery.Text
