import Mathlib.Data.List.SplitBy
import MarkupQuery.Markup.Css.Matching
import MarkupQuery.Proofs.Text.Cutting

/-!
# Words between spaces

A style sheet selector cuts class values at five spaces, all of which are blanks. So what stands
between spaces and has no blank in it stands between blanks, too (`isRun_isBlank`), while the
converse takes that every blank of the value is a space (`isRun_isSpace`).
-/

namespace MarkupQuery.Markup.Css

/-- Where one of two neighbours is a space and the other is not, a text is cut. -/
theorem wordsBetweenSpaces_append {cs ds : List Char}
    (h : ∀ c ∈ cs.getLast?, ∀ d ∈ ds.head?, isSpace c ≠ isSpace d) :
    wordsBetweenSpaces (cs ++ ds) = wordsBetweenSpaces cs ++ wordsBetweenSpaces ds := by
  rw [wordsBetweenSpaces, List.splitBy_append fun c hc d hd => by simpa using h c hc d hd,
    List.filter_append]
  rfl

/-- Characters that are all spaces, or all none, are not split. -/
theorem splitBy_isSpace {cs : List Char} {b : Bool} (hne : cs ≠ []) (h : ∀ c ∈ cs, isSpace c = b) :
    (cs.splitBy fun a b => isSpace a == isSpace b) = [cs] := by
  refine List.splitBy_of_isChain hne (List.Pairwise.isChain (List.pairwise_iff_getElem.mpr ?_))
  intro i j hi hj _
  rw [h _ (List.getElem_mem hi), h _ (List.getElem_mem hj), beq_self_eq_true]

theorem wordsBetweenSpaces_of_spaces {cs : List Char} (h : ∀ c ∈ cs, isSpace c = true) :
    wordsBetweenSpaces cs = [] := by
  by_cases hne : cs = []
  · rw [hne]
    rfl
  · rw [wordsBetweenSpaces, splitBy_isSpace hne h]
    obtain ⟨c, cs, rfl⟩ := List.exists_cons_of_ne_nil hne
    simp [h c List.mem_cons_self]

theorem wordsBetweenSpaces_eq_singleton {w : List Char} (hne : w ≠ [])
    (h : ∀ c ∈ w, isSpace c = false) : wordsBetweenSpaces w = [w] := by
  rw [wordsBetweenSpaces, splitBy_isSpace hne h]
  simpa using h

theorem head?_dropWhile_eq {p : Char → Bool} {cs : List Char} :
    ∀ c ∈ (cs.dropWhile p).head?, p c = false := by
  intro c hc
  have hhead := List.head?_dropWhile_not p cs
  rw [Option.mem_def.mp hc] at hhead
  simpa using hhead

/-- A space in front makes no word. -/
theorem wordsBetweenSpaces_cons {c : Char} (hc : isSpace c = true) (cs : List Char) :
    wordsBetweenSpaces (c :: cs) = wordsBetweenSpaces cs := by
  have hskip (gap rest : List Char) (hgap : ∀ d ∈ gap, isSpace d = true)
      (hrest : ∀ d ∈ rest.head?, isSpace d = false) :
      wordsBetweenSpaces (gap ++ rest) = wordsBetweenSpaces rest := by
    rw [wordsBetweenSpaces_append, wordsBetweenSpaces_of_spaces hgap, List.nil_append]
    intro d hd e he
    rw [hgap d (List.mem_of_mem_getLast? hd), hrest e he]
    decide
  have hgap : ∀ d ∈ cs.takeWhile isSpace, isSpace d = true := fun d hd => List.mem_takeWhile_imp hd
  have hrest : ∀ d ∈ (cs.dropWhile isSpace).head?, isSpace d = false := head?_dropWhile_eq
  rw [← List.takeWhile_append_dropWhile (p := isSpace) (l := cs), ← List.cons_append,
    hskip (c :: cs.takeWhile isSpace) _ (List.forall_mem_cons.mpr ⟨hc, hgap⟩) hrest,
    hskip _ _ hgap hrest]

/-- A run of other characters in front is the first word. -/
theorem wordsBetweenSpaces_run {w rest : List Char} (hne : w ≠ []) (hw : ∀ c ∈ w, isSpace c = false)
    (hrest : ∀ c ∈ rest.head?, isSpace c = true) :
    wordsBetweenSpaces (w ++ rest) = w :: wordsBetweenSpaces rest := by
  rw [wordsBetweenSpaces_append, wordsBetweenSpaces_eq_singleton hne hw, List.singleton_append]
  intro c hc d hd
  rw [hw c (List.mem_of_mem_getLast? hc), hrest d hd]
  decide

/-- No word reaches across a space. -/
theorem wordsBetweenSpaces_append_cons {c : Char} (hc : isSpace c = true) (cs ds : List Char) :
    wordsBetweenSpaces (cs ++ c :: ds) = wordsBetweenSpaces cs ++ wordsBetweenSpaces ds := by
  induction hn : cs.length using Nat.strong_induction_on generalizing cs with
  | _ n ih =>
    cases cs with
    | nil => exact wordsBetweenSpaces_cons hc ds
    | cons b cs =>
      by_cases hb : isSpace b = true
      · rw [List.cons_append, wordsBetweenSpaces_cons hb, wordsBetweenSpaces_cons hb,
          ih cs.length (by rw [← hn]; simp) cs rfl]
      · -- the first word is the same with and without what comes behind
        have hw : ∀ d ∈ b :: cs.takeWhile (fun d => !isSpace d), isSpace d = false :=
          List.forall_mem_cons.mpr ⟨by simpa using hb, fun d hd => by
            simpa using List.mem_takeWhile_imp hd⟩
        have hrest : ∀ d ∈ (cs.dropWhile fun d => !isSpace d).head?, isSpace d = true := fun d hd => by
          simpa using head?_dropWhile_eq d hd
        have hlength := (List.dropWhile_suffix (fun d => !isSpace d) (l := cs)).length_le
        rw [← List.takeWhile_append_dropWhile (p := fun d => !isSpace d) (l := cs),
          ← List.cons_append, List.append_assoc,
          wordsBetweenSpaces_run (List.cons_ne_nil _ _) hw hrest,
          wordsBetweenSpaces_run (List.cons_ne_nil _ _) hw ?_,
          ih _ (by rw [← hn, List.length_cons]; omega) _ rfl, List.cons_append]
        cases hdrop : cs.dropWhile fun d => !isSpace d with
        | nil => simpa using hc
        | cons d rest => simpa [hdrop] using hrest

theorem cutsAt_wordsBetweenSpaces : Text.CutsAt isSpace wordsBetweenSpaces where
  nil := rfl
  word _ := wordsBetweenSpaces_eq_singleton
  apart _ hc := wordsBetweenSpaces_append_cons hc

theorem isSpace_iff {c : Char} :
    isSpace c = true ↔ c = ' ' ∨ c = '\t' ∨ c = '\r' ∨ c = '\n' ∨ c = '\x0c' := by
  show [' ', '\t', '\r', '\n', '\x0c'].contains c = true ↔ _
  simp

/-- What holds of the five spaces holds of every space. -/
theorem of_isSpace {p : Char → Prop} (h : p ' ' ∧ p '\t' ∧ p '\r' ∧ p '\n' ∧ p '\x0c') {c : Char}
    (hc : isSpace c = true) : p c := by
  obtain ⟨hspace, htab, hreturn, hfeed, hform⟩ := h
  rcases isSpace_iff.mp hc with rfl | rfl | rfl | rfl | rfl <;> assumption

/-- Spaces are blanks. -/
theorem isBlank_of_isSpace {c : Char} (h : isSpace c = true) : Text.isBlank c = true :=
  of_isSpace (p := fun c => Text.isBlank c = true) (by decide) h

/-- A word that has no blank in it and stands between spaces stands between blanks. -/
theorem isRun_isBlank {w cs : List Char} (h : Text.IsRun isSpace w cs)
    (hw : ∀ c ∈ w, Text.isBlank c = false) : Text.IsRun Text.isBlank w cs := by
  obtain ⟨hne, -, before, after, rfl, hbefore, hafter⟩ := h
  exact ⟨hne, hw, before, after, rfl, fun c hc => isBlank_of_isSpace (hbefore c hc),
    fun c hc => isBlank_of_isSpace (hafter c hc)⟩

/-- Where every blank is a space, what stands between blanks stands between spaces. -/
theorem isRun_isSpace {w cs : List Char} (h : Text.IsRun Text.isBlank w cs)
    (hcs : ∀ c ∈ cs, Text.isBlank c = true → isSpace c = true) : Text.IsRun isSpace w cs := by
  obtain ⟨hne, hw, before, after, rfl, hbefore, hafter⟩ := h
  refine ⟨hne, fun c hc => ?_, before, after, rfl, fun c hc => ?_, fun c hc => ?_⟩
  · cases hspace : isSpace c with
    | false => rfl
    | true => exact absurd (isBlank_of_isSpace hspace) (by simp [hw c hc])
  · exact hcs c (by simp [List.mem_of_mem_getLast? hc]) (hbefore c hc)
  · exact hcs c (by simp [List.mem_of_mem_head? hc]) (hafter c hc)

end MarkupQuery.Markup.Css
