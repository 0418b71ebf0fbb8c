import MarkupQuery.Text.Blank

/-!
# Words

A text is cut at its blanks. What lies between two blanks is a word, which is cut no further. Texts
with blanks in between have the words of the one and then those of the other, so joining texts with
spaces adds no word and loses none (`words_intercalate`).
-/

namespace MarkupQuery.Text

/-- A word is not empty and has no blank in it. -/
theorem of_mem_wordsOf {cs w : List Char} (h : w ∈ wordsOf cs) :
    w ≠ [] ∧ ∀ c ∈ w, isBlank c = false := by
  fun_induction wordsOf cs generalizing w with
  | case1 => simp at h
  | case2 c cs hc ih => exact ih h
  | case3 c hc =>
    obtain rfl : w = [c] := by simpa using h
    exact ⟨by simp, by simpa using hc⟩
  | case4 c hc d ds hd ih =>
    rcases List.mem_cons.mp h with rfl | h
    · exact ⟨by simp, by simpa using hc⟩
    · exact ih h
  | case5 c hc d ds hd hnil ih =>
    obtain rfl : w = [c] := by simpa [hnil] using h
    exact ⟨by simp, by simpa using hc⟩
  | case6 c hc d ds hd v vs hcons ih =>
    -- the word at the front has grown by one character, the others are as they were
    rw [hcons] at ih h
    rcases List.mem_cons.mp h with rfl | h
    · refine ⟨by simp, fun b hb => ?_⟩
      rcases List.mem_cons.mp hb with rfl | hb
      · simpa using hc
      · exact (ih List.mem_cons_self).2 b hb
    · exact ih (List.mem_cons_of_mem _ h)

/-- What is not empty and has no blank in it is cut into itself alone. -/
theorem wordsOf_eq_singleton {w : List Char} (hne : w ≠ []) (h : ∀ c ∈ w, isBlank c = false) :
    wordsOf w = [w] := by
  fun_induction wordsOf w with
  | case1 => exact absurd rfl hne
  | case2 c cs hc ih => simp [h c List.mem_cons_self] at hc
  | case3 c hc => rfl
  | case4 c hc d ds hd ih => simp [h d (by simp)] at hd
  | case5 c hc d ds hd hnil ih =>
    have hrest := ih (by simp) fun b hb => h b (List.mem_cons_of_mem _ hb)
    simp [hnil] at hrest
  | case6 c hc d ds hd v vs hcons ih =>
    have hrest := ih (by simp) fun b hb => h b (List.mem_cons_of_mem _ hb)
    rw [hcons] at hrest
    obtain ⟨rfl, rfl⟩ : v = d :: ds ∧ vs = [] := by simpa using hrest
    rw [hcons]

/-- A text that is one word: it is not empty and has no blank in it. -/
def IsWord (w : String) : Prop := w ≠ "" ∧ ∀ c ∈ w.toList, isBlank c = false

theorem isWord_of_mem_words {s w : String} (h : w ∈ words s) : IsWord w := by
  obtain ⟨cs, hcs, rfl⟩ := List.mem_map.mp h
  obtain ⟨hne, hblank⟩ := of_mem_wordsOf hcs
  refine ⟨fun hempty => hne ?_, by rwa [String.toList_ofList]⟩
  rw [← String.toList_ofList (l := cs), hempty]
  rfl

/-- Cutting a word gives the word. -/
theorem IsWord.words_eq {w : String} (h : IsWord w) : words w = [w] := by
  have hne : w.toList ≠ [] := fun hnil => h.1 (String.toList_eq_nil_iff.mp hnil)
  rw [words, wordsOf_eq_singleton hne h.2, List.map_singleton, String.ofList_toList]

theorem words_of_mem_words {s w : String} (h : w ∈ words s) : words w = [w] :=
  (isWord_of_mem_words h).words_eq

section Cutting

variable {b c d : Char} {w : List Char} {ws : List (List Char)}

theorem wordsOf_cons_of_blank (hc : isBlank c = true) (cs : List Char) :
    wordsOf (c :: cs) = wordsOf cs := by
  rw [wordsOf.eq_def]
  exact if_pos hc

theorem wordsOf_cons_cons_of_blank (hc : ¬ isBlank c = true) (hd : isBlank d = true)
    (cs : List Char) : wordsOf (c :: d :: cs) = [c] :: wordsOf (d :: cs) := by
  rw [wordsOf.eq_def]
  exact (if_neg hc).trans (if_pos hd)

/-- A character in front of a word becomes part of it. -/
theorem wordsOf_cons_cons {cs : List Char} (hc : ¬ isBlank c = true) (hd : ¬ isBlank d = true)
    (h : wordsOf (d :: cs) = w :: ws) : wordsOf (c :: d :: cs) = (c :: w) :: ws := by
  rw [wordsOf.eq_def]
  refine (if_neg hc).trans ((if_neg hd).trans ?_)
  rw [h]

theorem wordsOf_ne_nil (hc : ¬ isBlank c = true) (cs : List Char) : wordsOf (c :: cs) ≠ [] := by
  rw [wordsOf.eq_def]
  simp only [if_neg hc]
  split
  · simp
  · split
    · simp
    · split <;> simp

/-- Blanks in front make no word. -/
theorem wordsOf_append_of_blank {bs : List Char} (h : ∀ c ∈ bs, isBlank c = true) (cs : List Char) :
    wordsOf (bs ++ cs) = wordsOf cs := by
  induction bs with
  | nil => rfl
  | cons b bs ih =>
    rw [List.cons_append, wordsOf_cons_of_blank (h b List.mem_cons_self)]
    exact ih fun c hc => h c (List.mem_cons_of_mem _ hc)

/-- No word reaches across a blank. -/
theorem wordsOf_append_cons (hb : isBlank b = true) (cs ds : List Char) :
    wordsOf (cs ++ b :: ds) = wordsOf cs ++ wordsOf ds := by
  have hskip : wordsOf (b :: ds) = wordsOf ds := wordsOf_cons_of_blank hb ds
  induction cs with
  | nil => exact hskip
  | cons c cs ih =>
    by_cases hc : isBlank c = true
    · rw [List.cons_append, wordsOf_cons_of_blank hc, wordsOf_cons_of_blank hc, ih]
    · cases cs with
      | nil =>
        rw [List.cons_append, List.nil_append, wordsOf_cons_cons_of_blank hc hb, hskip,
          wordsOf_eq_singleton (List.cons_ne_nil c []) (by simpa using hc), List.singleton_append]
      | cons d cs =>
        rw [List.cons_append] at ih ⊢
        by_cases hd : isBlank d = true
        · rw [List.cons_append, wordsOf_cons_cons_of_blank hc hd, ih,
            wordsOf_cons_cons_of_blank hc hd, List.cons_append]
        · -- the first word grows by the same character with and without what comes behind
          obtain ⟨w, ws, hw⟩ := List.exists_cons_of_ne_nil (wordsOf_ne_nil hd cs)
          rw [hw, List.cons_append] at ih
          rw [List.cons_append, wordsOf_cons_cons hc hd ih, wordsOf_cons_cons hc hd hw,
            List.cons_append]

end Cutting

/-- Two texts with blanks in between have the words of the one and then those of the other. -/
theorem words_append (a b : String) {sep : String} (hne : sep ≠ "")
    (hsep : ∀ c ∈ sep.toList, isBlank c = true) : words (a ++ sep ++ b) = words a ++ words b := by
  cases hcs : sep.toList with
  | nil => exact absurd (String.toList_eq_nil_iff.mp hcs) hne
  | cons c cs =>
    rw [hcs] at hsep
    rw [words, String.toList_append, String.toList_append, hcs, List.append_assoc, List.cons_append,
      wordsOf_append_cons (hsep c List.mem_cons_self),
      wordsOf_append_of_blank fun d hd => hsep d (List.mem_cons_of_mem _ hd), List.map_append, words,
      words]

/-- Joining texts with spaces keeps their words. -/
theorem words_intercalate (xs : List String) :
    words (String.intercalate " " xs) = xs.flatMap words := by
  induction xs with
  | nil => rfl
  | cons x xs ih =>
    cases xs with
    | nil => rw [String.intercalate_singleton, List.flatMap_singleton]
    | cons y ys =>
      have hspace : ∀ c ∈ " ".toList, isBlank c = true := List.all_eq_true.mp rfl
      rw [String.intercalate_cons_cons, words_append x _ (by decide) hspace, ih,
        ← List.flatMap_cons]

/-- Words that are joined with spaces can be told apart again. -/
theorem words_intercalate_of_isWord {ws : List String} (h : ∀ w ∈ ws, IsWord w) :
    words (String.intercalate " " ws) = ws := by
  rw [words_intercalate]
  induction ws with
  | nil => rfl
  | cons w ws ih =>
    rw [List.flatMap_cons, (h w List.mem_cons_self).words_eq,
      ih fun v hv => h v (List.mem_cons_of_mem _ hv), List.singleton_append]

end MarkupQuery.Text
