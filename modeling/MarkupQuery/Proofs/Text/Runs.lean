/-!
# Runs of characters

A reader that takes every character of some class stops where the class ends. What was written as a
run of that class, with something else behind it, is therefore taken as a whole and nothing more.
-/

namespace MarkupQuery.Text

variable {p : Char → Bool} {run rest : List Char}

theorem takeWhile_append_of_stop (hrun : ∀ c ∈ run, p c = true)
    (hrest : ∀ c ∈ rest.head?, p c = false) : (run ++ rest).takeWhile p = run := by
  have hstop : rest.takeWhile p = [] := by
    cases rest with
    | nil => rfl
    | cons c cs => rw [List.takeWhile_cons_of_neg (by simp [hrest c rfl])]
  rw [List.takeWhile_append_of_pos hrun, hstop, List.append_nil]

theorem dropWhile_append_of_stop (hrun : ∀ c ∈ run, p c = true)
    (hrest : ∀ c ∈ rest.head?, p c = false) : (run ++ rest).dropWhile p = rest := by
  rw [List.dropWhile_append_of_pos hrun]
  cases rest with
  | nil => rfl
  | cons c cs => rw [List.dropWhile_cons_of_neg (by simp [hrest c rfl])]

end MarkupQuery.Text
