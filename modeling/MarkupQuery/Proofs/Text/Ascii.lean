import MarkupQuery.Proofs.Text.Words
import MarkupQuery.Selector.Token
import MarkupQuery.Text.LowerCase

/-!
# ASCII texts

Lower case is a matter of single letters as long as a text is ASCII (`lower_ofList_of_ascii`), and
what is in lower case has no ASCII capital left (`map_toLower_eq_self`).

The names that all selectors can spell are an ASCII letter with letters, digits, underscores and
hyphens after it (`IsAsciiName`).
-/

namespace MarkupQuery.Text

/-- What holds of the ASCII characters one by one holds of all of them. -/
theorem of_ascii {p : Char → Prop} (h : ∀ i : Fin 0x80, p (Char.ofNat i)) {c : Char}
    (hc : c.toNat < 0x80) : p c := by
  have hp := h ⟨c.toNat, hc⟩
  rwa [Char.ofNat_toNat] at hp

/-! ## Lower case -/

theorem lowerAfter_of_ascii (before : List Char) {cs : List Char} (h : ∀ c ∈ cs, c.toNat < 0x80) :
    lowerAfter before cs = cs.map Char.toLower := by
  induction cs generalizing before with
  | nil => rfl
  | cons c cs ih =>
    have hc := h c List.mem_cons_self
    have hsigma : c ≠ 'Σ' := of_ascii (p := (· ≠ 'Σ')) (by decide) hc
    have hdotted : c ≠ 'İ' := of_ascii (p := (· ≠ 'İ')) (by decide) hc
    simp only [lowerAfter]
    rw [if_neg hsigma, if_neg hdotted, ih _ fun d hd => h d (List.mem_cons_of_mem _ hd), lowerChar,
      if_pos hc, List.map_cons]

/-- An ASCII text is put in lower case letter by letter. -/
theorem lower_ofList_of_ascii {cs : List Char} (h : ∀ c ∈ cs, c.toNat < 0x80) :
    lower (String.ofList cs) = String.ofList (cs.map Char.toLower) := by
  rw [lower, String.toList_ofList, lowerAfter_of_ascii [] h]

theorem toLower_eq_self_of_not_ascii {c : Char} (h : ¬ c.toNat < 0x80) : c.toLower = c := by
  refine dif_neg fun hupper : 'A'.val ≤ c.val ∧ c.val ≤ 'Z'.val => ?_
  have hle : c.toNat ≤ 0x5A := hupper.2
  omega

theorem map_toLower_eq_self_of_lowerAfter {before cs : List Char} (h : lowerAfter before cs = cs) :
    cs.map Char.toLower = cs := by
  induction cs generalizing before with
  | nil => rfl
  | cons c cs ih =>
    simp only [lowerAfter] at h
    split at h
    · next hsigma =>
      rw [List.map_cons, ih (List.cons.inj h).2, hsigma]
      rfl
    · split at h
      · next hdotted => exact absurd ((List.cons.inj h).1.trans hdotted) (by decide)
      · obtain ⟨hhead, hrest⟩ := List.cons.inj h
        have hc : c.toLower = c := by
          by_cases hascii : c.toNat < 0x80
          · rwa [lowerChar, if_pos hascii] at hhead
          · exact toLower_eq_self_of_not_ascii hascii
        rw [List.map_cons, hc, ih hrest]

/-- What is in lower case has no ASCII capital left. -/
theorem map_toLower_eq_self {s : String} (h : lower s = s) : s.toList.map Char.toLower = s.toList := by
  have hlist := congrArg String.toList h
  rw [lower, String.toList_ofList] at hlist
  exact map_toLower_eq_self_of_lowerAfter hlist

/-! ## Names -/

/-- The characters of an ASCII name. -/
def isAsciiNameChar (c : Char) : Bool := c.isAlphanum || c == '_' || c == '-'

/-- An ASCII name: a letter, with letters, digits, underscores and hyphens after it. -/
structure IsAsciiName (name : List Char) : Prop where
  starts : ∃ c cs, name = c :: cs ∧ c.isAlpha = true
  chars : ∀ c ∈ name, isAsciiNameChar c = true

theorem ascii_of_isAsciiNameChar {c : Char} (h : isAsciiNameChar c = true) : c.toNat < 0x80 := by
  have of_le {last : UInt32} (hle : c.val ≤ last) (hlast : last.toNat < 0x80) : c.toNat < 0x80 :=
    Nat.lt_of_le_of_lt hle hlast
  simp only [isAsciiNameChar, Bool.or_eq_true, beq_iff_eq] at h
  rcases h with (h | rfl) | rfl
  · obtain hletter | hdigit := Bool.or_eq_true_iff.mp h
    · obtain hupper | hlower := Bool.or_eq_true_iff.mp hletter
      · exact of_le (of_decide_eq_true hupper).2 (by decide)
      · exact of_le (of_decide_eq_true (Bool.and_eq_true_iff.mp hlower).2) (by decide)
    · exact of_le (of_decide_eq_true (Bool.and_eq_true_iff.mp hdigit).2) (by decide)
  · decide
  · decide

/-- What can be checked of the characters of ASCII names one by one holds of all of them. -/
theorem of_isAsciiNameChar {p : Char → Prop}
    (h : ∀ i : Fin 0x80, isAsciiNameChar (Char.ofNat i) = true → p (Char.ofNat i)) {c : Char}
    (hc : isAsciiNameChar c = true) : p c :=
  of_ascii (p := fun c => isAsciiNameChar c = true → p c) h (ascii_of_isAsciiNameChar hc) hc

theorem isBlank_of_isAsciiNameChar {c : Char} (h : isAsciiNameChar c = true) : isBlank c = false :=
  of_isAsciiNameChar (p := fun c => isBlank c = false) (by decide) h

theorem isNameChar_of_isAsciiNameChar {c : Char} (h : isAsciiNameChar c = true) :
    Token.isNameChar c = true :=
  of_isAsciiNameChar (p := fun c => Token.isNameChar c = true) (by decide +kernel) h

namespace IsAsciiName

variable {name : List Char} (h : IsAsciiName name)
include h

theorem ne_nil : name ≠ [] := by
  obtain ⟨c, cs, rfl, -⟩ := h.starts
  exact List.cons_ne_nil _ _

theorem ne_star : name ≠ ['*'] := by
  rintro rfl
  exact absurd (h.chars '*' List.mem_cons_self) (by decide)

theorem ascii : ∀ c ∈ name, c.toNat < 0x80 := fun c hc => ascii_of_isAsciiNameChar (h.chars c hc)

theorem isBlank_eq_false : ∀ c ∈ name, isBlank c = false :=
  fun c hc => isBlank_of_isAsciiNameChar (h.chars c hc)

theorem isWord : IsWord (String.ofList name) := by
  refine ⟨fun hempty => h.ne_nil ?_, by rw [String.toList_ofList]; exact h.isBlank_eq_false⟩
  rw [← String.toList_ofList (l := name), hempty]
  rfl

theorem isNameChar_eq_true : ∀ c ∈ name, Token.isNameChar c = true :=
  fun c hc => isNameChar_of_isAsciiNameChar (h.chars c hc)

end IsAsciiName
end MarkupQuery.Text
