import MarkupQuery.Markup.Css.Reading
import MarkupQuery.Proofs.Markup.Css.Words
import MarkupQuery.Proofs.Text.Ascii

/-!
# The pieces of a style sheet selector

A reader takes as much as it can. What was written as a gap, a name or a compound part is therefore
taken as a whole, and no more than that as long as something else follows: behind a gap a text that no
blank stands in front of (`StartsSolid`), behind a name a space, a hash, a dot or the end of the text
(`EndsName`).
-/

namespace MarkupQuery.Markup.Css

/-- Only spaces. -/
def IsGap (gap : List Char) : Prop := ∀ c ∈ gap, isSpace c = true

/-! ## Blanks -/

/-- A text that no blank stands in front of. -/
def StartsSolid (cs : List Char) : Prop := ∀ c ∈ cs.head?, isSpace c = false ∧ c ≠ '/'

theorem afterBlank_of_startsSolid {cs : List Char} (h : StartsSolid cs) : afterBlank cs = none := by
  cases cs with
  | nil => rfl
  | cons c cs =>
    obtain ⟨hspace, hslash⟩ := h c rfl
    have hne : ¬ (c = ' ' ∨ c = '\t' ∨ c = '\r' ∨ c = '\n' ∨ c = '\x0c') := by
      rw [← isSpace_iff, hspace]
      exact Bool.false_ne_true
    simp only [not_or] at hne
    obtain ⟨h1, h2, h3, h4, h5⟩ := hne
    simp [afterBlank, afterSpace, afterLineEnd, afterComment, *]

/-- The first space of a gap is skipped, together with the line feed that may follow it there. -/
theorem exists_afterSpace_gap {c : Char} {gap rest : List Char} (hgap : IsGap (c :: gap))
    (hrest : StartsSolid rest) : ∃ gap', IsGap gap' ∧ gap'.length ≤ gap.length ∧
      afterSpace (c :: (gap ++ rest)) = some (gap' ++ rest) := by
  have htail : IsGap gap := fun d hd => hgap d (List.mem_cons_of_mem _ hd)
  have hone (h : afterSpace (c :: (gap ++ rest)) = some (gap ++ rest)) :=
    (⟨gap, htail, le_rfl, h⟩ : ∃ gap', IsGap gap' ∧ gap'.length ≤ gap.length ∧
      afterSpace (c :: (gap ++ rest)) = some (gap' ++ rest))
  rcases isSpace_iff.mp (hgap c List.mem_cons_self) with rfl | rfl | rfl | rfl | rfl
  · exact hone rfl
  · exact hone rfl
  · cases gap with
    | nil =>
      -- the text behind the gap does not start with a line feed
      refine hone ?_
      have hfeed : ∀ more, rest ≠ '\n' :: more := by
        rintro more rfl
        exact absurd (hrest '\n' rfl).1 (by decide)
      simp [afterSpace, afterLineEnd]
    | cons d gap =>
      by_cases hd : d = '\n'
      · subst hd
        exact ⟨gap, fun e he => htail e (List.mem_cons_of_mem _ he), by simp, rfl⟩
      · refine hone ?_
        simp [afterSpace, afterLineEnd, hd]
  · exact hone rfl
  · exact hone rfl

theorem skipUpTo_gap {n : Nat} {gap rest : List Char} (hn : gap.length ≤ n) (hgap : IsGap gap)
    (hrest : StartsSolid rest) : skipUpTo n (gap ++ rest) = rest := by
  induction n generalizing gap with
  | zero =>
    obtain rfl := List.eq_nil_of_length_eq_zero (Nat.le_zero.mp hn)
    rfl
  | succ n ih =>
    cases gap with
    | nil => simp [skipUpTo, afterBlank_of_startsSolid hrest]
    | cons c gap =>
      obtain ⟨gap', hgap', hlength, hafter⟩ := exists_afterSpace_gap hgap hrest
      have hskip := ih (hlength.trans (Nat.le_of_succ_le_succ hn)) hgap'
      simp [skipUpTo, afterBlank, hafter, hskip]

theorem skipBlanks_gap {gap rest : List Char} (hgap : IsGap gap) (hrest : StartsSolid rest) :
    skipBlanks (gap ++ rest) = rest :=
  skipUpTo_gap (by simp) hgap hrest

theorem isGap_nil : IsGap [] := fun _ hc => absurd hc List.not_mem_nil

theorem skipBlanks_of_startsSolid {cs : List Char} (h : StartsSolid cs) : skipBlanks cs = cs :=
  skipBlanks_gap isGap_nil h

theorem skipBlanks_of_gap {gap : List Char} (hgap : IsGap gap) : skipBlanks gap = [] := by
  have hend : StartsSolid [] := by simp [StartsSolid]
  have hskip := skipBlanks_gap hgap hend
  rwa [List.append_nil] at hskip

/-- A character that is no space is not skipped, unless a comment starts somewhere. -/
theorem skipBlanks_ne_nil {cs : List Char} (hslash : '/' ∉ cs)
    (hsolid : ∃ c ∈ cs, isSpace c = false) (rest : List Char) : skipBlanks (cs ++ rest) ≠ [] := by
  have hgap : IsGap (cs.takeWhile isSpace) := fun c hc => List.mem_takeWhile_imp hc
  have hhead : ∀ c ∈ (cs.dropWhile isSpace).head?, isSpace c = false := head?_dropWhile_eq
  have hsplit := List.takeWhile_append_dropWhile (p := isSpace) (l := cs)
  cases hdrop : cs.dropWhile isSpace with
  | nil =>
    obtain ⟨c, hc, hspace⟩ := hsolid
    rw [List.dropWhile_eq_nil_iff] at hdrop
    rw [hdrop c hc] at hspace
    exact absurd hspace.symm Bool.false_ne_true
  | cons d ds =>
    rw [hdrop] at hsplit hhead
    have hstarts : StartsSolid (d :: ds ++ rest) := fun e he => by
      obtain rfl : d = e := by simpa using he
      exact ⟨hhead d rfl, fun h => hslash (hsplit ▸ List.mem_append_right _ (h ▸ List.mem_cons_self))⟩
    rw [← hsplit, List.append_assoc, skipBlanks_gap hgap hstarts]
    exact List.cons_ne_nil _ _

/-- Where no comment starts, the blanks at the end are the spaces there. -/
theorem blankTail_append {cs gap : List Char} (hslash : '/' ∉ cs)
    (hlast : ∀ c ∈ cs.getLast?, isSpace c = false) (hgap : IsGap gap) :
    blankTail (cs ++ gap) = gap.length := by
  induction cs with
  | nil =>
    cases gap with
    | nil => rfl
    | cons c gap => simp [blankTail, skipBlanks_of_gap hgap]
  | cons c cs ih =>
    have hsolid : ∃ d ∈ c :: cs, isSpace d = false :=
      ⟨_, List.getLast_mem (List.cons_ne_nil c cs), hlast _ (List.getLast?_eq_some_getLast _)⟩
    have hskip := skipBlanks_ne_nil hslash hsolid gap
    rw [List.cons_append] at hskip ⊢
    rw [blankTail, if_neg (by simpa using hskip)]
    refine ih (fun h => hslash (List.mem_cons_of_mem _ h)) fun d hd => hlast d ?_
    cases cs with
    | nil => simp at hd
    | cons e cs => simpa using hd

/-! ## Names -/

/-- A text that ends a name: it is empty, or starts with a hash, a dot or a space. -/
def EndsName (rest : List Char) : Prop := ∀ c ∈ rest.head?, c = '#' ∨ c = '.' ∨ isSpace c = true

theorem continuesName_of_isAsciiNameChar {c : Char} (h : Text.isAsciiNameChar c = true) :
    continuesName c = true :=
  Text.of_isAsciiNameChar (p := fun c => continuesName c = true) (by decide) h

theorem EndsName.continuesName_eq_false {rest : List Char} (h : EndsName rest) :
    ∀ c ∈ rest.head?, continuesName c = false ∧ c ≠ '\\' := by
  intro c hc
  rcases h c hc with rfl | rfl | hspace
  · decide
  · decide
  · exact of_isSpace (p := fun c => continuesName c = false ∧ c ≠ '\\') (by decide) hspace

theorem readRun_append {inRun : Char → Bool} {n : Nat} {run rest : List Char} (hn : run.length ≤ n)
    (hrun : ∀ c ∈ run, inRun c = true) (hrest : ∀ c ∈ rest.head?, inRun c = false ∧ c ≠ '\\') :
    readRun inRun n (run ++ rest) = (run, rest) := by
  induction run generalizing n with
  | nil =>
    cases n with
    | zero => rfl
    | succ n =>
      cases rest with
      | nil => rfl
      | cons c rest =>
        obtain ⟨hc, hescape⟩ := hrest c rfl
        simp [readRun, hc, hescape]
  | cons c run ih =>
    cases n with
    | zero => simp at hn
    | succ n =>
      have hc := hrun c List.mem_cons_self
      have hmore := ih (n := n) (Nat.le_of_succ_le_succ hn) fun d hd => hrun d (List.mem_cons_of_mem _ hd)
      simp [readRun, hc, hmore]

/-- Without a hyphen in front, a name is what it may start with and then what it may go on with. -/
theorem readName_eq {cs : List Char} (hhyphen : ∀ c ∈ cs.head?, c ≠ '-') :
    readName cs =
      if (readRun startsName cs.length cs).1.isEmpty then none
      else
        let after := (readRun startsName cs.length cs).2
        some ((readRun startsName cs.length cs).1 ++ (readRun continuesName after.length after).1,
          (readRun continuesName after.length after).2) := by
  unfold readName
  split
  · exact absurd rfl (hhyphen _ rfl)
  · exact absurd rfl (hhyphen _ rfl)
  · simp only [List.nil_append]

/-- A name is read to its end: first as far as a name may start, then as far as it may go on. -/
theorem readName_append {name rest : List Char} (hname : Text.IsAsciiName name)
    (hrest : EndsName rest) : readName (name ++ rest) = some (name, rest) := by
  obtain ⟨c, cs, hcs, hc⟩ := hname.starts
  have hfirst : startsName c = true := by simp [startsName, hc]
  have hhyphen : ∀ d ∈ (name ++ rest).head?, d ≠ '-' := by
    rw [hcs]
    rintro d hd rfl
    obtain rfl : c = '-' := by simpa using hd
    exact absurd hc (by decide)
  have hends := hrest.continuesName_eq_false
  -- the part that a name may start with, and what is left of the name behind it
  have hsplit := List.takeWhile_append_dropWhile (p := startsName) (l := name)
  have hstart : ∀ d ∈ name.takeWhile startsName, startsName d = true :=
    fun d hd => List.mem_takeWhile_imp hd
  have hstop : ∀ d ∈ (name.dropWhile startsName).head?, startsName d = false := head?_dropWhile_eq
  have hne : (name.takeWhile startsName).isEmpty = false := by
    rw [hcs, List.takeWhile_cons_of_pos hfirst]
    rfl
  generalize name.takeWhile startsName = start at hsplit hstart hne
  generalize name.dropWhile startsName = more at hsplit hstop
  subst hsplit
  have hone : readRun startsName (start ++ more ++ rest).length (start ++ more ++ rest) =
      (start, more ++ rest) := by
    rw [List.append_assoc]
    refine readRun_append (by simp) hstart fun d hd => ?_
    cases more with
    | nil =>
      obtain ⟨hno, hescape⟩ := hends d hd
      simp only [continuesName, Bool.or_eq_false_iff] at hno
      exact ⟨hno.1.1, hescape⟩
    | cons e more =>
      obtain rfl : e = d := by simpa using hd
      refine ⟨hstop e rfl, ?_⟩
      rintro rfl
      exact absurd (hname.chars '\\' (by simp)) (by decide)
  have htwo : readRun continuesName (more ++ rest).length (more ++ rest) = (more, rest) :=
    readRun_append (by simp) (fun d hd => continuesName_of_isAsciiNameChar
      (hname.chars d (List.mem_append_right _ hd))) hends
  rw [readName_eq hhyphen, hone]
  simp only [hne, htwo]
  rfl

theorem readName_eq_none {cs : List Char}
    (h : ∀ c ∈ cs.head?, startsName c = false ∧ c ≠ '\\' ∧ c ≠ '-') : readName cs = none := by
  have hrun : readRun startsName cs.length ([] ++ cs) = ([], cs) :=
    readRun_append (Nat.zero_le _) (by simp) fun c hc => ⟨(h c hc).1, (h c hc).2.1⟩
  rw [List.nil_append] at hrun
  rw [readName_eq fun c hc => (h c hc).2.2, hrun]
  rfl

/-! ## Pieces -/

theorem readType_append {tag rest : List Char} (htag : Text.IsAsciiName tag) (hrest : EndsName rest) :
    readType (tag ++ rest) = some (.type none tag, rest) := by
  have hread := readName_append htag hrest
  obtain ⟨c, cs, rfl, hc⟩ := htag.starts
  have hstar : c ≠ '*' := by
    rintro rfl
    exact absurd hc (by decide)
  have hbar : ∀ more, rest ≠ '|' :: more := by
    rintro more rfl
    rcases hrest '|' rfl with h | h | h <;> exact absurd h (by decide)
  rw [List.cons_append] at hread ⊢
  simp [readType, hread, hstar]

/-- What starts no name and is no star or bar is no type. -/
theorem readType_eq_none {c : Char} {cs : List Char} (hc : startsName c = false)
    (hne : c ≠ '\\' ∧ c ≠ '-' ∧ c ≠ '*' ∧ c ≠ '|') : readType (c :: cs) = none := by
  have hread : readName (c :: cs) = none := readName_eq_none fun d hd => by
    obtain rfl : c = d := by simpa using hd
    exact ⟨hc, hne.1, hne.2.1⟩
  simp [readType, hread, hne]

/-- The characters that a piece of its own starts with. -/
def marks : List Char := [':', '&', '@', '#', '.', '[']

section Unmarked

variable {c : Char} {cs rest : List Char} (hclose : ∀ d ∈ (skipBlanks (c :: cs)).head?, d ≠ ')')
  (hmark : c ∉ marks) (total : Nat)

include hclose hmark

theorem readPiece_of_readType {type : Condition} (h : readType (c :: cs) = some (type, rest)) :
    readPiece total (c :: cs) = .ok (.type type, rest) := by
  simp only [marks, List.mem_cons, List.not_mem_nil, or_false, not_or] at hmark
  unfold readPiece
  split
  · next heq => exact absurd rfl (hclose _ (by rw [heq]; rfl))
  · split <;> simp_all

theorem readPiece_of_readCombinator {how : Option Combinator} (htype : readType (c :: cs) = none)
    (h : readCombinator ((c :: cs).length + 1) (c :: cs) = some (how, rest)) :
    readPiece total (c :: cs) = .ok (.combinator how, rest) := by
  simp only [marks, List.mem_cons, List.not_mem_nil, or_false, not_or] at hmark
  unfold readPiece
  split
  · next heq => exact absurd rfl (hclose _ (by rw [heq]; rfl))
  · split <;> simp_all

end Unmarked

theorem startsSolid_cons {c : Char} (h : isSpace c = false ∧ c ≠ '/') (cs : List Char) :
    StartsSolid (c :: cs) := fun d hd => by
  obtain rfl : c = d := by simpa using hd
  exact h

theorem readPiece_type {tag rest : List Char} (htag : Text.IsAsciiName tag) (hrest : EndsName rest)
    (total : Nat) : readPiece total (tag ++ rest) = .ok (.type (.type none tag), rest) := by
  have hread := readType_append htag hrest
  have hchar : ∀ c ∈ tag.head?, isSpace c = false ∧ c ≠ '/' ∧ c ≠ ')' ∧ c ∉ marks := fun c hc =>
    Text.of_isAsciiNameChar (p := fun c => isSpace c = false ∧ c ≠ '/' ∧ c ≠ ')' ∧ c ∉ marks)
      (by decide) (htag.chars c (List.mem_of_mem_head? hc))
  obtain ⟨c, cs, rfl, -⟩ := htag.starts
  obtain ⟨hspace, hslash, hclose, hmark⟩ := hchar c rfl
  refine readPiece_of_readType ?_ hmark total hread
  intro d hd
  rw [skipBlanks_of_startsSolid (startsSolid_cons ⟨hspace, hslash⟩ _)] at hd
  obtain rfl : c = d := by simpa using hd
  exact hclose

theorem readPiece_id {id rest : List Char} (hid : Text.IsAsciiName id) (hrest : EndsName rest)
    (total : Nat) : readPiece total ('#' :: (id ++ rest)) = .ok (.condition (.idIs id), rest) := by
  have hskip : skipBlanks ('#' :: (id ++ rest)) = '#' :: (id ++ rest) :=
    skipBlanks_of_startsSolid (startsSolid_cons (by decide) _)
  simp [readPiece, hskip, readName_append hid hrest]

theorem readPiece_class {name rest : List Char} (hname : Text.IsAsciiName name)
    (hrest : EndsName rest) (total : Nat) :
    readPiece total ('.' :: (name ++ rest)) = .ok (.condition (.inClass name), rest) := by
  have hskip : skipBlanks ('.' :: (name ++ rest)) = '.' :: (name ++ rest) :=
    skipBlanks_of_startsSolid (startsSolid_cons (by decide) _)
  simp [readPiece, hskip, readName_append hname hrest]

/-- A text that a token stands in front of. -/
def StartsToken (cs : List Char) : Prop :=
  ∃ c more, cs = c :: more ∧ (Text.isAsciiNameChar c = true ∨ c = '#' ∨ c = '.')

/-- What is asked of the first character of a token. -/
theorem StartsToken.head {cs : List Char} (h : StartsToken cs) : ∀ c ∈ cs.head?,
    isSpace c = false ∧ c ≠ '/' ∧ c ≠ ')' ∧ ofMark? c = none := by
  obtain ⟨c, more, rfl, hc⟩ := h
  intro d hd
  obtain rfl : c = d := by simpa using hd
  rcases hc with hc | rfl | rfl
  · exact Text.of_isAsciiNameChar
      (p := fun c => isSpace c = false ∧ c ≠ '/' ∧ c ≠ ')' ∧ ofMark? c = none) (by decide) hc
  · decide
  · decide

/-- A space that no mark follows is a descendant combinator. -/
theorem readCombinator_of_space {n : Nat} {c : Char} {cs more : List Char} (hc : ofMark? c = none)
    (hafter : afterSpace (c :: cs) = some more) (hmore : more.head?.bind ofMark? = none) :
    readCombinator (n + 1) (c :: cs) = some (some .descendant, skipBlanks more) := by
  have hhere : (c :: cs).head?.bind ofMark? = none := hc
  rw [readCombinator]
  simp only [hhere, hafter, hmore]
  rfl

/-- A gap in front of a token is a descendant combinator. -/
theorem readPiece_gap {gap rest : List Char} (hne : gap ≠ []) (hgap : IsGap gap)
    (hrest : StartsToken rest) (total : Nat) :
    readPiece total (gap ++ rest) = .ok (.combinator (some .descendant), rest) := by
  have hsolid : StartsSolid rest := fun c hc => ⟨(hrest.head c hc).1, (hrest.head c hc).2.1⟩
  have hskip := skipBlanks_gap hgap hsolid
  obtain ⟨c, gap, rfl⟩ := List.exists_cons_of_ne_nil hne
  have hchar : startsName c = false ∧ (c ≠ '\\' ∧ c ≠ '-' ∧ c ≠ '*' ∧ c ≠ '|') ∧ c ∉ marks ∧
      ofMark? c = none :=
    of_isSpace (p := fun c => startsName c = false ∧ (c ≠ '\\' ∧ c ≠ '-' ∧ c ≠ '*' ∧ c ≠ '|') ∧
      c ∉ marks ∧ ofMark? c = none) (by decide) (hgap c List.mem_cons_self)
  obtain ⟨hname, hsign, hmark, hno⟩ := hchar
  obtain ⟨gap', hgap', -, hafter⟩ := exists_afterSpace_gap hgap hsolid
  -- whatever comes after the first space is a further space or the token, and neither is a mark
  have hnext : (gap' ++ rest).head?.bind ofMark? = none := by
    cases gap' with
    | nil =>
      obtain ⟨d, more, rfl, -⟩ := id hrest
      exact (hrest.head d rfl).2.2.2
    | cons d gap' =>
      exact of_isSpace (p := fun d => ofMark? d = none) (by decide) (hgap' d List.mem_cons_self)
  rw [List.cons_append] at hskip ⊢
  refine readPiece_of_readCombinator ?_ hmark total (readType_eq_none hname hsign) ?_
  · rw [hskip]
    exact fun d hd => (hrest.head d hd).2.2.1
  · rw [readCombinator_of_space hno hafter hnext, skipBlanks_gap hgap' hsolid]

end MarkupQuery.Markup.Css
