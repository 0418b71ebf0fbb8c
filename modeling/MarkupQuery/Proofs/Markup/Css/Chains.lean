import MarkupQuery.Proofs.Markup.Css.Pieces
import MarkupQuery.Proofs.Selector.Grammar

/-!
# Chains of tokens as style sheet selectors

A token whose parts are ASCII names is a compound of a style sheet selector, too, and spaces between
tokens are descendant combinators. So a chain of such tokens is read as one selector, with a compound
for each token that has a condition for each part.

Main statement: `read_chain`.
-/

namespace MarkupQuery

namespace Token

/-- The parts of a token that style sheets can spell, too: a tag, an id and classes, all of them
ASCII names, and at least one of them. -/
structure Shared (t : Token) : Prop where
  tag : t.tag = [] ∨ Text.IsAsciiName t.tag
  id : ∀ name ∈ t.id, Text.IsAsciiName name
  classes : ∀ name ∈ t.classes, Text.IsAsciiName name
  nonempty : t.tag ≠ [] ∨ t.id ≠ none ∨ t.classes ≠ []

theorem Shared.wellFormed {t : Token} (h : t.Shared) : t.WellFormed where
  tag := by
    rcases h.tag with htag | htag
    · exact Or.inl htag
    · obtain ⟨c, cs, hcs, hc⟩ := htag.starts
      refine Or.inr (Or.inr ⟨c, cs, hcs, (isTagStart_iff c).mp hc, fun d hd => ?_⟩)
      exact htag.isNameChar_eq_true d (hcs ▸ List.mem_cons_of_mem _ hd)
  id name hname := ⟨(h.id name hname).ne_nil, (h.id name hname).isNameChar_eq_true⟩
  classes name hname := ⟨(h.classes name hname).ne_nil, (h.classes name hname).isNameChar_eq_true⟩

end Token

namespace Markup.Css

/-! ## Chains -/

/-- The text of tokens with gaps in between, none of them empty. -/
inductive Joined : List Token → List Char → Prop
  | last (t : Token) : Joined [t] t.write
  | cons (t : Token) {gap : List Char} {ts : List Token} {cs : List Char} (hne : gap ≠ [])
      (hgap : IsGap gap) (h : Joined ts cs) : Joined (t :: ts) (t.write ++ (gap ++ cs))

/-- A text that is a chain of tokens, with spaces between the tokens and perhaps around them. -/
structure IsChain (tokens : List Token) (text : String) : Prop where
  shared : ∀ t ∈ tokens, t.Shared
  layout : ∃ front core back, text.toList = front ++ (core ++ back) ∧ IsGap front ∧
    Joined tokens core ∧ IsGap back

/-! ## The text of a token -/

theorem EndsName.of_classText {rest : List Char} (h : EndsName rest) (names : List (List Char)) :
    EndsName (Token.classText names ++ rest) := by
  cases names with
  | nil => exact h
  | cons name names =>
    intro c hc
    obtain rfl : '.' = c := by simpa [Token.classText] using hc
    exact Or.inr (Or.inl rfl)

theorem EndsName.of_idText {rest : List Char} (h : EndsName rest) (id : Option (List Char)) :
    EndsName (Token.idText id ++ rest) := by
  cases id with
  | none => exact h
  | some id =>
    intro c hc
    obtain rfl : '#' = c := by simpa [Token.idText] using hc
    exact Or.inl rfl

theorem IsGap.endsName {gap rest : List Char} (hgap : IsGap gap) (hrest : gap = [] → rest = []) :
    EndsName (gap ++ rest) := by
  cases gap with
  | nil =>
    rw [hrest rfl]
    exact fun c hc => absurd hc (by simp)
  | cons c gap =>
    intro d hd
    obtain rfl : c = d := by simpa using hd
    exact Or.inr (Or.inr (hgap c List.mem_cons_self))

/-- What a token is written with. -/
def isTokenChar (c : Char) : Bool := Text.isAsciiNameChar c || c == '#' || c == '.'

theorem isTokenChar_of_mem_write {t : Token} (ht : t.Shared) : ∀ c ∈ t.write, isTokenChar c = true := by
  have hname {name : List Char} (h : Text.IsAsciiName name) : ∀ c ∈ name, isTokenChar c = true :=
    fun c hc => by simp [isTokenChar, h.chars c hc]
  intro c hc
  rw [Token.write_eq, List.mem_append, List.mem_append] at hc
  rcases hc with hc | hc | hc
  · rcases ht.tag with htag | htag
    · simp [htag] at hc
    · exact hname htag c hc
  · cases hid : t.id with
    | none => simp [hid, Token.idText] at hc
    | some id =>
      rw [hid, Token.idText, List.mem_cons] at hc
      rcases hc with rfl | hc
      · rfl
      · exact hname (ht.id id hid) c hc
  · obtain ⟨name, hmem, hc⟩ := List.mem_flatMap.mp hc
    rcases List.mem_cons.mp hc with rfl | hc
    · rfl
    · exact hname (ht.classes name hmem) c hc

theorem write_ne_nil {t : Token} (ht : t.Shared) : t.write ≠ [] := by
  rw [Token.write_eq]
  intro h
  obtain ⟨htag, hrest⟩ := List.append_eq_nil_iff.mp h
  obtain ⟨hid, hclasses⟩ := List.append_eq_nil_iff.mp hrest
  rcases ht.nonempty with hne | hne | hne
  · exact hne htag
  · cases h : t.id with
    | none => exact hne h
    | some id => simp [h, Token.idText] at hid
  · obtain ⟨name, names, hnames⟩ := List.exists_cons_of_ne_nil hne
    simp [hnames, Token.classText] at hclasses

theorem isSpace_of_isTokenChar {c : Char} (h : isTokenChar c = true) : isSpace c = false := by
  simp only [isTokenChar, Bool.or_eq_true, beq_iff_eq] at h
  rcases h with (h | rfl) | rfl
  · exact Text.of_isAsciiNameChar (p := fun c => isSpace c = false) (by decide) h
  · decide
  · decide

theorem startsToken_write {t : Token} (ht : t.Shared) (rest : List Char) :
    StartsToken (t.write ++ rest) := by
  obtain ⟨c, cs, hcs⟩ := List.exists_cons_of_ne_nil (write_ne_nil ht)
  have hc := isTokenChar_of_mem_write ht c (hcs ▸ List.mem_cons_self)
  simp only [isTokenChar, Bool.or_eq_true, beq_iff_eq] at hc
  exact ⟨c, cs ++ rest, by rw [hcs, List.cons_append], by tauto⟩

/-! ## Reading piece by piece -/

/-- The conditions that the parts of a token are. -/
def conditionsOf (t : Token) : List Condition :=
  (if t.tag.isEmpty then [] else [.type none t.tag]) ++ (t.id.toList.map .idIs ++
    t.classes.map .inClass)

/-- The selector of a chain whose tokens are given last first. -/
def complexOf : List Token → Complex
  | [] => .compound []
  | [t] => .compound (conditionsOf t)
  | t :: u :: outer => .related (complexOf (u :: outer)) .descendant (conditionsOf t)

/-- What has been read before a token of a chain, given the tokens before it, last first. -/
def draftOf : List Token → Draft
  | [] => {}
  | u :: outer => { before := some (complexOf (u :: outer), .descendant) }

theorem current_draftOf (t : Token) (outer : List Token) :
    ({ draftOf outer with compound := conditionsOf t, begun := true } : Draft).current =
      complexOf (t :: outer) := by
  cases outer <;> rfl

theorem finished_draftOf (outer : List Token) : (draftOf outer).finished = [] := by
  cases outer <;> rfl

/-- Reading a text from a draft on has an outcome, with a number of pieces that is no less than the
number of characters. -/
def Ends (total tail : Nat) (d : Draft) (cs : List Char) (r : Except Failure (List Complex × List Char)) :
    Prop := ∀ n, cs.length < n → readSelectors total tail n false false d cs = r

section Ends

variable {total tail : Nat} {d : Draft} {cs rest : List Char}
  {r : Except Failure (List Complex × List Char)}

theorem Ends.condition {c : Condition} (htail : tail < cs.length) (hlength : rest.length < cs.length)
    (hpiece : readPiece total cs = .ok (.condition c, rest)) (h : Ends total tail (d.add c) rest r) :
    Ends total tail d cs r := by
  intro n hn
  obtain ⟨n, rfl⟩ := Nat.exists_eq_add_of_lt hn
  rw [readSelectors, if_neg (Nat.not_le.mpr htail), hpiece]
  exact h _ (by omega)

theorem Ends.type {c : Condition} (htail : tail < cs.length) (hlength : rest.length < cs.length)
    (hbegun : d.begun = false) (hpiece : readPiece total cs = .ok (.type c, rest))
    (h : Ends total tail (d.add c) rest r) : Ends total tail d cs r := by
  intro n hn
  obtain ⟨n, rfl⟩ := Nat.exists_eq_add_of_lt hn
  rw [readSelectors, if_neg (Nat.not_le.mpr htail), hpiece]
  show (if d.begun = true then _ else _) = r
  rw [if_neg (by simp [hbegun])]
  exact h _ (by omega)

theorem Ends.combinator {how : Combinator} (htail : tail < cs.length)
    (hlength : rest.length < cs.length) (hbegun : d.begun = true)
    (hpiece : readPiece total cs = .ok (.combinator (some how), rest))
    (h : Ends total tail { finished := d.finished, before := some (d.current, how) } rest r) :
    Ends total tail d cs r := by
  intro n hn
  obtain ⟨n, rfl⟩ := Nat.exists_eq_add_of_lt hn
  have hcombine : d.combine false (some how) =
      .ok { finished := d.finished, before := some (d.current, how) } := by
    simp [Draft.combine, hbegun]
  rw [readSelectors, if_neg (Nat.not_le.mpr htail), hpiece]
  show (d.combine false (some how) >>= _) = r
  rw [hcombine]
  exact h _ (by omega)

theorem Ends.finish (htail : cs.length ≤ tail) (hbegun : d.begun = true) :
    Ends total tail d cs (.ok ((d.current :: d.finished).reverse, [])) := by
  intro n hn
  obtain ⟨n, rfl⟩ := Nat.exists_eq_add_of_lt hn
  rw [readSelectors, if_pos htail]
  simp [Draft.finish, hbegun]

theorem foldl_add {cs : List Condition} (hne : cs ≠ []) (d : Draft) :
    cs.foldl Draft.add d = { d with compound := d.compound ++ cs, begun := true } := by
  induction cs generalizing d with
  | nil => exact absurd rfl hne
  | cons c cs ih =>
    cases cs with
    | nil => rfl
    | cons c' cs =>
      rw [List.foldl_cons, ih (List.cons_ne_nil _ _)]
      simp [Draft.add]

theorem Ends.classes {names : List (List Char)} (hnames : ∀ name ∈ names, Text.IsAsciiName name)
    (hrest : EndsName rest) (htail : tail ≤ rest.length)
    (h : Ends total tail ((names.map .inClass).foldl Draft.add d) rest r) :
    Ends total tail d (Token.classText names ++ rest) r := by
  induction names generalizing d with
  | nil => exact h
  | cons name names ih =>
    have hmore := ih (fun other hother => hnames other (List.mem_cons_of_mem _ hother)) h
    have htext : Token.classText (name :: names) ++ rest
        = '.' :: (name ++ (Token.classText names ++ rest)) := by
      simp [Token.classText]
    rw [htext]
    refine Ends.condition ?_ ?_ (readPiece_class (hnames name List.mem_cons_self)
      (hrest.of_classText names) total) hmore
    · simp only [List.length_cons, List.length_append]
      omega
    · simp only [List.length_cons, List.length_append]
      omega

theorem Ends.id {id : Option (List Char)} (hid : ∀ name ∈ id, Text.IsAsciiName name)
    (hrest : EndsName rest) (htail : tail ≤ rest.length)
    (h : Ends total tail ((id.toList.map .idIs).foldl Draft.add d) rest r) :
    Ends total tail d (Token.idText id ++ rest) r := by
  cases id with
  | none => exact h
  | some name =>
    refine Ends.condition ?_ ?_ (readPiece_id (hid name rfl) hrest total) h
    · simp only [Token.idText, List.length_cons, List.length_append]
      omega
    · simp only [Token.idText, List.length_cons, List.length_append]
      omega

/-- A token is read condition by condition. -/
theorem Ends.token {t : Token} (ht : t.Shared) (hbegun : d.begun = false) (hrest : EndsName rest)
    (htail : tail ≤ rest.length)
    (h : Ends total tail ((conditionsOf t).foldl Draft.add d) rest r) :
    Ends total tail d (t.write ++ rest) r := by
  rw [conditionsOf, List.foldl_append, List.foldl_append] at h
  rw [Token.write_eq, List.append_assoc, List.append_assoc]
  have hclasses := Ends.classes ht.classes hrest htail h
  have hlength : tail ≤ (Token.classText t.classes ++ rest).length := by
    rw [List.length_append]
    omega
  have hids := Ends.id ht.id (hrest.of_classText t.classes) hlength hclasses
  rcases ht.tag with htag | htag
  · rw [htag, List.nil_append]
    simpa [htag] using hids
  · have hsome : t.tag.isEmpty = false := by simpa using htag.ne_nil
    have hpos := List.length_pos_of_ne_nil htag.ne_nil
    rw [hsome] at hids
    refine Ends.type ?_ ?_ hbegun (readPiece_type htag ((hrest.of_classText _).of_idText _) total) hids
    · simp only [List.length_append] at hlength ⊢
      omega
    · simp only [List.length_append]
      omega

end Ends

theorem conditionsOf_ne_nil {t : Token} (ht : t.Shared) : conditionsOf t ≠ [] := by
  intro h
  simp only [conditionsOf, List.append_eq_nil_iff, List.map_eq_nil_iff, Option.toList_eq_nil_iff] at h
  rcases ht.nonempty with hne | hne | hne
  · simp [hne] at h
  · exact hne h.2.1
  · exact hne h.2.2

theorem Joined.startsToken {tokens : List Token} {core : List Char} (h : Joined tokens core)
    (hshared : ∀ t ∈ tokens, t.Shared) (rest : List Char) : StartsToken (core ++ rest) := by
  cases h with
  | last t => exact startsToken_write (hshared t List.mem_cons_self) rest
  | cons t hne hgap h =>
    rw [List.append_assoc]
    exact startsToken_write (hshared t List.mem_cons_self) _

theorem Joined.ne_nil {tokens : List Token} {core : List Char} (h : Joined tokens core)
    (hshared : ∀ t ∈ tokens, t.Shared) : core ≠ [] := by
  obtain ⟨c, more, hcs, -⟩ := h.startsToken hshared []
  rw [List.append_nil] at hcs
  rw [hcs]
  exact List.cons_ne_nil c more

/-- A chain is read token by token. -/
theorem Joined.ends {tokens : List Token} {core : List Char} (h : Joined tokens core)
    (hshared : ∀ t ∈ tokens, t.Shared) {back : List Char} (hback : IsGap back) (total : Nat)
    (outer : List Token) : Ends total back.length (draftOf outer) (core ++ back)
      (.ok ([complexOf (tokens.reverse ++ outer)], [])) := by
  have hfresh (outer : List Token) : (draftOf outer).begun = false ∧ (draftOf outer).compound = [] := by
    cases outer <;> exact ⟨rfl, rfl⟩
  induction h generalizing outer with
  | last t =>
    have ht := hshared t List.mem_cons_self
    refine Ends.token ht (hfresh outer).1 ?_ le_rfl ?_
    · have hends : EndsName (back ++ []) := hback.endsName fun _ => rfl
      rwa [List.append_nil] at hends
    · rw [foldl_add (conditionsOf_ne_nil ht), (hfresh outer).2, List.nil_append]
      have hfinish : Ends total back.length
          { draftOf outer with compound := conditionsOf t, begun := true } back _ :=
        .finish le_rfl rfl
      rwa [current_draftOf, finished_draftOf, List.reverse_singleton] at hfinish
  | @cons t gap ts cs hne hgap hjoined ih =>
    have ht := hshared t List.mem_cons_self
    have hmore : ∀ u ∈ ts, u.Shared := fun u hu => hshared u (List.mem_cons_of_mem _ hu)
    have hrest := ih hmore (t :: outer)
    have hstarts := hjoined.startsToken hmore back
    rw [List.append_assoc, List.append_assoc]
    have hpos := List.length_pos_of_ne_nil hne
    refine Ends.token ht (hfresh outer).1 (hgap.endsName fun h => absurd h hne) ?_ ?_
    · simp only [List.length_append]
      omega
    · rw [foldl_add (conditionsOf_ne_nil ht), (hfresh outer).2, List.nil_append]
      refine Ends.combinator ?_ ?_ rfl (readPiece_gap hne hgap hstarts total) ?_
      · simp only [List.length_append]
        omega
      · simp only [List.length_append]
        omega
      · rw [current_draftOf]
        show Ends _ _ { finished := (draftOf outer).finished, before := some (_, .descendant) } _ _
        rw [finished_draftOf, List.reverse_cons, List.append_assoc]
        exact hrest

/-! ## Whole chains -/

theorem Joined.chars {tokens : List Token} {core : List Char} (h : Joined tokens core)
    (hshared : ∀ t ∈ tokens, t.Shared) :
    (∀ c ∈ core, isTokenChar c = true ∨ isSpace c = true) ∧
      ∀ c ∈ core.getLast?, isTokenChar c = true := by
  induction h with
  | last t =>
    have hchars := isTokenChar_of_mem_write (hshared t List.mem_cons_self)
    exact ⟨fun c hc => Or.inl (hchars c hc), fun c hc => hchars c (List.mem_of_mem_getLast? hc)⟩
  | @cons t gap ts cs hne hgap hjoined ih =>
    have hmore : ∀ u ∈ ts, u.Shared := fun u hu => hshared u (List.mem_cons_of_mem _ hu)
    obtain ⟨hall, hlast⟩ := ih hmore
    have hchars := isTokenChar_of_mem_write (hshared t List.mem_cons_self)
    refine ⟨fun c hc => ?_, fun c hc => hlast c ?_⟩
    · simp only [List.mem_append] at hc
      rcases hc with hc | hc | hc
      · exact Or.inl (hchars c hc)
      · exact Or.inr (hgap c hc)
      · exact hall c hc
    · have hcs := hjoined.ne_nil hmore
      rwa [List.getLast?_append_of_ne_nil _ (by simp [hcs]), List.getLast?_append_of_ne_nil _ hcs]
        at hc

/-- **A chain of shared tokens is one selector**, with a compound for each token and descendant
combinators in between. -/
theorem read_chain {tokens : List Token} {text : String} (h : IsChain tokens text) :
    read text = .ok [complexOf tokens.reverse] := by
  obtain ⟨front, core, back, htext, hfront, hjoined, hback⟩ := h.layout
  obtain ⟨hall, hlast⟩ := hjoined.chars h.shared
  have hchar : ∀ c ∈ front ++ core, c ≠ '\x00' ∧ c ≠ '/' := by
    intro c hc
    have hcases : isTokenChar c = true ∨ isSpace c = true := by
      rcases List.mem_append.mp hc with hc | hc
      · exact Or.inr (hfront c hc)
      · exact hall c hc
    constructor <;> rintro rfl <;> revert hcases <;> decide
  have hback' : ∀ c ∈ back, c ≠ '\x00' := by
    rintro c hc rfl
    exact absurd (hback _ hc) (by decide)
  -- nothing is replaced, and what is skipped in front and left behind are the gaps there
  have hmap : (front ++ (core ++ back)).map (fun c => if c = '\x00' then '\uFFFD' else c)
      = front ++ (core ++ back) := by
    refine (List.map_congr_left fun c hc => if_neg ?_).trans (List.map_id _)
    rw [← List.append_assoc, List.mem_append] at hc
    rcases hc with hc | hc
    · exact (hchar c hc).1
    · exact hback' c hc
  have hstarts := (hjoined.startsToken h.shared back).head
  have hsolid : StartsSolid (core ++ back) := fun c hc => ⟨(hstarts c hc).1, (hstarts c hc).2.1⟩
  have htail : blankTail (front ++ (core ++ back)) = back.length := by
    rw [← List.append_assoc]
    refine blankTail_append (fun h => (hchar _ h).2 rfl) (fun c hc => ?_) hback
    rw [List.getLast?_append_of_ne_nil _ (hjoined.ne_nil h.shared)] at hc
    exact isSpace_of_isTokenChar (hlast c hc)
  have hends := hjoined.ends h.shared hback (front ++ (core ++ back)).length []
    ((front ++ (core ++ back)).length + 1) (by simp only [List.length_append]; omega)
  rw [read, htext, hmap, htail, skipBlanks_gap hfront hsolid]
  rw [List.append_nil] at hends
  simp only [draftOf] at hends
  rw [hends]
  rfl

end Markup.Css
end MarkupQuery
