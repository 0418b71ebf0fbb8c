import Mathlib.Data.List.Forall2
import Mathlib.Data.List.TakeWhile
import MarkupQuery.Markup.Conversion
import MarkupQuery.Proofs.Text.Runs

/-!
# Doctype declarations as written

A declaration is written as a name, and perhaps a keyword with one or two identifiers in quotes after
it, with blanks between the parts. `Declaration` holds the parts together with everything that a
writer is free to choose: how the letters of the keyword are written, which quotes are used and how
many blanks there are. `Declaration.text` is the text of it.

Each reader takes its own part and leaves the rest: a name ends at the blank behind it, a keyword is
taken letter by letter, and an identifier ends at the first quote of its own kind, which is the one
that closes it.

Main statement: `Declaration.becomes_stated_attributes`.
-/

namespace MarkupQuery.Markup

/-! ## The parts of a declaration -/

/-- What sets two parts off from each other: one blank or more. -/
structure Gap where
  chars : List Char
  ne_nil : chars ≠ []
  blank : ∀ c ∈ chars, Text.isBlank c = true

/-- A keyword in capital letters, as someone may write it: each letter as it is or small. -/
structure Spelling (keyword : List Char) where
  chars : List Char
  same : List.Forall₂ (fun w c => c = w ∨ c = w.toLower) keyword chars

/-- An identifier between two quotes of one kind, which does not occur in it. -/
structure Quoted where
  quote : Char
  inside : List Char
  isQuote : quote = '\'' ∨ quote = '"'
  closed : quote ∉ inside

def Quoted.text (q : Quoted) : List Char := q.quote :: (q.inside ++ [q.quote])

/-- What stands behind the name of a declaration. -/
inductive Identifiers where
  | unstated
  | publicOnly (before : Gap) (keyword : Spelling "PUBLIC".toList) (between : Gap) (publicId : Quoted)
  | publicAndSystem (before : Gap) (keyword : Spelling "PUBLIC".toList) (between : Gap)
      (publicId : Quoted) (next : Gap) (systemId : Quoted)
  | systemOnly (before : Gap) (keyword : Spelling "SYSTEM".toList) (between : Gap) (systemId : Quoted)

namespace Identifiers

def text : Identifiers → List Char
  | unstated => []
  | publicOnly before keyword between p =>
    before.chars ++ (keyword.chars ++ (between.chars ++ p.text))
  | publicAndSystem before keyword between p next s =>
    before.chars ++ (keyword.chars ++ (between.chars ++ (p.text ++ (next.chars ++ s.text))))
  | systemOnly before keyword between s =>
    before.chars ++ (keyword.chars ++ (between.chars ++ s.text))

def publicId? : Identifiers → Option (List Char)
  | publicOnly _ _ _ p => some p.inside
  | publicAndSystem _ _ _ p _ _ => some p.inside
  | _ => none

def systemId? : Identifiers → Option (List Char)
  | publicAndSystem _ _ _ _ _ s => some s.inside
  | systemOnly _ _ _ s => some s.inside
  | _ => none

end Identifiers

/-- A declaration as written. -/
structure Declaration where
  leading : List Char
  name : List Char
  identifiers : Identifiers
  trailing : List Char
  leading_blank : ∀ c ∈ leading, Text.isBlank c = true
  name_ne_nil : name ≠ []
  name_plain : ∀ c ∈ name, Text.isBlank c = false ∧ c ≠ '\'' ∧ c ≠ '"'
  trailing_blank : ∀ c ∈ trailing, Text.isBlank c = true

namespace Declaration

def text (d : Declaration) : List Char :=
  d.leading ++ (d.name ++ (d.identifiers.text ++ d.trailing))

/-- An attribute for what is stated and not empty. -/
def statedAs (key : String) (value : Option (List Char)) : Attributes :=
  (value.filter fun v => v ≠ []).toList.map fun v => (key, String.ofList v)

/-- What a declaration states: its name, and its identifiers as far as they are there. -/
def attributes (d : Declaration) : Attributes :=
  ("name", String.ofList d.name) ::
    (statedAs "publicid" d.identifiers.publicId? ++ statedAs "systemid" d.identifiers.systemId?)

end Declaration

/-! ## Reading part by part -/

namespace Doctype

variable {rest : List Char}

theorem afterBlanks_of_blank {cs : List Char} (h : ∀ c ∈ cs, Text.isBlank c = true) :
    afterBlanks cs = none ∨ afterBlanks cs = some [] := by
  cases cs with
  | nil => exact Or.inl rfl
  | cons c cs =>
    refine Or.inr ?_
    rw [afterBlanks, if_pos (h c List.mem_cons_self), List.dropWhile_eq_nil_iff.mpr]
    exact fun d hd => h d (List.mem_cons_of_mem _ hd)

/-- A gap is skipped as a whole. -/
theorem afterBlanks_append (g : Gap) (hrest : ∀ c ∈ rest.head?, Text.isBlank c = false) :
    afterBlanks (g.chars ++ rest) = some rest := by
  obtain ⟨chars, hne, hblank⟩ := g
  cases chars with
  | nil => exact absurd rfl hne
  | cons c cs =>
    show afterBlanks (c :: (cs ++ rest)) = some rest
    rw [afterBlanks, if_pos (hblank c List.mem_cons_self),
      Text.dropWhile_append_of_stop (fun d hd => hblank d (List.mem_cons_of_mem _ hd)) hrest]

/-- A name is read up to the blank behind it, or up to the end. -/
theorem readName_append {name : List Char} (hne : name ≠ [])
    (hname : ∀ c ∈ name, Text.isBlank c = false ∧ c ≠ '\'' ∧ c ≠ '"')
    (hrest : ∀ c ∈ rest.head?, Text.isBlank c = true) :
    readName (name ++ rest) = (some name, rest) := by
  have hin : ∀ c ∈ name, (!(Text.isBlank c || c == '\'' || c == '"')) = true := by
    intro c hc
    obtain ⟨hb, hs, hd⟩ := hname c hc
    simp [hb, hs, hd]
  have hstop : ∀ c ∈ rest.head?, (!(Text.isBlank c || c == '\'' || c == '"')) = false := by
    intro c hc
    simp [hrest c hc]
  rw [readName, Text.takeWhile_append_of_stop hin hstop, Text.dropWhile_append_of_stop hin hstop]
  simp [hne]

/-! ### Keywords -/

theorem afterLetters_append {word cs : List Char}
    (h : List.Forall₂ (fun w c => Text.sameLetter w c = true) word cs) :
    Text.afterLetters word (cs ++ rest) = some rest := by
  induction h with
  | nil => rfl
  | cons hwc _ ih => rw [List.cons_append, Text.afterLetters, if_pos hwc, ih]

theorem sameLetter_toLower :
    ∀ w ∈ "PUBLIC".toList ++ "SYSTEM".toList, Text.sameLetter w w.toLower = true :=
  List.all_eq_true.mp rfl

theorem afterLetters_spelling {keyword : List Char} (s : Spelling keyword)
    (hletters : ∀ w ∈ keyword, w ∈ "PUBLIC".toList ++ "SYSTEM".toList) :
    Text.afterLetters keyword (s.chars ++ rest) = some rest := by
  refine afterLetters_append (((List.forall₂_and_left _ _).mpr ⟨hletters, s.same⟩).imp ?_)
  rintro w c ⟨hw, rfl | rfl⟩
  · exact Text.sameLetter_self c
  · exact sameLetter_toLower w hw

/-- The first letter of a keyword, in either case. -/
theorem exists_head_spelling {w : Char} {ws : List Char} (s : Spelling (w :: ws)) :
    ∃ c cs, s.chars = c :: cs ∧ (c = w ∨ c = w.toLower) := by
  obtain ⟨c, cs, hc, -, hcs⟩ := List.forall₂_cons_left_iff.mp s.same
  exact ⟨c, cs, hcs, hc⟩

/-- A gap in front of a keyword is skipped. -/
theorem afterBlanks_spelling (g : Gap) {w : Char} {ws : List Char} (s : Spelling (w :: ws))
    (hw : Text.isBlank w = false) (hlower : Text.isBlank w.toLower = false) :
    afterBlanks (g.chars ++ (s.chars ++ rest)) = some (s.chars ++ rest) := by
  obtain ⟨c, cs, hcs, hc⟩ := exists_head_spelling s
  refine afterBlanks_append g ?_
  rw [hcs]
  intro d hd
  obtain rfl : c = d := by simpa using hd
  rcases hc with rfl | rfl
  · exact hw
  · exact hlower

theorem readKeyword_public (g : Gap) (s : Spelling "PUBLIC".toList) :
    readKeyword (g.chars ++ (s.chars ++ rest)) = (some .publicId, rest) := by
  have hskip : afterBlanks (g.chars ++ (s.chars ++ rest)) = some (s.chars ++ rest) :=
    afterBlanks_spelling g s (by decide) (by decide)
  have hread : Text.afterLetters "PUBLIC".toList (s.chars ++ rest) = some rest :=
    afterLetters_spelling s fun _ hw => List.mem_append_left _ hw
  simp only [readKeyword, hskip, hread]

theorem readKeyword_system (g : Gap) (s : Spelling "SYSTEM".toList) :
    readKeyword (g.chars ++ (s.chars ++ rest)) = (some .systemId, rest) := by
  have hskip : afterBlanks (g.chars ++ (s.chars ++ rest)) = some (s.chars ++ rest) :=
    afterBlanks_spelling g s (by decide) (by decide)
  -- the other keyword is tried first, and does not begin with the same letter
  have hother : Text.afterLetters "PUBLIC".toList (s.chars ++ rest) = none := by
    obtain ⟨c, cs, hcs, hc⟩ := exists_head_spelling s
    rw [hcs]
    refine if_neg ?_
    rcases hc with rfl | rfl <;> decide
  have hread : Text.afterLetters "SYSTEM".toList (s.chars ++ rest) = some rest :=
    afterLetters_spelling s fun _ hw => List.mem_append_right _ hw
  simp only [readKeyword, hskip, hother, hread]

theorem readKeyword_of_blank {cs : List Char} (h : ∀ c ∈ cs, Text.isBlank c = true) :
    readKeyword cs = (none, cs) := by
  rcases afterBlanks_of_blank h with h | h
  · simp only [readKeyword, h]
  · simp only [readKeyword, h]
    rfl

/-! ### Identifiers -/

theorem isBlank_of_isQuote {q : Char} (h : q = '\'' ∨ q = '"') : Text.isBlank q = false := by
  rcases h with rfl | rfl <;> decide

/-- An identifier is read up to the first quote of its kind, whatever else is in it. -/
theorem readQuoted_append (g : Gap) (q : Quoted) :
    readQuoted (g.chars ++ (q.text ++ rest)) = (some q.inside, rest) := by
  obtain ⟨quote, inside, hquote, hclosed⟩ := q
  have hin : ∀ c ∈ inside, (c != quote) = true := by
    intro c hc
    have hne : c ≠ quote := fun h => hclosed (h ▸ hc)
    simpa using hne
  have hstop : ∀ c ∈ (quote :: rest).head?, (c != quote) = false := by
    intro c hc
    obtain rfl : quote = c := by simpa using hc
    simp
  have htext : Quoted.text ⟨quote, inside, hquote, hclosed⟩ ++ rest
      = quote :: (inside ++ quote :: rest) := by simp [Quoted.text]
  have hskip : afterBlanks (g.chars ++ quote :: (inside ++ quote :: rest))
      = some (quote :: (inside ++ quote :: rest)) := by
    refine afterBlanks_append g fun c hc => ?_
    obtain rfl : quote = c := by simpa using hc
    exact isBlank_of_isQuote hquote
  rw [htext, readQuoted, hskip]
  simp only [if_pos hquote, Text.dropWhile_append_of_stop hin hstop,
    Text.takeWhile_append_of_stop hin hstop]

theorem readQuoted_of_blank {cs : List Char} (h : ∀ c ∈ cs, Text.isBlank c = true) :
    readQuoted cs = (none, cs) := by
  rcases afterBlanks_of_blank h with h | h <;> simp only [readQuoted, h]

end Doctype

/-! ## Reading a whole declaration -/

namespace Declaration

open Doctype

theorem head_gap_append (g : Gap) (rest : List Char) :
    ∀ c ∈ (g.chars ++ rest).head?, Text.isBlank c = true := by
  intro c hc
  obtain ⟨b, bs, hbs⟩ := List.exists_cons_of_ne_nil g.ne_nil
  rw [hbs] at hc
  obtain rfl : b = c := by simpa using hc
  exact g.blank b (by simp [hbs])

/-- Behind the name stands a blank or nothing. -/
theorem head_behind_name (d : Declaration) :
    ∀ c ∈ (d.identifiers.text ++ d.trailing).head?, Text.isBlank c = true := by
  cases d.identifiers with
  | unstated => exact fun c hc => d.trailing_blank c (List.mem_of_head? hc)
  | publicOnly before _ _ _ =>
    rw [Identifiers.text, List.append_assoc]
    exact head_gap_append before _
  | publicAndSystem before _ _ _ _ _ =>
    rw [Identifiers.text, List.append_assoc]
    exact head_gap_append before _
  | systemOnly before _ _ _ =>
    rw [Identifiers.text, List.append_assoc]
    exact head_gap_append before _

theorem readName_text (d : Declaration) :
    readName (d.text.dropWhile Text.isBlank) = (some d.name, d.identifiers.text ++ d.trailing) := by
  have hstop : ∀ c ∈ (d.name ++ (d.identifiers.text ++ d.trailing)).head?,
      Text.isBlank c = false := by
    intro c hc
    obtain ⟨n, ns, hns⟩ := List.exists_cons_of_ne_nil d.name_ne_nil
    rw [hns] at hc
    obtain rfl : n = c := by simpa using hc
    exact (d.name_plain n (by simp [hns])).1
  rw [text, Text.dropWhile_append_of_stop d.leading_blank hstop,
    readName_append d.name_ne_nil d.name_plain d.head_behind_name]

/-- The parts that are read from a declaration. -/
def parts (d : Declaration) : Doctype :=
  match d.identifiers with
  | .unstated => ⟨some d.name, none, none, none⟩
  | .publicOnly _ _ _ p => ⟨some d.name, some .publicId, some p.inside, none⟩
  | .publicAndSystem _ _ _ p _ s => ⟨some d.name, some .publicId, some p.inside, some s.inside⟩
  | .systemOnly _ _ _ s => ⟨some d.name, some .systemId, some s.inside, none⟩

theorem read_text (d : Declaration) : Doctype.read d.text = d.parts := by
  have htrailing := readQuoted_of_blank d.trailing_blank
  rw [Doctype.read, d.readName_text, parts]
  cases d.identifiers with
  | unstated =>
    simp only [Identifiers.text, List.nil_append, readKeyword_of_blank d.trailing_blank, htrailing]
  | publicOnly before keyword between p =>
    simp only [Identifiers.text, List.append_assoc, readKeyword_public, readQuoted_append, htrailing]
  | publicAndSystem before keyword between p next s =>
    simp only [Identifiers.text, List.append_assoc, readKeyword_public, readQuoted_append]
  | systemOnly before keyword between s =>
    simp only [Identifiers.text, List.append_assoc, readKeyword_system, readQuoted_append, htrailing]

/-! ## What is stated -/

theorem part_eq_statedAs (key : String) (value : Option (List Char)) :
    part key value = statedAs key value := by
  rcases value with _ | _ | ⟨c, cs⟩ <;> rfl

theorem attributes?_parts (d : Declaration) : d.parts.attributes? = some d.attributes := by
  have hname : part "name" (some d.name) = [("name", String.ofList d.name)] := by
    obtain ⟨n, ns, hns⟩ := List.exists_cons_of_ne_nil d.name_ne_nil
    rw [hns]
    rfl
  rw [parts, attributes]
  cases d.identifiers <;>
    simp [attributes?, hname, part_eq_statedAs, Identifiers.publicId?, Identifiers.systemId?, statedAs]

/-- **A doctype turns into the attributes that its declaration states**, in their order and each of
them once, whatever quotes, blanks and letters the declaration is written with. An identifier that
is not stated, or is empty, is left out. -/
theorem becomes_stated_attributes (d : Declaration) :
    (ParseTree.string .doctype (String.ofList d.text)).toNode = .doctype (some d.attributes) := by
  rw [ParseTree.toNode, convertString, String.toList_ofList, d.read_text, d.attributes?_parts]

/-- A declaration with a keyword in letters of both cases, both kinds of quotes, and a line end in an
identifier. -/
def mixed : Declaration where
  leading := [' ']
  name := ['h', 't', 'm', 'l']
  identifiers := .publicAndSystem ⟨['\t'], nofun, List.all_eq_true.mp rfl⟩
    ⟨['p', 'U', 'b', 'L', 'i', 'C'], by repeat' first | exact .nil | refine .cons (by decide) ?_⟩
    ⟨[' ', ' '], nofun, List.all_eq_true.mp rfl⟩ ⟨'\'', ['"'], Or.inl rfl, by simp⟩
    ⟨['\n'], nofun, List.all_eq_true.mp rfl⟩ ⟨'"', ['a', '\'', '\n', 'b'], Or.inr rfl, by simp⟩
  trailing := [' ']
  leading_blank := List.all_eq_true.mp rfl
  name_ne_nil := nofun
  name_plain := by
    simp only [List.forall_mem_cons, List.not_mem_nil, false_implies, implies_true, and_true]
    decide
  trailing_blank := List.all_eq_true.mp rfl

theorem becomes_stated_attributes_mixed :
    (ParseTree.string .doctype " html\tpUbLiC  '\"'\n\"a'\nb\" ").toNode
      = .doctype (some [("name", "html"), ("publicid", "\""), ("systemid", "a'\nb")]) :=
  becomes_stated_attributes mixed

example : (ParseTree.string .doctype " html\tpUbLiC '' \"a'\nb\" ").toNode
    = .doctype (some [("name", "html"), ("systemid", "a'\nb")]) := by with_unfolding_all rfl

end Declaration
end MarkupQuery.Markup
