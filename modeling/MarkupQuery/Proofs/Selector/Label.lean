import MarkupQuery.Proofs.Selector.Grammar
import MarkupQuery.Tree.Label

/-!
# Labels as tokens

A label writes an element's tag, a hash and the id, then a dot and a word for each word of the class.
What is absent or empty is left out. Tokens are written in the same way, so a label is the text of the
token that has the element's own parts (`Node.text_token`). Where the parts may stand in a token, the
label is read back as that token.

A class of blanks only has no words. Its label is that of an element without a class, and so is what
the token asks for.

Main statement: `Node.Tokenized.label_selects_its_parts`.
-/

namespace MarkupQuery
namespace Node

/-- The words of a node's class. Without a class there are none. -/
def classWords (n : Node) : List String := Text.words ((n.attribute? "class").getD "")

/-- The parts of an element may stand in a token: the tag is in lower case and starts with an ASCII
letter, the id is a name unless it is absent or empty, and the words of the class are names. -/
structure Tokenized (e : Node) : Prop where
  tag : ∃ tag c cs, e.tag? = some tag ∧ Text.lower tag = tag ∧ tag.toList = c :: cs ∧
    (('A' ≤ c ∧ c ≤ 'Z') ∨ ('a' ≤ c ∧ c ≤ 'z')) ∧ ∀ d ∈ cs, Token.isNameChar d = true
  id : ∀ v, e.attribute? "id" = some v → v ≠ "" → Token.IsName v.toList
  classes : ∀ w ∈ e.classWords, Token.IsName w.toList

/-- The token with the parts of an element. -/
def token (e : Node) : Token where
  tag := (e.tag?.getD "").toList
  id := (e.nonemptyAttribute? "id").map String.toList
  classes := e.classWords.map String.toList

/-! ## The label as a text of a token -/

theorem nonemptyAttribute?_eq_some_iff {n : Node} {name v : String} :
    n.nonemptyAttribute? name = some v ↔ n.attribute? name = some v ∧ v ≠ "" := by
  simp [nonemptyAttribute?, Option.filter_eq_some_iff]

/-- An empty class has no words, as none has. -/
theorem classWords_eq (n : Node) :
    n.classWords = Text.words ((n.nonemptyAttribute? "class").getD "") := by
  rw [classWords, nonemptyAttribute?]
  cases n.attribute? "class" with
  | none => rfl
  | some v =>
    by_cases hempty : v = ""
    · rw [hempty]
      rfl
    · rw [Option.filter_some, if_pos (by simpa using hempty)]

theorem toList_join_dotted (ws : List String) :
    (String.join (ws.map ("." ++ ·))).toList = Token.classText (ws.map String.toList) := by
  induction ws with
  | nil => rfl
  | cons w ws ih =>
    rw [List.map_cons, String.join_cons, String.toList_append, ih, String.toList_append]
    rfl

/-- The label of an element is the text of its token. -/
theorem text_token {e : Node} {tag : String} (htag : e.tag? = some tag) : e.token.text = e.label := by
  cases e with
  | element own attributes children =>
    rw [Token.text, Token.write_eq, token, classWords_eq, label, ← String.toList_inj,
      String.toList_ofList, String.toList_append, String.toList_append, List.append_assoc]
    -- what is absent or empty is left out of both
    congr 2
    · cases nonemptyAttribute? (element own attributes children) "id" with
      | none => rfl
      | some v => exact (String.toList_append (s := "#")).symm
    · cases nonemptyAttribute? (element own attributes children) "class" with
      | none => rfl
      | some v => exact (toList_join_dotted _).symm
  | _ => cases htag

/-! ## What the token asks for -/

section Parts

variable {e n : Node}

theorem id_token_iff : (∀ name ∈ e.token.id, n.attribute? "id" = some (String.ofList name)) ↔
    ∀ v, e.attribute? "id" = some v → v ≠ "" → n.attribute? "id" = some v := by
  constructor
  · intro h v hid hne
    have hv := nonemptyAttribute?_eq_some_iff.mpr ⟨hid, hne⟩
    rw [h v.toList (Option.map_eq_some_iff.mpr ⟨v, hv, rfl⟩), String.ofList_toList]
  · intro h name hname
    obtain ⟨v, hv, rfl⟩ := Option.map_eq_some_iff.mp hname
    obtain ⟨hid, hne⟩ := nonemptyAttribute?_eq_some_iff.mp hv
    rw [h v hid hne, String.ofList_toList]

theorem classes_token_iff : (∀ name ∈ e.token.classes, ∃ v, n.attribute? "class" = some v ∧
      String.ofList name ∈ Text.words v) ↔ ∀ w ∈ e.classWords, w ∈ n.classWords := by
  rw [token, List.forall_mem_map]
  refine forall₂_congr fun w _ => ?_
  rw [String.ofList_toList]
  exact (Token.mem_classWords_iff (l := .ofRoot n)).symm

end Parts

namespace Tokenized

variable {e : Node}

theorem wellFormed (h : e.Tokenized) : e.token.WellFormed where
  tag := by
    obtain ⟨tag, c, cs, htag, -, hcs, hletter, hrest⟩ := h.tag
    refine Or.inr (Or.inr ⟨c, cs, ?_, hletter, hrest⟩)
    rw [token, htag, Option.getD_some, hcs]
  id := by
    rintro name hname
    obtain ⟨v, hv, rfl⟩ := Option.map_eq_some_iff.mp hname
    obtain ⟨hid, hne⟩ := nonemptyAttribute?_eq_some_iff.mp hv
    exact h.id v hid hne
  classes := List.forall_mem_map.mpr h.classes

/-- The tag of the token is not open, and names the tag as it is. -/
theorem tag_token_iff (h : e.Tokenized) (n : Node) :
    (e.token.tag = [] ∨ e.token.tag = ['*'] ∨
      n.tag? = some (Text.lower (String.ofList e.token.tag))) ↔ n.tag? = e.tag? := by
  obtain ⟨tag, c, cs, htag, hlower, hcs, hletter, -⟩ := h.tag
  have htoken : e.token.tag = tag.toList := by rw [token, htag, Option.getD_some]
  have hstar : tag.toList ≠ ['*'] := by
    rw [hcs]
    rintro hopen
    obtain rfl := (List.cons.inj hopen).1
    revert hletter
    decide
  rw [htoken, String.ofList_toList, hlower, htag, or_iff_right (by simp [hcs]), or_iff_right hstar]

/-- The token of an element matches the nodes that have its parts. -/
theorem matches_token_iff (h : e.Tokenized) (n : Node) : e.token.Matches n ↔
    n.tag? = e.tag? ∧
    (∀ v, e.attribute? "id" = some v → v ≠ "" → n.attribute? "id" = some v) ∧
    ∀ w ∈ e.classWords, w ∈ n.classWords := by
  rw [← h.tag_token_iff n, ← id_token_iff, ← classes_token_iff]
  exact ⟨fun hm => ⟨hm.tag, hm.id, hm.classes⟩, fun hp => ⟨hp.1, hp.2.1, hp.2.2⟩⟩

/-- The label of an element is read as the selector of its token. -/
theorem ofToken_label (h : e.Tokenized) :
    ∃ p, Selector.ofToken e.label = .ok p ∧ p.holds = e.token.test.holds := by
  obtain ⟨tag, -, -, htag, -⟩ := h.tag
  have hread : Token.read? e.label.toList = some e.token :=
    Token.read?_text_iff.mpr ⟨h.wellFormed, text_token htag⟩
  refine ⟨{ e.token.test with name := if e.label.isEmpty then "*" else e.label }, ?_, rfl⟩
  simp only [Selector.ofToken, hread]

/-- **The label of an element selects the nodes that have its parts.** It is read without a failure,
whatever the number of classes, and the selector always has an answer. It holds where the tag is the
same, the id too unless there is none or it is empty, and every word of the class is among the words
there; so it holds at the element itself. -/
theorem label_selects_its_parts (h : e.Tokenized) :
    ∃ p, Selector.ofToken e.label = .ok p ∧ p.IsTotal ∧
      (∀ l, p.HoldsAt l ↔ l.node.tag? = e.tag? ∧
        (∀ v, e.attribute? "id" = some v → v ≠ "" → l.node.attribute? "id" = some v) ∧
        ∀ w ∈ e.classWords, w ∈ l.node.classWords) ∧
      ∀ l, l.node = e → p.HoldsAt l := by
  obtain ⟨p, hp, htest⟩ := h.ofToken_label
  have hholds : ∀ l, p.HoldsAt l ↔ l.node.tag? = e.tag? ∧
      (∀ v, e.attribute? "id" = some v → v ≠ "" → l.node.attribute? "id" = some v) ∧
      ∀ w ∈ e.classWords, w ∈ l.node.classWords := by
    intro l
    rw [← h.matches_token_iff, ← e.token.holdsAt_test_iff, Selector.HoldsAt, htest,
      Selector.HoldsAt]
  refine ⟨p, hp, ?_, hholds, ?_⟩
  · rw [Selector.IsTotal, htest]
    exact e.token.isTotal_test
  · rintro l rfl
    exact (hholds l).mpr ⟨rfl, fun v hid _ => hid, fun w hw => hw⟩

/-- An id, and a class that stands twice among blanks: at a node that has more words in another order,
and at one that has a class too few. -/
theorem label_selects_its_parts_repeated_class :
    let e : Node := .element "h1" (some [("id", "x-1"), ("class", "  a b\ta ")]) []
    e.Tokenized ∧ e.label = "h1#x-1.a.b.a" ∧
      ∃ p, Selector.ofToken "h1#x-1.a.b.a" = .ok p ∧
        p.HoldsAt (.ofRoot (.element "h1" (some [("class", "b c a"), ("id", "x-1")]) [e])) ∧
        ¬ p.HoldsAt (.ofRoot (.element "h1" (some [("id", "x-1"), ("class", "a")]) [])) := by
  intro e
  have hwords : e.classWords = ["a", "b", "a"] := by decide
  have hid : ∀ v, e.attribute? "id" = some v → v = "x-1" := by
    intro v hv
    exact (Option.some.inj hv).symm
  have he : e.Tokenized := {
    tag := ⟨"h1", 'h', ['1'], rfl, by decide, rfl, by decide, List.all_eq_true.mp rfl⟩
    id := by
      rintro v hv -
      rw [hid v hv]
      exact ⟨by decide, List.all_eq_true.mp rfl⟩
    classes := by
      rw [hwords]
      intro w hw
      simp only [List.mem_cons, List.not_mem_nil, or_false] at hw
      rcases hw with rfl | rfl | rfl <;> exact ⟨by decide, List.all_eq_true.mp rfl⟩ }
  obtain ⟨p, hp, -, hholds, -⟩ := label_selects_its_parts he
  refine ⟨he, rfl, p, hp, (hholds _).mpr ⟨rfl, ?_, ?_⟩, fun h => ?_⟩
  · rintro v hv -
    rw [hid v hv]
    rfl
  · rw [hwords]
    decide
  · have hall := ((hholds _).mp h).2.2
    rw [hwords] at hall
    exact absurd (hall "b" (by simp)) (by decide)

end Tokenized

/-- The grammar is narrower at the start of a tag than after it. A letter beyond ASCII may stand in a
tag but not start it, and the label of an element with such a tag is refused. -/
theorem accented_tag_label_is_refused :
    let e : Node := .element "é" none []
    Text.lower "É" = "é" ∧ Text.lower "é" = "é" ∧ Text.isWordChar 'é' = true ∧
      e.attribute? "id" = none ∧ e.classWords = [] ∧ e.label = "é" ∧
      ¬ ∃ p, Selector.ofToken e.label = .ok p := by
  intro e
  have hrefused : Selector.ofToken "é" = .error (.malformedToken "é") := by
    have hread : Token.read? "é".toList = none := by
      simp [Token.read?, Token.readTag, Token.isTagStart, Token.readId, Token.readClasses]
    simp only [Selector.ofToken, hread]
  refine ⟨by decide, by decide, by decide +kernel, rfl, rfl, rfl, ?_⟩
  rintro ⟨p, hp⟩
  rw [show e.label = "é" from rfl, hrefused] at hp
  cases hp

end Node
end MarkupQuery
