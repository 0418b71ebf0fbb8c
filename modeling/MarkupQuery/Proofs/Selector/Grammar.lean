import MarkupQuery.Proofs.Selector.Answer
import MarkupQuery.Proofs.Text.Runs
import MarkupQuery.Selector.Token

/-!
# The grammar of selector tokens

A token's text is a tag, an id and classes, in this order. `Token.WellFormed` says which parts may be
written, `Token.write` writes them one after the other, and `Token.Matches` says where a token holds,
all three without a reader.

* `Token.read?_eq_some_iff` — the reader accepts what is written from well-formed parts, and nothing
  else, and finds the parts again
* `Token.holdsAt_test_iff` — the selector made of the parts holds where the token matches

Reading takes the longest name each time. That never takes too much, because a name is followed by
the end of the text, a hash or a dot, and none of them is a name character.

Main statement: `Selector.ofToken_follows_grammar`.
-/

namespace MarkupQuery
namespace Token

/-! ## What may be written -/

/-- A name: one name character or more. -/
def IsName (cs : List Char) : Prop := cs ≠ [] ∧ ∀ c ∈ cs, isNameChar c = true

/-- The parts of a token that follow the grammar: no tag, a star, or an ASCII letter with name
characters after it; no id or a name; any number of classes, each of them a name. -/
structure WellFormed (t : Token) : Prop where
  tag : t.tag = [] ∨ t.tag = ['*'] ∨ ∃ c cs, t.tag = c :: cs ∧
    (('A' ≤ c ∧ c ≤ 'Z') ∨ ('a' ≤ c ∧ c ≤ 'z')) ∧ ∀ d ∈ cs, isNameChar d = true
  id : ∀ name ∈ t.id, IsName name
  classes : ∀ name ∈ t.classes, IsName name

/-- Where a token holds: the tag, if it is not open, is the node's in lower case; the id, if there is
one, is the node's; every class is a word of the node's class attribute. -/
structure Matches (t : Token) (n : Node) : Prop where
  tag : t.tag = [] ∨ t.tag = ['*'] ∨ n.tag? = some (Text.lower (String.ofList t.tag))
  id : ∀ name ∈ t.id, n.attribute? "id" = some (String.ofList name)
  classes : ∀ name ∈ t.classes, ∃ v, n.attribute? "class" = some v ∧
    String.ofList name ∈ Text.words v

theorem isTagStart_iff (c : Char) :
    isTagStart c = true ↔ ('A' ≤ c ∧ c ≤ 'Z') ∨ ('a' ≤ c ∧ c ≤ 'z') := by
  show (c.isUpper || c.isLower) = true ↔ _
  rw [Bool.or_eq_true]
  delta Char.isUpper Char.isLower
  simp [Char.le_def]

/-! ## Where names stop -/

theorem isNameChar_hash : isNameChar '#' = false := by decide +kernel

theorem isNameChar_dot : isNameChar '.' = false := by decide +kernel

/-- A text that no name can be continued with: it is empty, or starts with a hash or a dot. -/
def Stops (rest : List Char) : Prop := ∀ c ∈ rest.head?, c = '#' ∨ c = '.'

theorem Stops.isNameChar_eq_false {rest : List Char} (h : Stops rest) :
    ∀ c ∈ rest.head?, isNameChar c = false := by
  intro c hc
  rcases h c hc with rfl | rfl
  · exact isNameChar_hash
  · exact isNameChar_dot

/-- Reading name characters from a name gives the name back. -/
theorem takeWhile_name {name rest : List Char} (hname : ∀ c ∈ name, isNameChar c = true)
    (hrest : Stops rest) : (name ++ rest).takeWhile isNameChar = name :=
  Text.takeWhile_append_of_stop hname hrest.isNameChar_eq_false

theorem dropWhile_name {name rest : List Char} (hname : ∀ c ∈ name, isNameChar c = true)
    (hrest : Stops rest) : (name ++ rest).dropWhile isNameChar = rest :=
  Text.dropWhile_append_of_stop hname hrest.isNameChar_eq_false

theorem isName_takeWhile {cs : List Char} (h : (cs.takeWhile isNameChar).isEmpty = false) :
    IsName (cs.takeWhile isNameChar) := by
  refine ⟨by simpa using h, ?_⟩
  exact List.all_eq_true.mp List.all_takeWhile

/-! ## Reading what was written -/

/-- The text of an id, or nothing. -/
def idText : Option (List Char) → List Char
  | some id => '#' :: id
  | none => []

/-- The text of classes. -/
def classText (names : List (List Char)) : List Char := names.flatMap ('.' :: ·)

theorem write_eq (t : Token) : t.write = t.tag ++ (idText t.id ++ classText t.classes) := by
  rw [write, List.append_assoc]
  rfl

theorem stops_classText (names : List (List Char)) : Stops (classText names) := by
  cases names with
  | nil => exact fun c hc => absurd hc (by simp [classText])
  | cons name names =>
    intro c hc
    obtain rfl : '.' = c := by simpa [classText] using hc
    exact Or.inr rfl

theorem stops_idText_append (id : Option (List Char)) (names : List (List Char)) :
    Stops (idText id ++ classText names) := by
  cases id with
  | none => exact stops_classText names
  | some id =>
    intro c hc
    obtain rfl : '#' = c := by simpa [idText] using hc
    exact Or.inl rfl

theorem readTag_append {t : Token} (ht : t.WellFormed) {rest : List Char} (hrest : Stops rest) :
    readTag (t.tag ++ rest) = (t.tag, rest) := by
  rcases ht.tag with h | h | ⟨c, cs, h, hc, hcs⟩
  · rw [h, List.nil_append]
    cases rest with
    | nil => rfl
    | cons c cs => rcases hrest c rfl with rfl | rfl <;> rfl
  · rw [h]
    rfl
  · have hstart : isTagStart c = true := (isTagStart_iff c).mpr hc
    have hstar : c ≠ '*' := by
      rintro rfl
      exact absurd hstart (by decide)
    rw [h, List.cons_append, readTag, if_neg hstar, if_pos hstart, takeWhile_name hcs hrest,
      dropWhile_name hcs hrest]

theorem readId_append {id : Option (List Char)} (hid : ∀ name ∈ id, IsName name)
    (names : List (List Char)) : readId (idText id ++ classText names) = (id, classText names) := by
  cases id with
  | none => cases names <;> rfl
  | some name =>
    obtain ⟨hne, hname⟩ := hid name rfl
    rw [idText, List.cons_append, readId, takeWhile_name hname (stops_classText names),
      dropWhile_name hname (stops_classText names)]
    simp [hne]

theorem readClasses_classText {names : List (List Char)} (h : ∀ name ∈ names, IsName name) :
    readClasses (classText names) = some names := by
  induction names with
  | nil => rw [classText, List.flatMap_nil, readClasses]
  | cons name names ih =>
    obtain ⟨hne, hname⟩ := h name List.mem_cons_self
    have htext : classText (name :: names) = '.' :: (name ++ classText names) := by
      rw [classText, List.flatMap_cons, List.cons_append]
      rfl
    rw [htext, readClasses, if_pos rfl, takeWhile_name hname (stops_classText names),
      dropWhile_name hname (stops_classText names),
      ih fun other hother => h other (List.mem_cons_of_mem _ hother)]
    simp [hne]

/-- What is written from well-formed parts is read back. -/
theorem read?_write {t : Token} (ht : t.WellFormed) : read? t.write = some t := by
  rw [write_eq, read?, readTag_append ht (stops_idText_append _ _)]
  simp only [readId_append ht.id, readClasses_classText ht.classes, Option.map_some]

/-! ## Writing what was read -/

theorem of_readTag {cs tag rest : List Char} (h : readTag cs = (tag, rest)) :
    tag ++ rest = cs ∧ (tag = [] ∨ tag = ['*'] ∨ ∃ c ds, tag = c :: ds ∧
      (('A' ≤ c ∧ c ≤ 'Z') ∨ ('a' ≤ c ∧ c ≤ 'z')) ∧ ∀ d ∈ ds, isNameChar d = true) := by
  unfold readTag at h
  split at h
  · cases h
    exact ⟨rfl, Or.inl rfl⟩
  · next c cs =>
    split at h
    · next hstar =>
      cases h
      exact ⟨by rw [hstar]; rfl, Or.inr (Or.inl rfl)⟩
    · split at h
      · next hstart =>
        cases h
        refine ⟨by rw [List.cons_append, List.takeWhile_append_dropWhile], Or.inr (Or.inr ?_)⟩
        exact ⟨c, _, rfl, (isTagStart_iff c).mp hstart, List.all_eq_true.mp List.all_takeWhile⟩
      · cases h
        exact ⟨rfl, Or.inl rfl⟩

theorem of_readId {cs rest : List Char} {id : Option (List Char)} (h : readId cs = (id, rest)) :
    idText id ++ rest = cs ∧ ∀ name ∈ id, IsName name := by
  unfold readId at h
  split at h
  · next cs =>
    dsimp only at h
    split at h
    · cases h
      exact ⟨rfl, by simp⟩
    · next hne =>
      cases h
      refine ⟨by rw [idText, List.cons_append, List.takeWhile_append_dropWhile], ?_⟩
      intro name hname
      obtain rfl := Option.some.inj hname
      exact isName_takeWhile (by simpa using hne)
  · cases h
    exact ⟨rfl, by simp⟩

theorem of_readClasses : ∀ (cs : List Char) {names : List (List Char)},
    readClasses cs = some names → classText names = cs ∧ ∀ name ∈ names, IsName name
  | [], names, h => by
    rw [readClasses] at h
    cases h
    exact ⟨rfl, by simp⟩
  | c :: cs, names, h => by
    rw [readClasses] at h
    split at h
    · next hdot =>
      dsimp only at h
      split at h
      · cases h
      · next hne =>
        obtain ⟨others, hothers, rfl⟩ := Option.map_eq_some_iff.mp h
        obtain ⟨htext, hall⟩ := of_readClasses (cs.dropWhile isNameChar) hothers
        constructor
        · show '.' :: (cs.takeWhile isNameChar ++ classText others) = c :: cs
          rw [htext, List.takeWhile_append_dropWhile, hdot]
        · intro other hother
          rcases List.mem_cons.mp hother with rfl | hother
          · exact isName_takeWhile (by simpa using hne)
          · exact hall other hother
    · cases h
termination_by cs => cs.length
decreasing_by
  have := (List.dropWhile_suffix isNameChar (l := cs)).length_le
  simp
  omega

/-- Reading and writing are inverse to each other on well-formed parts. -/
theorem read?_eq_some_iff {cs : List Char} {t : Token} :
    read? cs = some t ↔ t.WellFormed ∧ t.write = cs := by
  constructor
  · intro h
    cases htag : readTag cs with
    | mk tag afterTag =>
      cases hid : readId afterTag with
      | mk id afterId =>
        simp only [read?, htag, hid] at h
        obtain ⟨names, hnames, rfl⟩ := Option.map_eq_some_iff.mp h
        obtain ⟨htext, htagwf⟩ := of_readTag htag
        obtain ⟨hidText, hidwf⟩ := of_readId hid
        obtain ⟨hclasses, hclasseswf⟩ := of_readClasses afterId hnames
        exact ⟨⟨htagwf, hidwf, hclasseswf⟩, by rw [write_eq, hclasses, hidText, htext]⟩
  · rintro ⟨ht, rfl⟩
    exact read?_write ht

/-! ## Where a token holds -/

/-- The test for a tag; an open one holds everywhere. -/
def tagTest (tag : List Char) : Selector :=
  if tag = [] ∨ tag = ['*'] then .anyNode else .tagIs (String.ofList tag)

/-- The test for an id, or for none. -/
def idTest : Option (List Char) → Selector
  | some id => .idIs (String.ofList id)
  | none => .anyNode

/-- The test for classes. -/
def classTest (names : List (List Char)) : Selector :=
  if names.isEmpty then .anyNode else .classesInclude (names.map String.ofList)

theorem test_eq (t : Token) :
    t.test = Selector.all [tagTest t.tag, idTest t.id, classTest t.classes] := by
  rcases t with ⟨tag, _ | id, names⟩ <;> rfl

theorem isTotal_tagTest (tag : List Char) : (tagTest tag).IsTotal := by
  unfold tagTest
  split <;> exact Selector.isTotal_looking _ _

theorem isTotal_idTest (id : Option (List Char)) : (idTest id).IsTotal := by
  cases id <;> exact Selector.isTotal_looking _ _

theorem isTotal_classTest (names : List (List Char)) : (classTest names).IsTotal := by
  unfold classTest
  split <;> exact Selector.isTotal_looking _ _

theorem isTotal_parts (t : Token) :
    ∀ p ∈ [tagTest t.tag, idTest t.id, classTest t.classes], p.IsTotal := by
  intro p hp
  simp only [List.mem_cons, List.not_mem_nil, or_false] at hp
  rcases hp with rfl | rfl | rfl
  · exact isTotal_tagTest _
  · exact isTotal_idTest _
  · exact isTotal_classTest _

theorem holdsAt_anyNode (l : Location) : Selector.anyNode.HoldsAt l :=
  Selector.holdsAt_looking_iff.mpr rfl

theorem holdsAt_tagTest_iff {tag : List Char} {l : Location} : (tagTest tag).HoldsAt l ↔
    tag = [] ∨ tag = ['*'] ∨ l.node.tag? = some (Text.lower (String.ofList tag)) := by
  unfold tagTest
  split
  · next hopen => exact iff_of_true (holdsAt_anyNode l) (by rcases hopen with h | h <;> simp [h])
  · next hopen =>
    rw [Selector.tagIs, Selector.holdsAt_looking_iff, beq_iff_eq, ← or_assoc, or_iff_right hopen]
    rfl

theorem lower_id : Text.lower "id" = "id" := by decide

theorem holdsAt_idTest_iff {id : Option (List Char)} {l : Location} : (idTest id).HoldsAt l ↔
    ∀ name ∈ id, l.node.attribute? "id" = some (String.ofList name) := by
  cases id with
  | none => exact iff_of_true (holdsAt_anyNode l) (by simp)
  | some name =>
    show (Selector.attributeIs "id" (String.ofList name)).HoldsAt l ↔ _
    rw [Selector.attributeIs, Selector.holdsAt_looking_iff, lower_id, beq_iff_eq]
    simp [Subject.attribute?, Subject.node?]

theorem mem_classWords_iff {c : String} {l : Location} : c ∈ Selector.classWords (.position l) ↔
    ∃ v, l.node.attribute? "class" = some v ∧ c ∈ Text.words v := by
  rw [Selector.classWords]
  show c ∈ Text.words ((l.node.attribute? "class").getD "") ↔ _
  -- without the attribute the words are those of the empty text, and it has none
  cases l.node.attribute? "class" with
  | none => exact iff_of_false (by simp [Text.words, Text.wordsOf]) (by simp)
  | some v => simp

theorem holdsAt_classTest_iff {names : List (List Char)} {l : Location} :
    (classTest names).HoldsAt l ↔ ∀ name ∈ names, ∃ v, l.node.attribute? "class" = some v ∧
      String.ofList name ∈ Text.words v := by
  unfold classTest
  split
  · next hnone =>
    rw [List.isEmpty_iff.mp hnone]
    exact iff_of_true (holdsAt_anyNode l) (by simp)
  · rw [Selector.classesInclude, Selector.holdsAt_looking_iff, List.all_eq_true, List.forall_mem_map]
    simp only [List.contains_iff_mem, mem_classWords_iff]

/-- The selector made of the parts holds where the token matches. -/
theorem holdsAt_test_iff (t : Token) (l : Location) : t.test.HoldsAt l ↔ t.Matches l.node := by
  rw [test_eq, Selector.holdsAt_all_iff t.isTotal_parts, List.forall_mem_cons, List.forall_mem_cons,
    List.forall_mem_singleton, holdsAt_tagTest_iff, holdsAt_idTest_iff, holdsAt_classTest_iff]
  exact ⟨fun h => ⟨h.1, h.2.1, h.2.2⟩, fun h => ⟨h.tag, h.id, h.classes⟩⟩

theorem isTotal_test (t : Token) : t.test.IsTotal := by
  rw [test_eq]
  exact Selector.isTotal_all t.isTotal_parts

/-- The text of a token. -/
def text (t : Token) : String := String.ofList t.write

theorem read?_text_iff {s : String} {t : Token} :
    read? s.toList = some t ↔ t.WellFormed ∧ t.text = s := by
  rw [read?_eq_some_iff]
  refine and_congr_right fun _ => ⟨fun h => ?_, fun h => ?_⟩
  · rw [text, h, String.ofList_toList]
  · rw [← h, text, String.toList_ofList]

end Token

namespace Selector

/-- **A text is a token exactly when it follows the grammar, and then means what its parts say.** The
parts are determined by the text. Any other text is refused with a failure that names it. -/
theorem ofToken_follows_grammar (s : String) :
    ((∃ p, ofToken s = .ok p) ↔ ∃ t : Token, t.WellFormed ∧ t.text = s) ∧
    (∀ t u : Token, t.WellFormed → u.WellFormed → t.text = s → u.text = s → t = u) ∧
    (∀ t : Token, t.WellFormed → t.text = s →
      ∃ p, ofToken s = .ok p ∧ p.IsTotal ∧ ∀ l, p.HoldsAt l ↔ t.Matches l.node) ∧
    ((¬ ∃ t : Token, t.WellFormed ∧ t.text = s) →
      ofToken s = .error (.malformedToken s) ∧
        (Failure.malformedToken s).className = "SelectorSyntaxError") := by
  have haccept : ∀ t, Token.read? s.toList = some t →
      ofToken s = .ok { t.test with name := if s.isEmpty then "*" else s } := by
    intro t ht
    simp only [ofToken, ht]
  have hrefuse : Token.read? s.toList = none → ofToken s = .error (.malformedToken s) := by
    intro hn
    simp only [ofToken, hn]
  have hread : ∀ t : Token, t.WellFormed → t.text = s → Token.read? s.toList = some t :=
    fun t ht hs => Token.read?_text_iff.mpr ⟨ht, hs⟩
  refine ⟨⟨?_, ?_⟩, ?_, ?_, ?_⟩
  · rintro ⟨p, hp⟩
    cases hr : Token.read? s.toList with
    | some t => exact ⟨t, Token.read?_text_iff.mp hr⟩
    | none =>
      rw [hrefuse hr] at hp
      cases hp
  · rintro ⟨t, ht, hs⟩
    exact ⟨_, haccept t (hread t ht hs)⟩
  · intro t u ht hu hts hus
    exact Option.some.inj ((hread t ht hts).symm.trans (hread u hu hus))
  · intro t ht hs
    exact ⟨_, haccept t (hread t ht hs), t.isTotal_test, t.holdsAt_test_iff⟩
  · intro hno
    -- what is read from the text would be a decomposition of it
    refine ⟨hrefuse ?_, rfl⟩
    cases hr : Token.read? s.toList with
    | none => rfl
    | some t => exact absurd ⟨t, Token.read?_text_iff.mp hr⟩ hno

/-- All three kinds of parts, at a node that has them in another order; and a class without a name,
which is refused. -/
theorem ofToken_follows_grammar_three_parts :
    (∃ t : Token, t.WellFormed ∧ t.text = "Li#x-1.a.b" ∧
      ∃ p, ofToken "Li#x-1.a.b" = .ok p ∧
        p.HoldsAt (.ofRoot (.element "li" (some [("class", "b c a"), ("id", "x-1")]) []))) ∧
    ofToken "." = .error (.malformedToken ".") := by
  let t : Token := ⟨['L', 'i'], some ['x', '-', '1'], [['a'], ['b']]⟩
  have hid : Token.IsName ['x', '-', '1'] := ⟨by simp, List.all_eq_true.mp rfl⟩
  have hclasses : ∀ name ∈ [['a'], ['b']], Token.IsName name := by
    intro name hname
    simp only [List.mem_cons, List.not_mem_nil, or_false] at hname
    rcases hname with rfl | rfl <;> exact ⟨by simp, List.all_eq_true.mp rfl⟩
  have ht : t.WellFormed := {
    tag := Or.inr (Or.inr ⟨'L', ['i'], rfl, by decide, List.all_eq_true.mp rfl⟩)
    id := by simpa [t] using hid
    classes := hclasses }
  have hno : ¬ ∃ u : Token, u.WellFormed ∧ u.text = "." := by
    rintro ⟨u, hu⟩
    have hread := Token.read?_text_iff.mpr hu
    simp [Token.read?, Token.readTag, Token.isTagStart, Token.readId, Token.readClasses] at hread
  constructor
  · obtain ⟨p, hp, -, hiff⟩ := (ofToken_follows_grammar "Li#x-1.a.b").2.2.1 t ht rfl
    refine ⟨t, ht, rfl, p, hp, (hiff _).mpr ⟨Or.inr (Or.inr ?_), ?_, ?_⟩⟩
    · decide
    · simp [t, Location.ofRoot, Node.attribute?, Node.attributes?, Mapping.find?]
    · intro name hname
      refine ⟨"b c a", by decide, ?_⟩
      simp only [t, List.mem_cons, List.not_mem_nil, or_false] at hname
      rcases hname with rfl | rfl <;> decide
  · exact ((ofToken_follows_grammar ".").2.2.2 hno).1

end Selector
end MarkupQuery
