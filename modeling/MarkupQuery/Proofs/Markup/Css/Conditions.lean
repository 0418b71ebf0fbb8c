import MarkupQuery.Proofs.Markup.Attributes
import MarkupQuery.Proofs.Markup.Css.Chains
import MarkupQuery.Proofs.Markup.Shape

/-!
# Tokens and their conditions

A token says the same of a tag and of the element that the tag is converted to, except for two things
(`SourceAttributes.ReadsAlike`). An id of several texts is no id to a style sheet, but spells one when
it is converted. And a class name that blanks cut out of a class value may have a blank beside it that
style sheets take for a part of the name. So where the conditions of a token hold the token matches
(`Styled.matches`), and the other way round where the names of the token are read alike
(`Styled.of_matches`).
-/

namespace MarkupQuery.Markup

/-! ## Trees in lower case -/

/-- A parse tree in lower case: its tags have no prefix, and no capitals in their names and in the
keys of their attributes, no key stands twice, and no document is part of it. -/
inductive Lowered : ParseTree → Prop
  | string {kind : StringKind} {s : String} : Lowered (.string kind s)
  | tag {name : String} {source : SourceAttributes} {contents : List ParseTree}
      (hname : Text.lower name = name) (hkeys : ∀ q ∈ source, Text.lower q.1 = q.1)
      (hdistinct : (source.map Prod.fst).Nodup) (hcontents : ∀ t ∈ contents, Lowered t) :
      Lowered (.tag name none source.values contents)

theorem Lowered.of_mem_contents {t u : ParseTree} (h : Lowered t) (hu : u ∈ t.contents) : Lowered u := by
  cases h with
  | string => simp [ParseTree.contents] at hu
  | tag hname hkeys hdistinct hcontents => exact hcontents u hu

namespace SourceValue

/-- The class names that a style sheet sees in a value. -/
def styleWords : SourceValue → List String
  | text s => (Css.wordsBetweenSpaces s.toList).map String.ofList
  | list parts => parts
  | tuple parts => parts
  | nothing => []

/-- What style sheets see in a value, blanks cut out of its spelling, too. -/
theorem mem_words_of_mem_styleWords {v : SourceValue} {w : String} (hw : Text.IsWord w)
    (h : w ∈ v.styleWords) : w ∈ Text.words v.spelled := by
  have hparts (parts : List String) (h : w ∈ parts) :
      w ∈ Text.words (String.intercalate " " parts) := by
    rw [Text.words_intercalate, List.mem_flatMap]
    exact ⟨w, h, by rw [hw.words_eq]; exact List.mem_singleton_self w⟩
  cases v with
  | text s =>
    obtain ⟨cs, hcs, rfl⟩ := List.mem_map.mp h
    rw [Css.cutsAt_wordsBetweenSpaces.mem_iff] at hcs
    refine List.mem_map_of_mem (Text.cutsAt_wordsOf.mem_iff.mpr (Css.isRun_isBlank hcs ?_))
    simpa using hw.2
  | list parts => exact hparts parts h
  | tuple parts => exact hparts parts h
  | nothing => simp [styleWords] at h

/-- The blanks of a class value are spaces, and its parts, where it has several, are words. -/
def PlainlySpaced : SourceValue → Prop
  | text s => ∀ c ∈ s.toList, Text.isBlank c = true → Css.isSpace c = true
  | list parts => ∀ w ∈ parts, Text.IsWord w
  | tuple parts => ∀ w ∈ parts, Text.IsWord w
  | nothing => True

theorem PlainlySpaced.mem_styleWords {v : SourceValue} (hv : v.PlainlySpaced) {w : String}
    (h : w ∈ Text.words v.spelled) : w ∈ v.styleWords := by
  cases v with
  | text s =>
    obtain ⟨cs, hcs, rfl⟩ := List.mem_map.mp h
    rw [Text.cutsAt_wordsOf.mem_iff] at hcs
    exact List.mem_map_of_mem (Css.cutsAt_wordsBetweenSpaces.mem_iff.mpr (Css.isRun_isSpace hcs hv))
  | list parts => rwa [spelled, Text.words_intercalate_of_isWord hv] at h
  | tuple parts => rwa [spelled, Text.words_intercalate_of_isWord hv] at h
  | nothing => simp [spelled, Text.words, Text.wordsOf] at h

end SourceValue

namespace SourceAttributes

/-- A name that a token and a style sheet find in the same attributes: where blanks cut it out of the
class, style sheets see it there, and where the id spells it, the id is one text. -/
structure ReadsAlike (source : SourceAttributes) (w : String) : Prop where
  class_ : ∀ v, source.last? "class" = some v → w ∈ Text.words v.spelled → w ∈ v.styleWords
  id : ∀ v, source.last? "id" = some v → v.spelled = w → v.parts? = none

end SourceAttributes

theorem SourceValue.value_injective : Function.Injective SourceValue.value := by
  have hparts (ps qs : List String) (h : ps.map Value.text = qs.map Value.text) : ps = qs :=
    Function.Injective.list_map (fun _ _ h => Value.text.inj h) h
  intro v w h
  cases v <;> cases w <;> simp only [SourceValue.value, reduceCtorEq, Value.text.injEq,
    Value.list.injEq, Value.tuple.injEq] at h
  · rw [h]
  · rw [hparts _ _ h]
  · rw [hparts _ _ h]
  · rfl

theorem SourceAttributes.values_injective : Function.Injective SourceAttributes.values :=
  Function.Injective.list_map fun _ _ h =>
    Prod.ext (Prod.mk.inj h).1 (SourceValue.value_injective (Prod.mk.inj h).2)

/-- What is said of a tag in lower case, about the attributes as the parser gave them. -/
theorem Lowered.of_tag {name : String} {namespacePrefix : Option String} {source : SourceAttributes}
    {contents : List ParseTree} (h : Lowered (.tag name namespacePrefix source.values contents)) :
    Text.lower name = name ∧ (∀ q ∈ source, Text.lower q.1 = q.1) ∧
      (source.map Prod.fst).Nodup := by
  generalize hvalues : source.values = attributes at h
  cases h with
  | tag hname hkeys hdistinct hcontents =>
    obtain rfl := SourceAttributes.values_injective hvalues
    exact ⟨hname, hkeys, hdistinct⟩

/-- A node that is no tag, or one whose class is spaced plainly and whose id is one text. -/
inductive PlainlyWritten : ParseTree → Prop
  | document {contents : List ParseTree} : PlainlyWritten (.document contents)
  | string {kind : StringKind} {s : String} : PlainlyWritten (.string kind s)
  | tag {name : String} {namespacePrefix : Option String} {source : SourceAttributes}
      {contents : List ParseTree}
      (hclass : ∀ v, source.last? "class" = some v → v.PlainlySpaced)
      (hid : ∀ v, source.last? "id" = some v → v.parts? = none) :
      PlainlyWritten (.tag name namespacePrefix source.values contents)

theorem PlainlyWritten.readsAlike {name : String} {namespacePrefix : Option String}
    {source : SourceAttributes} {contents : List ParseTree}
    (h : PlainlyWritten (.tag name namespacePrefix source.values contents)) (w : String) :
    source.ReadsAlike w := by
  generalize hvalues : source.values = attributes at h
  cases h with
  | tag hclass hid =>
    obtain rfl := SourceAttributes.values_injective hvalues
    exact ⟨fun v hv => (hclass v hv).mem_styleWords, fun v hv _ => hid v hv⟩

/-! ## What a style sheet finds in a tag -/

namespace Css

theorem lower_class : Text.lower "class" = "class" := by decide

section Tag

variable {name : String} {source : SourceAttributes} {contents : List ParseTree}
  (hkeys : ∀ q ∈ source, Text.lower q.1 = q.1) (hdistinct : (source.map Prod.fst).Nodup)

include hkeys hdistinct

/-- Among distinct keys in lower case, the first attribute of a name is the last one. -/
theorem attribute?_eq_last? {key : String} (hkey : Text.lower key = key) :
    attribute? (.tag name none source.values contents) key.toList =
      (source.last? key).map SourceValue.value := by
  have hlowered {s : String} (h : Text.lower s = s) : lowerName s.toList = s.toList :=
    Text.map_toLower_eq_self h
  -- both look-ups leave the attributes under the key itself, of which there is at most one
  have hstyle : (source.filter fun q => lowerName q.1.toList == lowerName key.toList) =
      source.filter fun q => q.1 == key := List.filter_congr fun q hq => by
    rw [hlowered (hkeys q hq), hlowered hkey, Bool.eq_iff_iff, beq_iff_eq, beq_iff_eq,
      String.toList_inj]
  have htree : (source.filter fun q => Text.lower q.1 == Text.lower key) =
      source.filter fun q => q.1 == key :=
    List.filter_congr fun q hq => by rw [hkeys q hq, hkey]
  rw [attribute?, nodeAttributes, SourceAttributes.values, ← List.head?_filter, List.filter_map,
    SourceAttributes.last?, htree]
  simp only [Function.comp_def, hstyle]
  rcases Mapping.filter_key_eq hdistinct key with h | ⟨v, h⟩ <;> rw [h] <;> rfl

/-- The id is a name if it is given as one text. -/
theorem idText?_eq_some_iff {w : List Char} (hw : w ≠ []) :
    idText? (.tag name none source.values contents) = some w ↔
      ∃ v, source.last? "id" = some v ∧ v.parts? = none ∧ v.spelled = String.ofList w := by
  have hnil : ([] : List Char) ≠ w := hw.symm
  rw [idText?, attribute?_eq_last? hkeys hdistinct Token.lower_id]
  cases h : source.last? "id" with
  | none => simp [hnil]
  | some v =>
    cases v with
    | text s =>
      simp [SourceValue.value, SourceValue.parts?, SourceValue.spelled, valueText, Value.bare,
        String.ext_iff]
    | list parts => simp [SourceValue.value, SourceValue.parts?]
    | tuple parts => simp [SourceValue.value, SourceValue.parts?]
    | nothing =>
      simp [SourceValue.value, SourceValue.parts?, SourceValue.spelled, valueText, hnil, String.ext_iff]

theorem mem_classNames_iff {w : List Char} :
    w ∈ classNames (.tag name none source.values contents) ↔
      ∃ v, source.last? "class" = some v ∧ String.ofList w ∈ v.styleWords := by
  have hparts (parts : List String) :
      w ∈ (parts.map Value.text).map valueText ↔ String.ofList w ∈ parts := by
    rw [List.map_map, List.mem_map]
    constructor
    · rintro ⟨part, hpart, rfl⟩
      simpa [valueText, Value.bare] using hpart
    · exact fun h => ⟨_, h, by simp [valueText, Value.bare]⟩
  rw [classNames, attribute?_eq_last? hkeys hdistinct lower_class]
  cases h : source.last? "class" with
  | none => simp
  | some v =>
    cases v with
    | text s =>
      simp [SourceValue.value, SourceValue.styleWords, valueText, Value.bare, String.ofList_inj]
    | list parts => simpa [SourceValue.value, SourceValue.styleWords] using hparts parts
    | tuple parts => simpa [SourceValue.value, SourceValue.styleWords] using hparts parts
    | nothing =>
      simp [SourceValue.value, SourceValue.styleWords, valueText, cutsAt_wordsBetweenSpaces.nil]

end Tag

/-! ## Where the conditions of a token hold -/

/-- Where the conditions of a token hold: the tag, if there is one, is the node's in any ASCII case,
and the id and the classes are the node's. -/
structure Styled (t : Token) (u : ParseTree) : Prop where
  tag : t.tag = [] ∨ lowerName t.tag = nodeName u
  id : ∀ name ∈ t.id, idText? u = some name
  classes : ∀ name ∈ t.classes, name ∈ classNames u

theorem allHold_append (p : Place) (cs ds : List Condition) :
    allHold p (cs ++ ds) = (allHold p cs && allHold p ds) := by
  induction cs with
  | nil => simp [allHold]
  | cons c cs ih => simp [allHold, ih, Bool.and_assoc]

theorem allHold_conditionsOf_iff {t : Token} (ht : t.Shared) (p : Place) :
    allHold p (conditionsOf t) = true ↔ Styled t p.node := by
  have htag : allHold p (if t.tag.isEmpty then [] else [.type none t.tag]) = true ↔
      t.tag = [] ∨ lowerName t.tag = nodeName p.node := by
    rcases ht.tag with h | h
    · simp [h, allHold]
    · simp [h.ne_nil, h.ne_star, allHold, Condition.holds]
  have hid : allHold p (t.id.toList.map .idIs) = true ↔ ∀ name ∈ t.id, idText? p.node = some name := by
    cases t.id <;> simp [allHold, Condition.holds]
  have hclasses (names : List (List Char)) : allHold p (names.map .inClass) = true ↔
      ∀ name ∈ names, name ∈ classNames p.node := by
    induction names with
    | nil => simp [allHold]
    | cons name names ih => simp [allHold, Condition.holds, ih]
  rw [conditionsOf, allHold_append, allHold_append, Bool.and_eq_true, Bool.and_eq_true, htag, hid,
    hclasses]
  exact ⟨fun h => ⟨h.1, h.2.1, h.2.2⟩, fun h => ⟨h.tag, h.id, h.classes⟩⟩

/-! ## Tags -/

/-- The names that a token has for an id and for classes. -/
def namesOf (t : Token) : List (List Char) := t.id.toList ++ t.classes

theorem isAsciiName_of_mem_namesOf {t : Token} (ht : t.Shared) {w : List Char} (hw : w ∈ namesOf t) :
    Text.IsAsciiName w := by
  rcases List.mem_append.mp hw with hw | hw
  · exact ht.id w (Option.mem_toList.mp hw)
  · exact ht.classes w hw

/-- What a name in lower case is looked up as in a converted tag. -/
theorem attribute?_toNode_tag {name : String} {namespacePrefix : Option String}
    {source : SourceAttributes} {contents : List ParseTree} {key : String}
    (hkey : Text.lower key = key) :
    (ParseTree.tag name namespacePrefix source.values contents).toNode.attribute? key =
      (source.last? key).map SourceValue.spelled := by
  have he : (ParseTree.tag name namespacePrefix source.values contents).toNode.attributes? =
      convertAttributes source.values := rfl
  rw [← SourceAttributes.attribute?_of_converted he, hkey]

section Tag

variable {t : Token} {name : String} {source : SourceAttributes} {contents : List ParseTree}
  (ht : t.Shared) (hname : Text.lower name = name) (hkeys : ∀ q ∈ source, Text.lower q.1 = q.1)
  (hdistinct : (source.map Prod.fst).Nodup)

include ht hname in
theorem tag_iff : (t.tag = [] ∨ lowerName t.tag = nodeName (.tag name none source.values contents)) ↔
    t.tag = [] ∨ t.tag = ['*'] ∨
      (ParseTree.tag name none source.values contents).toNode.tag? =
        some (Text.lower (String.ofList t.tag)) := by
  have htag : (ParseTree.tag name none source.values contents).toNode.tag? = some name :=
    congrArg some hname
  rcases ht.tag with h | h
  · simp [h]
  · have hnode : nodeName (.tag name none source.values contents) = name.toList :=
      Text.map_toLower_eq_self hname
    have hlower : Text.lower (String.ofList t.tag) = String.ofList (lowerName t.tag) :=
      Text.lower_ofList_of_ascii h.ascii
    rw [htag, hlower, hnode, or_iff_right h.ne_nil, or_iff_right h.ne_nil, or_iff_right h.ne_star,
      Option.some_inj, ← String.toList_inj, String.toList_ofList, eq_comm]

include ht hname hkeys hdistinct

/-- Where the conditions of a token hold, the token matches what the tag is converted to. -/
theorem Styled.matches_tag (h : Styled t (.tag name none source.values contents)) :
    t.Matches (ParseTree.tag name none source.values contents).toNode := by
  refine ⟨(tag_iff ht hname).mp h.tag, fun w hw => ?_, fun w hw => ?_⟩
  · obtain ⟨v, hv, -, hspelled⟩ :=
      (idText?_eq_some_iff hkeys hdistinct (ht.id w hw).ne_nil).mp (h.id w hw)
    rw [attribute?_toNode_tag Token.lower_id, hv, Option.map_some, hspelled]
  · obtain ⟨v, hv, hmem⟩ := (mem_classNames_iff hkeys hdistinct).mp (h.classes w hw)
    refine ⟨v.spelled, ?_, SourceValue.mem_words_of_mem_styleWords (ht.classes w hw).isWord hmem⟩
    rw [attribute?_toNode_tag lower_class, hv, Option.map_some]

/-- Where a token matches what a tag is converted to and its names are read alike, its conditions
hold. -/
theorem styled_tag_of_matches (hnames : ∀ w ∈ namesOf t, source.ReadsAlike (String.ofList w))
    (h : t.Matches (ParseTree.tag name none source.values contents).toNode) :
    Styled t (.tag name none source.values contents) := by
  refine ⟨(tag_iff ht hname).mpr h.tag, fun w hw => ?_, fun w hw => ?_⟩
  · have hid := h.id w hw
    rw [attribute?_toNode_tag Token.lower_id] at hid
    obtain ⟨v, hv, hspelled⟩ := Option.map_eq_some_iff.mp hid
    have halike := hnames w (List.mem_append_left _ (Option.mem_toList.mpr hw))
    exact (idText?_eq_some_iff hkeys hdistinct (ht.id w hw).ne_nil).mpr
      ⟨v, hv, halike.id v hv hspelled, hspelled⟩
  · obtain ⟨s, hs, hmem⟩ := h.classes w hw
    rw [attribute?_toNode_tag lower_class] at hs
    obtain ⟨v, hv, rfl⟩ := Option.map_eq_some_iff.mp hs
    have halike := hnames w (List.mem_append_right _ hw)
    exact (mem_classNames_iff hkeys hdistinct).mpr ⟨v, hv, halike.class_ v hv hmem⟩

end Tag

/-! ## Other nodes -/

theorem attribute?_eq_none_of_not_tag {u : ParseTree} (hu : isTag u = false) (key : List Char) :
    attribute? u key = none := by
  cases u with
  | tag name p attributes cs => simp [isTag] at hu
  | document cs => rfl
  | string kind s => rfl

/-- A style sheet finds no token at what is no tag. -/
theorem not_styled {t : Token} (ht : t.Shared) {u : ParseTree} (hu : isTag u = false) :
    ¬ Styled t u := by
  intro h
  rcases ht.nonempty with hne | hne | hne
  · obtain ⟨c, cs, hcs, -⟩ := (ht.tag.resolve_left hne).starts
    have hname := h.tag.resolve_left hne
    cases u with
    | tag name p attributes cs => simp [isTag] at hu
    | document contents =>
      -- the name of a document starts with a bracket
      have hbracket : c.toLower ≠ '[' := Text.of_isAsciiNameChar (p := fun c => c.toLower ≠ '[')
        (by decide) ((ht.tag.resolve_left hne).chars c (hcs ▸ List.mem_cons_self))
      rw [hcs] at hname
      exact hbracket (List.cons.inj hname).1
    | string kind s =>
      rw [hcs] at hname
      exact List.cons_ne_nil _ _ hname
  · obtain ⟨w, hw⟩ := Option.ne_none_iff_exists'.mp hne
    have hid := h.id w hw
    rw [idText?, attribute?_eq_none_of_not_tag hu] at hid
    exact (ht.id w hw).ne_nil (Option.some.inj hid).symm
  · obtain ⟨w, hw⟩ := List.exists_mem_of_ne_nil _ hne
    have hclass := h.classes w hw
    rw [classNames, attribute?_eq_none_of_not_tag hu] at hclass
    simp at hclass

theorem find?_doctype_attributes (d : Doctype) {key : String}
    (hkey : key ∉ ["name", "publicid", "systemid"]) :
    d.attributes?.bind (·.find? key) = none := by
  have hpart (name : String) (hname : name ∈ ["name", "publicid", "systemid"])
      (text : Option (List Char)) : ∀ q ∈ Doctype.part name text, q.1 ≠ key := by
    rintro q hq rfl
    unfold Doctype.part at hq
    split at hq
    · rw [List.mem_singleton] at hq
      exact hkey (by rwa [hq])
    · simp at hq
  rw [Option.bind_eq_none_iff]
  intro attributes h
  refine Mapping.find?_eq_none_of_forall_ne fun q hq => ?_
  rw [Doctype.attributes?, Option.ite_none_left_eq_some] at h
  obtain ⟨-, h⟩ := h
  obtain rfl := Option.some.inj h
  split at hq
  · rcases List.mem_append.mp hq with hq | hq
    · exact hpart "name" (by simp) _ q hq
    · exact hpart "systemid" (by simp) _ q hq
  · rcases List.mem_append.mp hq with hq | hq
    · rcases List.mem_append.mp hq with hq | hq
      · exact hpart "name" (by simp) _ q hq
      · exact hpart "publicid" (by simp) _ q hq
    · exact hpart "systemid" (by simp) _ q hq

/-- Of what is no tag, conversion makes a node without a tag, an id or a class. -/
theorem toNode_of_not_tag {u : ParseTree} (hu : isTag u = false) :
    u.toNode.tag? = none ∧ u.toNode.attribute? "id" = none ∧ u.toNode.attribute? "class" = none := by
  cases u with
  | tag name p attributes cs => simp [isTag] at hu
  | document cs => exact ⟨rfl, rfl, rfl⟩
  | string kind s =>
    cases kind with
    | doctype => exact ⟨rfl, find?_doctype_attributes _ (by decide), find?_doctype_attributes _ (by decide)⟩
    | _ => exact ⟨rfl, rfl, rfl⟩

/-- A token matches nothing that a node other than a tag is converted to. -/
theorem not_matches {t : Token} (ht : t.Shared) {u : ParseTree} (hu : isTag u = false) :
    ¬ t.Matches u.toNode := by
  intro h
  obtain ⟨htag, hid, hclass⟩ := toNode_of_not_tag hu
  rcases ht.nonempty with hne | hne | hne
  · have hname := ht.tag.resolve_left hne
    rcases h.tag with h | h | h
    · exact hne h
    · exact hname.ne_star h
    · rw [htag] at h
      cases h
  · obtain ⟨w, hw⟩ := Option.ne_none_iff_exists'.mp hne
    have hlooked := h.id w hw
    rw [hid] at hlooked
    cases hlooked
  · obtain ⟨w, hw⟩ := List.exists_mem_of_ne_nil _ hne
    obtain ⟨v, hv, -⟩ := h.classes w hw
    rw [hclass] at hv
    cases hv

/-! ## All nodes -/

/-- **Where the conditions of a token hold, the token matches.** -/
theorem Styled.matches {t : Token} (ht : t.Shared) {u : ParseTree} (hu : isTag u = true → Lowered u)
    (h : Styled t u) : t.Matches u.toNode := by
  cases htag : isTag u with
  | false => exact absurd h (not_styled ht htag)
  | true =>
    cases hu htag with
    | string => simp [isTag] at htag
    | tag hname hkeys hdistinct hcontents => exact h.matches_tag ht hname hkeys hdistinct

/-- The names of a token are read alike at a node. -/
def NamesReadAlike (t : Token) (u : ParseTree) : Prop :=
  ∀ (name : String) (source : SourceAttributes) (contents : List ParseTree),
    u = .tag name none source.values contents →
      ∀ w ∈ namesOf t, source.ReadsAlike (String.ofList w)

/-- **Where a token matches and its names are read alike, there is a tag at which its conditions
hold.** -/
theorem Styled.of_matches {t : Token} (ht : t.Shared) {u : ParseTree}
    (hu : isTag u = true → Lowered u) (hnames : NamesReadAlike t u) (h : t.Matches u.toNode) :
    isTag u = true ∧ Styled t u := by
  cases htag : isTag u with
  | false => exact absurd h (not_matches ht htag)
  | true =>
    refine ⟨rfl, ?_⟩
    cases hu htag with
    | string => simp [isTag] at htag
    | @tag name source contents hname hkeys hdistinct hcontents =>
      exact styled_tag_of_matches ht hname hkeys hdistinct (hnames name source contents rfl) h

end Css
end MarkupQuery.Markup
