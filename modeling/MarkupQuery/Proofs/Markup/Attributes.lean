import MarkupQuery.Extraction.Extractor
import MarkupQuery.Markup.Conversion
import MarkupQuery.Proofs.Mapping
import MarkupQuery.Proofs.Selector.Answer
import MarkupQuery.Proofs.Text.Words

/-!
# Converted attributes

A parser gives attributes under keys in any case, with a text, several texts or nothing for a value.
Conversion puts the keys in lower case and spells every value as one text. Keys that become equal
become one: it keeps the place of the first of them and the value of the last.

Everybody who looks an attribute up puts the name in lower case first. So a look-up sees the last
attribute that was given under the name in any case, whether an extractor or a selector asks
(`SourceAttributes.attribute?_of_converted`).

Main statement: `SourceAttributes.conversion_keeps_lookups`.
-/

namespace MarkupQuery.Markup

/-! ## What a parser gives -/

/-- What a parser gives for the value of an attribute. -/
inductive SourceValue where
  | text (s : String)
  | list (parts : List String)
  | tuple (parts : List String)
  | nothing

namespace SourceValue

/-- The value as it stands in a parse tree. -/
def value : SourceValue → Value
  | text s => .text s
  | list parts => .list (parts.map .text)
  | tuple parts => .tuple (parts.map .text)
  | nothing => .absent

/-- The value spelled as one text: several texts with single spaces in between. -/
def spelled : SourceValue → String
  | text s => s
  | list parts => String.intercalate " " parts
  | tuple parts => String.intercalate " " parts
  | nothing => ""

/-- The texts that a value is made of, where it is made of several. -/
def parts? : SourceValue → Option (List String)
  | list parts => some parts
  | tuple parts => some parts
  | _ => none

theorem spelled_of_parts? {v : SourceValue} {parts : List String} (h : v.parts? = some parts) :
    v.spelled = String.intercalate " " parts := by
  cases v with
  | text s => cases h
  | list ps => rw [spelled, Option.some.inj h]
  | tuple ps => rw [spelled, Option.some.inj h]
  | nothing => cases h

end SourceValue

/-- Attributes as a parser gives them. -/
abbrev SourceAttributes := Mapping String SourceValue

namespace SourceAttributes

/-- The attributes as they stand in a parse tree. -/
def values (source : SourceAttributes) : Mapping String Value := source.map fun q => (q.1, q.2.value)

/-- The value that was given last under a name in any case. -/
def last? (source : SourceAttributes) (name : String) : Option SourceValue :=
  ((source.filter fun q => Text.lower q.1 == Text.lower name).getLast?).map Prod.snd

theorem last?_eq_none_iff {source : SourceAttributes} {name : String} :
    source.last? name = none ↔ ∀ q ∈ source, Text.lower q.1 ≠ Text.lower name := by
  simp [last?]

/-! ## What conversion makes of it -/

/-- The keys in lower case, each with its value spelled as one text. -/
def lowered (source : SourceAttributes) : List (String × String) :=
  source.map fun q => (Text.lower q.1, q.2.spelled)

theorem convertAttribute_value (key : String) (v : SourceValue) :
    convertAttribute (.text key) v.value = (Text.lower key, v.spelled) := by
  cases v with
  | text s => rfl
  | list parts =>
    simp only [SourceValue.value, convertAttribute, List.map_map]
    simp [Function.comp_def, Value.bare, SourceValue.spelled]
  | tuple parts =>
    simp only [SourceValue.value, convertAttribute, List.map_map]
    simp [Function.comp_def, Value.bare, SourceValue.spelled]
  | nothing => rfl

theorem convertAttributes_values (source : SourceAttributes) : convertAttributes source.values
    = if source = [] then none else some (Mapping.ofPairs source.lowered) := by
  rw [convertAttributes]
  cases source with
  | nil => rfl
  | cons q source =>
    simp only [values, lowered, List.map_map, Function.comp_def, convertAttribute_value]
    simp

variable {source : SourceAttributes} {e : Node}

/-- Looking a name up in lower case shows the value that was given last under it. -/
theorem attribute?_of_converted (he : e.attributes? = convertAttributes source.values)
    (name : String) :
    e.attribute? (Text.lower name) = (source.last? name).map SourceValue.spelled := by
  rw [Node.attribute?, he, convertAttributes_values]
  by_cases hsource : source = []
  · rw [if_pos hsource, hsource]
    rfl
  · rw [if_neg hsource, Option.bind_some, Mapping.find?_ofPairs, lowered, List.filter_map,
      List.getLast?_map, Option.map_map, last?, Option.map_map]
    rfl

theorem keys_of_converted {a : Attributes} (he : convertAttributes source.values = some a) :
    a ≠ [] ∧ (a.map Prod.fst).Nodup ∧
      a.map Prod.fst = (source.map fun q => Text.lower q.1).eraseDups := by
  rw [convertAttributes_values] at he
  split at he
  · cases he
  · next hne =>
    obtain rfl := Option.some.inj he
    have hspells := Mapping.spells_ofPairs source.lowered
    have hkeys : (Mapping.ofPairs source.lowered).map Prod.fst
        = (source.map fun q => Text.lower q.1).eraseDups := by
      rw [hspells.keys, lowered, List.map_map]
      rfl
    refine ⟨?_, hspells.nodup_keys, hkeys⟩
    obtain ⟨q, rest, rfl⟩ := List.exists_cons_of_ne_nil hne
    intro hnil
    rw [hnil, List.map_cons, List.eraseDups_cons] at hkeys
    cases hkeys

theorem attributes?_eq_none_iff (he : e.attributes? = convertAttributes source.values) :
    e.attributes? = none ↔ source = [] := by
  rw [he, convertAttributes_values]
  split
  · next hsource => exact iff_of_true rfl hsource
  · next hsource => exact iff_of_false (by simp) hsource

/-! ## Who looks an attribute up -/

theorem apply_attributeOf (he : e.attributes? = convertAttributes source.values) (name : String) :
    (Extractor.attributeOf name).apply (.node e)
      = pure (Value.ofText? ((source.last? name).map SourceValue.spelled)) := by
  rw [← attribute?_of_converted he]
  rfl

section Asking

variable {l : Location} (he : l.node.attributes? = convertAttributes source.values)

include he

theorem hasAttribute_yields (name : String) :
    ((Selector.hasAttribute name).holds (.position l)).Yields (source.last? name).isSome := by
  have hlooked : (Subject.position l).attribute? (Text.lower name)
      = (source.last? name).map SourceValue.spelled := attribute?_of_converted he name
  rw [← Option.isSome_map (f := SourceValue.spelled), ← hlooked]
  exact Probe.yields_pure _

theorem attributeIs_yields (name v : String) :
    ((Selector.attributeIs name v).holds (.position l)).Yields
      ((source.last? name).map SourceValue.spelled == some v) := by
  have hlooked : (Subject.position l).attribute? (Text.lower name)
      = (source.last? name).map SourceValue.spelled := attribute?_of_converted he name
  rw [← hlooked]
  exact Probe.yields_pure _

/-- The words of a class that was given word by word are these words. -/
theorem classWords_of_parts {ws : List String}
    (hparts : (source.last? "class").bind SourceValue.parts? = some ws)
    (hws : ∀ w ∈ ws, Text.IsWord w) : Selector.classWords (.position l) = ws := by
  obtain ⟨v, hlast, hv⟩ := Option.bind_eq_some_iff.mp hparts
  have hlower : Text.lower "class" = "class" := by decide
  have hlooked : (Subject.position l).attribute? "class" = some (String.intercalate " " ws) := by
    have hclass := attribute?_of_converted he "class"
    rwa [hlower, hlast, Option.map_some, SourceValue.spelled_of_parts? hv] at hclass
  rw [Selector.classWords, hlooked, Option.getD_some, Text.words_intercalate_of_isWord hws]

theorem classesInclude_yields {ws : List String}
    (hparts : (source.last? "class").bind SourceValue.parts? = some ws)
    (hws : ∀ w ∈ ws, Text.IsWord w) (classes : List String) :
    ((Selector.classesInclude classes).holds (.position l)).Yields
      (decide (∀ c ∈ classes, c ∈ ws)) := by
  have htest : classes.all ((Selector.classWords (.position l)).contains ·)
      = decide (∀ c ∈ classes, c ∈ ws) := by
    rw [classWords_of_parts he hparts hws, Bool.eq_iff_iff, List.all_eq_true, decide_eq_true_iff]
    simp only [List.contains_iff_mem]
  rw [← htest]
  exact Probe.yields_pure _

end Asking

/-- **Conversion puts the keys of attributes in lower case without losing a look-up.** There are no
attributes when none were given. Otherwise no key stands twice, and the keys are those that were given,
in lower case and in the order in which they came first. An extractor and the selectors see under a
name what was given last under it, in any case. Classes that were given word by word are these
words. -/
theorem conversion_keeps_lookups (name : String) (namespacePrefix : Option String)
    (source : SourceAttributes) (contents : List ParseTree) :
    let e := (ParseTree.tag name namespacePrefix source.values contents).toNode
    (e.attributes? = none ↔ source = []) ∧
    (∀ a, e.attributes? = some a → a ≠ [] ∧ (a.map Prod.fst).Nodup ∧
      a.map Prod.fst = (source.map fun q => Text.lower q.1).eraseDups) ∧
    (∀ k, source.last? k = none ↔ ∀ q ∈ source, Text.lower q.1 ≠ Text.lower k) ∧
    (∀ k, (Extractor.attributeOf k).apply (.node e)
      = pure (Value.ofText? ((source.last? k).map SourceValue.spelled))) ∧
    ∀ l : Location, l.node = e →
      (∀ k, ((Selector.hasAttribute k).holds (.position l)).Yields (source.last? k).isSome) ∧
      (∀ k v, ((Selector.attributeIs k v).holds (.position l)).Yields
        ((source.last? k).map SourceValue.spelled == some v)) ∧
      ∀ ws, (source.last? "class").bind SourceValue.parts? = some ws →
        (∀ w ∈ ws, Text.IsWord w) → ∀ classes,
          ((Selector.classesInclude classes).holds (.position l)).Yields
            (decide (∀ c ∈ classes, c ∈ ws)) := by
  intro e
  have he : e.attributes? = convertAttributes source.values := rfl
  refine ⟨attributes?_eq_none_iff he, fun a ha => keys_of_converted (he.symm.trans ha),
    fun k => last?_eq_none_iff, apply_attributeOf he, fun l hl => ?_⟩
  rw [← hl] at he
  exact ⟨hasAttribute_yields he, attributeIs_yields he,
    fun ws hparts hws => classesInclude_yields he hparts hws⟩

/-- A class given twice under different keys, the second time word by word, and a key without a
value. -/
theorem conversion_keeps_lookups_two_classes :
    let source : SourceAttributes :=
      [("CLASS", .text "old"), ("Id", .nothing), ("class", .list ["a", "b"])]
    let e := (ParseTree.tag "p" none source.values []).toNode
    (∃ a, e.attributes? = some a ∧ a.map Prod.fst = ["class", "id"]) ∧
      (Extractor.attributeOf "iD").apply (.node e) = pure (.text "") ∧
      ((Selector.attributeIs "Class" "a b").holds (.position (.ofRoot e))).Yields true ∧
      ((Selector.hasAttribute "href").holds (.position (.ofRoot e))).Yields false ∧
      ((Selector.classesInclude ["b", "a"]).holds (.position (.ofRoot e))).Yields true ∧
      ((Selector.classesInclude ["a b"]).holds (.position (.ofRoot e))).Yields false := by
  intro source e
  obtain ⟨-, hkeys, -, hextract, hask⟩ := conversion_keeps_lookups "p" none source []
  obtain ⟨hhas, his, hclasses⟩ := hask (.ofRoot e) rfl
  have hcut : Text.words "a b" = ["a", "b"] := by decide
  have hwords : ∀ w ∈ ["a", "b"], Text.IsWord w := by
    rw [← hcut]
    exact fun w => Text.isWord_of_mem_words
  have hclass := hclasses ["a", "b"] (by decide) hwords
  refine ⟨⟨_, rfl, (hkeys _ rfl).2.2.trans (by decide)⟩, (hextract "iD").trans rfl, ?_, ?_, ?_, ?_⟩
  · exact his "Class" "a b"
  · exact hhas "href"
  · exact hclass ["b", "a"]
  · exact hclass ["a b"]

end SourceAttributes
end MarkupQuery.Markup
