import MarkupQuery.Proofs.Text.Words
import MarkupQuery.Selector.Query

/-!
# Normalised chains

Normalising a query cuts its texts into words. A word is cut no further, so the elements of a chain,
taken as a query of their own, have themselves as elements (`Query.normalise_ofElements`) and compile
to the same selector (`Query.compile_ofElements`). It makes no difference whether a chain is
normalised once or several times on its way to the compiler.

A query that cannot be compiled fails with a complaint about its own text or its own members, and
with nothing else (`Query.className_of_compile`).
-/

namespace MarkupQuery

/-! ## Elements as queries -/

/-- An element as a member of a sequence. -/
def ChainElement.toQuery : ChainElement → Query
  | .token s => .text s
  | .selector s => .selector s
  | .callback c => .callback c

namespace Query

/-- The elements of a chain, in a sequence. -/
def ofElements (elements : List ChainElement) : Query := .tuple (elements.map ChainElement.toQuery)

theorem memberElements_toQuery {q : Query} {elements : List ChainElement}
    (h : q.memberElements = .ok elements) :
    ∀ e ∈ elements, e.toQuery.memberElements = .ok [e] := by
  intro e he
  cases q with
  | text s =>
    obtain rfl := Except.ok.inj h
    obtain ⟨w, hw, rfl⟩ := List.mem_map.mp he
    rw [ChainElement.toQuery, memberElements, Text.words_of_mem_words hw, List.map_singleton]
  | selector s =>
    obtain rfl := Except.ok.inj h
    obtain rfl := List.mem_singleton.mp he
    rfl
  | callback c =>
    obtain rfl := Except.ok.inj h
    obtain rfl := List.mem_singleton.mp he
    rfl
  | list items => cases h
  | tuple items => cases h
  | other v => cases h

theorem sequenceElements_cons {q : Query} {qs : List Query} {elements : List ChainElement}
    (h : sequenceElements (q :: qs) = .ok elements) :
    ∃ here rest, q.memberElements = .ok here ∧ sequenceElements qs = .ok rest ∧
      elements = here ++ rest := by
  rw [sequenceElements] at h
  cases hhere : q.memberElements with
  | error f =>
    rw [hhere] at h
    cases h
  | ok here =>
    cases hrest : sequenceElements qs with
    | error f =>
      rw [hhere, hrest] at h
      cases h
    | ok rest =>
      rw [hhere, hrest] at h
      exact ⟨here, rest, rfl, rfl, (Except.ok.inj h).symm⟩

theorem sequenceElements_toQuery {qs : List Query} {elements : List ChainElement}
    (h : sequenceElements qs = .ok elements) :
    ∀ e ∈ elements, e.toQuery.memberElements = .ok [e] := by
  induction qs generalizing elements with
  | nil =>
    obtain rfl := Except.ok.inj h
    exact fun e he => absurd he List.not_mem_nil
  | cons q qs ih =>
    obtain ⟨here, rest, hhere, hrest, rfl⟩ := sequenceElements_cons h
    intro e he
    rcases List.mem_append.mp he with he | he
    · exact memberElements_toQuery hhere e he
    · exact ih hrest e he

theorem normalise_toQuery {q : Query} {elements : List ChainElement}
    (h : q.normalise = .ok elements) : ∀ e ∈ elements, e.toQuery.memberElements = .ok [e] := by
  cases q with
  | text s => exact memberElements_toQuery (q := .text s) h
  | selector s => exact memberElements_toQuery (q := .selector s) h
  | callback c => exact memberElements_toQuery (q := .callback c) h
  | list items => exact sequenceElements_toQuery h
  | tuple items => exact sequenceElements_toQuery h
  | other v => cases h

theorem sequenceElements_map_toQuery {elements : List ChainElement}
    (h : ∀ e ∈ elements, e.toQuery.memberElements = .ok [e]) :
    sequenceElements (elements.map ChainElement.toQuery) = .ok elements := by
  induction elements with
  | nil => rfl
  | cons e elements ih =>
    rw [List.map_cons, sequenceElements, h e List.mem_cons_self,
      ih fun d hd => h d (List.mem_cons_of_mem _ hd)]
    rfl

/-- Normalising a normalised chain changes nothing. -/
theorem normalise_ofElements {q : Query} {elements : List ChainElement}
    (h : q.normalise = .ok elements) : (ofElements elements).normalise = .ok elements :=
  sequenceElements_map_toQuery (normalise_toQuery h)

theorem compile_eq_of_normalise {q : Query} {elements : List ChainElement}
    (h : q.normalise = .ok elements) : q.compile = compileElements elements := by
  rw [compile, h]
  rfl

/-- The elements of a chain compile to the selector that the chain compiles to. -/
theorem compile_ofElements {q : Query} {elements : List ChainElement}
    (h : q.normalise = .ok elements) : (ofElements elements).compile = q.compile := by
  rw [compile_eq_of_normalise (normalise_ofElements h), compile_eq_of_normalise h]

/-! ## Tokens -/

/-- Elements that are all tokens are the tokens of their texts. -/
theorem eq_of_tokens? {elements : List ChainElement} {key : List String}
    (h : tokens? elements = some key) : elements = key.map .token := by
  induction elements generalizing key with
  | nil =>
    obtain rfl : key = [] := (Option.some.inj h).symm
    rfl
  | cons e elements ih =>
    rw [tokens?, List.mapM_cons] at h
    obtain ⟨s, hs, h⟩ := Option.bind_eq_some_iff.mp h
    obtain ⟨rest, hrest, h⟩ := Option.bind_eq_some_iff.mp h
    obtain rfl : s :: rest = key := Option.some.inj h
    cases e with
    | token t =>
      obtain rfl : t = s := Option.some.inj hs
      rw [List.map_cons, ih hrest]
    | selector p => cases hs
    | callback c => cases hs

/-! ## Selectors -/

@[simp] theorem compile_selector (p : Selector) : (Query.selector p).compile = .ok p := rfl

theorem exists_element_of_mem_links {elements : List ChainElement} {links : List Selector}
    (h : elements.mapM ChainElement.compile = .ok links) :
    ∀ p ∈ links, ∃ e ∈ elements, e.compile = .ok p := by
  induction elements generalizing links with
  | nil =>
    obtain rfl := Except.ok.inj h
    exact fun p hp => absurd hp List.not_mem_nil
  | cons e elements ih =>
    rw [List.mapM_cons] at h
    cases he : e.compile with
    | error f =>
      rw [he] at h
      cases h
    | ok here =>
      cases hrest : elements.mapM ChainElement.compile with
      | error f =>
        rw [he, hrest] at h
        cases h
      | ok rest =>
        rw [he, hrest] at h
        obtain rfl := Except.ok.inj h
        intro p hp
        rcases List.mem_cons.mp hp with rfl | hp
        · exact ⟨e, List.mem_cons_self, he⟩
        · obtain ⟨d, hd, hdp⟩ := ih hrest p hp
          exact ⟨d, List.mem_cons_of_mem _ hd, hdp⟩

/-- What chaining keeps, and every element of a query has when compiled, the compiled query has. -/
theorem compile_induction {P : Selector → Prop}
    (hchain : ∀ links : List Selector, (∀ p ∈ links, P p) → P (Selector.chain links))
    {q : Query} (helements : ∀ elements, q.normalise = .ok elements →
      ∀ e ∈ elements, ∀ p, e.compile = .ok p → P p)
    {p : Selector} (h : q.compile = .ok p) : P p := by
  cases hn : q.normalise with
  | error f =>
    rw [compile, hn] at h
    cases h
  | ok elements =>
    rw [compile_eq_of_normalise hn, compileElements] at h
    cases hlinks : elements.mapM ChainElement.compile with
    | error f =>
      rw [hlinks] at h
      cases h
    | ok links =>
      rw [hlinks] at h
      obtain rfl := Except.ok.inj h
      refine hchain links fun r hr => ?_
      obtain ⟨e, he, her⟩ := exists_element_of_mem_links hlinks r hr
      exact helements elements hn e he r her

/-! ## Failures -/

theorem className_of_memberElements {q : Query} {f : Failure} (h : q.memberElements = .error f) :
    f.className = "SelectorSyntaxError" := by
  cases q <;> cases h <;> rfl

theorem className_of_sequenceElements {qs : List Query} {f : Failure}
    (h : sequenceElements qs = .error f) : f.className = "SelectorSyntaxError" := by
  induction qs with
  | nil => cases h
  | cons q qs ih =>
    rw [sequenceElements] at h
    cases hhere : q.memberElements with
    | error g =>
      rw [hhere] at h
      cases h
      exact className_of_memberElements hhere
    | ok here =>
      cases hrest : sequenceElements qs with
      | error g =>
        rw [hhere, hrest] at h
        cases h
        exact ih hrest
      | ok rest =>
        rw [hhere, hrest] at h
        cases h

theorem className_of_normalise {q : Query} {f : Failure} (h : q.normalise = .error f) :
    f.className = "SelectorSyntaxError" := by
  cases q with
  | text s => cases h
  | selector s => cases h
  | callback c => cases h
  | list items => exact className_of_sequenceElements h
  | tuple items => exact className_of_sequenceElements h
  | other v => cases h; rfl

theorem className_of_element {e : ChainElement} {f : Failure} (h : e.compile = .error f) :
    f.className = "SelectorSyntaxError" := by
  cases e with
  | token s =>
    rw [ChainElement.compile, Selector.ofToken] at h
    split at h <;> cases h
    rfl
  | selector s => cases h
  | callback c => cases h

theorem className_of_elements {elements : List ChainElement} {f : Failure}
    (h : elements.mapM ChainElement.compile = .error f) : f.className = "SelectorSyntaxError" := by
  induction elements with
  | nil => cases h
  | cons e elements ih =>
    rw [List.mapM_cons] at h
    cases he : e.compile with
    | error g =>
      rw [he] at h
      cases h
      exact className_of_element he
    | ok p =>
      cases hrest : elements.mapM ChainElement.compile with
      | error g =>
        rw [he, hrest] at h
        cases h
        exact ih hrest
      | ok ps =>
        rw [he, hrest] at h
        cases h

/-- Whatever keeps a query from being compiled is an error of its syntax. -/
theorem className_of_compile {q : Query} {f : Failure} (h : q.compile = .error f) :
    f.className = "SelectorSyntaxError" := by
  cases hn : q.normalise with
  | error g =>
    rw [compile, hn] at h
    cases h
    exact className_of_normalise hn
  | ok elements =>
    rw [compile_eq_of_normalise hn, compileElements] at h
    cases hlinks : elements.mapM ChainElement.compile with
    | error g =>
      rw [hlinks] at h
      cases h
      exact className_of_elements hlinks
    | ok links =>
      rw [hlinks] at h
      cases h

theorem exists_compile_eq_ok {q : Query} (h : q.compile.isOk = true) : ∃ p, q.compile = .ok p := by
  cases hq : q.compile with
  | ok p => exact ⟨p, rfl⟩
  | error f =>
    rw [hq] at h
    cases h

end Query
end MarkupQuery
