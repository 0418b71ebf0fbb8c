import Mathlib.Data.List.Forall2
import MarkupQuery.Extraction.Extractor
import MarkupQuery.Proofs.Session.Alike

/-!
# Extracting from nested selections

A selection may nest lists and tuples to any depth. What an extractor takes from a node or a text it
takes from each of them that lies innermost, and the answers form lists of the shape of the selection
(`Value.MapsTo`). If anything else lies innermost, the first such value is named in a failure.

Since the shape is kept, it makes no difference whether a member of a sequence is picked before or
after the extraction.

Main statement: `Extractor.maps_members_and_commutes_with_nth`.
-/

namespace MarkupQuery

namespace Value

/-! ## The shape of a selection -/

/-- A node or a text. -/
def IsMember (v : Value) : Prop := ∃ m : Member, v = m.value

/-- Whether a value is a node or a text. -/
def isMember : Value → Bool
  | .node _ => true
  | .text _ => true
  | _ => false

theorem isMember_iff {v : Value} : v.isMember = true ↔ v.IsMember := by
  constructor
  · intro h
    cases v with
    | node n => exact ⟨.node n, rfl⟩
    | text s => exact ⟨.text s, rfl⟩
    | _ => cases h
  · rintro ⟨_ | _, rfl⟩ <;> rfl

/-- A list or a tuple of the given items. -/
def IsSequence (v : Value) (items : List Value) : Prop := v = .list items ∨ v = .tuple items

/-- Neither a member nor a sequence. -/
structure IsStranger (v : Value) : Prop where
  not_member : ¬ v.IsMember
  not_sequence : ∀ items, ¬ v.IsSequence items

/-- A selection is a member, a sequence of selections or a stranger. -/
theorem selection_induction {P : Value → Prop} (member : ∀ m : Member, P m.value)
    (sequence : ∀ v items, v.IsSequence items → (∀ u ∈ items, P u) → P v)
    (stranger : ∀ v, v.IsStranger → P v) (v : Value) : P v := by
  cases v with
  | node n => exact member (.node n)
  | text s => exact member (.text s)
  | list items =>
    exact sequence _ items (.inl rfl) fun u _ => selection_induction member sequence stranger u
  | tuple items =>
    exact sequence _ items (.inr rfl) fun u _ => selection_induction member sequence stranger u
  | _ =>
    refine stranger _ ⟨?_, ?_⟩
    · rintro ⟨_ | _, h⟩ <;> cases h
    · rintro _ (h | h) <;> cases h
termination_by sizeOf v

theorem not_isMember_of_isSequence {v : Value} {items : List Value} (h : v.IsSequence items) :
    ¬ v.IsMember := by
  rintro ⟨_ | _, rfl⟩ <;> rcases h with h | h <;> cases h

mutual
/-- What lies innermost in a selection, in order. -/
def innermost : Value → List Value
  | .list items => innermostAll items
  | .tuple items => innermostAll items
  | v => [v]

def innermostAll : List Value → List Value
  | [] => []
  | v :: vs => innermost v ++ innermostAll vs
end

theorem innermost_value (m : Member) : m.value.innermost = [m.value] := by
  cases m <;> rfl

theorem innermost_of_isSequence {v : Value} {items : List Value} (h : v.IsSequence items) :
    v.innermost = innermostAll items := by
  rcases h with rfl | rfl <;> rfl

theorem innermost_of_isStranger {v : Value} (h : v.IsStranger) : v.innermost = [v] := by
  cases v with
  | list items => exact absurd (.inl rfl) (h.not_sequence items)
  | tuple items => exact absurd (.inr rfl) (h.not_sequence items)
  | _ => rfl

/-- The first value that lies innermost in a selection and is neither a node nor a text. -/
def firstStranger? (v : Value) : Option Value := v.innermost.find? fun u => !u.isMember

theorem firstStranger?_eq_none_iff {v : Value} :
    v.firstStranger? = none ↔ ∀ u ∈ v.innermost, u.IsMember := by
  simp [firstStranger?, isMember_iff]

/-! ## What is taken from a selection -/

/-- A value of the shape of a selection, as lists, with what a function takes from each member in
place of the member. -/
inductive MapsTo (take : Member → Value) : Value → Value → Prop
  | member (m : Member) : MapsTo take m.value (take m)
  | sequence {v : Value} {items taken : List Value} (hv : v.IsSequence items)
    (h : List.Forall₂ (MapsTo take) items taken) : MapsTo take v (.list taken)

variable {take : Member → Value}

theorem mapsTo_value_iff {m : Member} {w : Value} : MapsTo take m.value w ↔ take m = w := by
  constructor
  · generalize hv : m.value = v
    rintro (k | ⟨hs, -⟩)
    · cases m <;> cases k <;> cases hv <;> rfl
    · exact absurd ⟨m, hv.symm⟩ (not_isMember_of_isSequence hs)
  · rintro rfl
    exact .member m

theorem mapsTo_sequence_iff {v w : Value} {items : List Value} (hv : v.IsSequence items) :
    MapsTo take v w ↔ ∃ taken, List.Forall₂ (MapsTo take) items taken ∧ .list taken = w := by
  constructor
  · rintro (m | ⟨hs, h⟩)
    · exact absurd ⟨m, rfl⟩ (not_isMember_of_isSequence hv)
    · rcases hv with rfl | rfl <;> rcases hs with hs | hs <;> cases hs <;> exact ⟨_, h, rfl⟩
  · rintro ⟨taken, h, rfl⟩
    exact .sequence hv h

theorem not_mapsTo_of_isStranger {v w : Value} (hv : v.IsStranger) : ¬ MapsTo take v w := by
  rintro (m | ⟨hs, -⟩)
  · exact hv.not_member ⟨m, rfl⟩
  · exact hv.not_sequence _ hs

theorem overMembers_value (take : Member → Value) (m : Member) :
    overMembers take m.value = .ok (take m) := by
  cases m <;> rfl

theorem overMembers_of_isSequence (take : Member → Value) {v : Value} {items : List Value}
    (hv : v.IsSequence items) : overMembers take v = (overAll take items).map .list := by
  rcases hv with rfl | rfl <;> rw [overMembers] <;> cases overAll take items <;> rfl

theorem overMembers_of_isStranger (take : Member → Value) {v : Value} (hv : v.IsStranger) :
    overMembers take v = .error (.unsupportedSelection v.typeName) := by
  cases v with
  | node n => exact absurd ⟨.node n, rfl⟩ hv.not_member
  | text s => exact absurd ⟨.text s, rfl⟩ hv.not_member
  | list items => exact absurd (.inl rfl) (hv.not_sequence items)
  | tuple items => exact absurd (.inr rfl) (hv.not_sequence items)
  | _ => rfl

theorem overAll_eq_ok_iff {items taken : List Value}
    (h : ∀ v ∈ items, ∀ w, overMembers take v = .ok w ↔ MapsTo take v w) :
    overAll take items = .ok taken ↔ List.Forall₂ (MapsTo take) items taken := by
  induction items generalizing taken with
  | nil => simp [overAll, eq_comm]
  | cons v vs ih =>
    have hv := h v List.mem_cons_self
    have hvs : ∀ rest, overAll take vs = .ok rest ↔ List.Forall₂ (MapsTo take) vs rest :=
      fun rest => ih fun u hu => h u (List.mem_cons_of_mem v hu)
    rw [overAll, List.forall₂_cons_left_iff]
    simp only [bind_eq_ok_iff, hv, hvs, pure, Except.pure, Except.ok.injEq]
    constructor
    · rintro ⟨w, hw, rest, hrest, rfl⟩
      exact ⟨w, rest, hw, hrest, rfl⟩
    · rintro ⟨w, rest, hw, hrest, rfl⟩
      exact ⟨w, hw, rest, hrest, rfl⟩

theorem overAll_eq_error_iff {items : List Value} {e : Failure}
    (h : ∀ v ∈ items, ∀ e, overMembers take v = .error e ↔
      ∃ u, v.firstStranger? = some u ∧ e = .unsupportedSelection u.typeName) :
    overAll take items = .error e ↔
      ∃ u, (innermostAll items).find? (fun u => !u.isMember) = some u ∧
        e = .unsupportedSelection u.typeName := by
  induction items with
  | nil => simp [overAll, innermostAll]
  | cons v vs ih =>
    have hv := h v List.mem_cons_self
    have hvs := ih fun u hu => h u (List.mem_cons_of_mem v hu)
    rw [overAll, innermostAll, List.find?_append, show v.innermost.find? _ = v.firstStranger? from rfl]
    cases hfirst : v.firstStranger? with
    | some u =>
      rw [(hv _).mpr ⟨u, hfirst, rfl⟩]
      simp [bind, Except.bind, eq_comm]
    | none =>
      -- the first item is fine, so it is up to the others
      have hfine : ∀ e, overMembers take v ≠ .error e := fun e he => by simpa [hfirst] using (hv e).mp he
      cases hhere : overMembers take v with
      | error e => exact absurd hhere (hfine e)
      | ok w =>
        rw [Option.none_or, ← hvs]
        cases overAll take vs <;> simp [bind, Except.bind, pure, Except.pure]

/-- An extraction answers what is taken from the members, in the shape of the selection. -/
theorem overMembers_eq_ok_iff (v w : Value) : overMembers take v = .ok w ↔ MapsTo take v w := by
  induction v using selection_induction generalizing w with
  | member m => rw [overMembers_value, mapsTo_value_iff, Except.ok.injEq]
  | sequence v items hv ih =>
    rw [overMembers_of_isSequence take hv, mapsTo_sequence_iff hv, map_eq_ok_iff]
    simp only [overAll_eq_ok_iff ih]
  | stranger v hv =>
    rw [overMembers_of_isStranger take hv]
    simp [not_mapsTo_of_isStranger hv]

/-- An extraction fails when there is a stranger, and names the first one. -/
theorem overMembers_eq_error_iff (take : Member → Value) (v : Value) (e : Failure) :
    overMembers take v = .error e ↔
      ∃ u, v.firstStranger? = some u ∧ e = .unsupportedSelection u.typeName := by
  induction v using selection_induction generalizing e with
  | member m =>
    have hmember : m.value.isMember = true := isMember_iff.mpr ⟨m, rfl⟩
    simp [overMembers_value, firstStranger?, innermost_value, hmember]
  | sequence v items hv ih =>
    rw [overMembers_of_isSequence take hv, firstStranger?, innermost_of_isSequence hv,
      ← overAll_eq_error_iff ih]
    cases overAll take items <;> simp [Except.map]
  | stranger v hv =>
    have hmember : v.isMember = false := by
      rw [Bool.eq_false_iff]
      exact fun h => hv.not_member (isMember_iff.mp h)
    simp [overMembers_of_isStranger take hv, firstStranger?, innermost_of_isStranger hv, hmember,
      eq_comm]

theorem exists_overMembers_eq_ok_iff (take : Member → Value) (v : Value) :
    (∃ w, overMembers take v = .ok w) ↔ ∀ u ∈ v.innermost, u.IsMember := by
  rw [← firstStranger?_eq_none_iff]
  have herror := overMembers_eq_error_iff take v
  cases hover : overMembers take v with
  | ok w =>
    simp only [hover, reduceCtorEq, false_iff, not_exists, not_and] at herror
    simpa using Option.eq_none_iff_forall_ne_some.mpr fun u hu => herror _ u hu rfl
  | error e =>
    obtain ⟨u, hu, -⟩ := (herror e).mp hover
    simp [hu]

/-- What is taken from a sequence of selections without strangers is taken item by item. -/
theorem exists_forall₂_mapsTo (take : Member → Value) {v : Value} {items : List Value} (hv : v.IsSequence items)
    (hmembers : ∀ u ∈ v.innermost, u.IsMember) :
    ∃ taken, List.Forall₂ (MapsTo take) items taken ∧ overMembers take v = .ok (.list taken) := by
  obtain ⟨w, hw⟩ := (exists_overMembers_eq_ok_iff take v).mpr hmembers
  obtain ⟨taken, htaken, rfl⟩ := (mapsTo_sequence_iff hv).mp ((overMembers_eq_ok_iff v w).mp hw)
  exact ⟨taken, htaken, hw⟩

theorem nth_of_getElem? {v u : Value} {items : List Value} (hv : v.IsSequence items) {index : Int}
    (hindex : 0 ≤ index) (strict : Bool) (hu : items[index.toNat]? = some u) :
    nth index strict v = .ok u := by
  rcases hv with rfl | rfl <;> simp [nth, hu, Int.not_lt.mpr hindex]

theorem nth_of_outside {v : Value} {items : List Value} (hv : v.IsSequence items) {index : Int}
    (hindex : ¬ (0 ≤ index ∧ index < items.length)) (strict : Bool) :
    nth index strict v = .error (.memberOutOfRange index items.length) := by
  have hnone : (if index < 0 then none else items[index.toNat]?) = none := by
    split
    · rfl
    · exact List.getElem?_eq_none (by omega)
  rcases hv with rfl | rfl <;> simp only [nth, hnone]

end Value

namespace Extractor

open Value (MapsTo)

/-- An extractor that takes one thing from every member. -/
inductive TakesFrom : Extractor → (Member → Value) → Prop
  | node : TakesFrom node Member.value
  | tag : TakesFrom tag Member.tag
  | attributes : TakesFrom attributes Member.attributes
  | text : TakesFrom text Member.content
  | attributeOf (name : String) : TakesFrom (attributeOf name) (Member.attributeValue name)

variable {e : Extractor} {take : Member → Value}

theorem TakesFrom.run_apply (he : e.TakesFrom take) (v : Value) (s : Session) :
    (e.apply v).run s = (v.overMembers take, s) := by
  cases he <;> exact Action.run_ofExcept _ s

theorem TakesFrom.run_apply_eq_iff (he : e.TakesFrom take) {v : Value} {s : Session}
    {r : Except Failure Value} : (e.apply v).run s = (r, s) ↔ v.overMembers take = r := by
  rw [he.run_apply]
  exact ⟨congrArg Prod.fst, congrArg (·, s)⟩

theorem run_nth (index : Int) (strict : Bool) (v : Value) (s : Session) :
    ((nth index strict).apply v).run s = (v.nth index strict, s) := Action.run_ofExcept _ s

/-- Two extractors that leave the session alone, one after the other. -/
theorem run_compose {first second : Extractor} {f g : Value → Except Failure Value}
    (hfirst : ∀ v s, (first.apply v).run s = (f v, s))
    (hsecond : ∀ v s, (second.apply v).run s = (g v, s)) (v : Value) (s : Session) :
    ((compose [first, second]).apply v).run s = (f v >>= g, s) := by
  show (first.apply v >>= fun u => second.apply u >>= fun w => pure w).run s = _
  rw [run_bind, hfirst]
  cases f v with
  | error e => rfl
  | ok u =>
    simp only [bind_pure]
    exact hsecond u s

/-- Picking a member that is there comes to the same before and after an extraction. -/
theorem nth_bind_of_inside (take : Member → Value) {v : Value} {items : List Value} (hv : v.IsSequence items)
    (hmembers : ∀ u ∈ v.innermost, u.IsMember) {index : Int}
    (hindex : 0 ≤ index ∧ index < items.length) (strict : Bool) :
    ∃ item w, items[index.toNat]? = some item ∧ MapsTo take item w ∧
      (v.nth index strict >>= Value.overMembers take) = .ok w ∧
      (v.overMembers take >>= Value.nth index strict) = .ok w := by
  obtain ⟨taken, htaken, hover⟩ := Value.exists_forall₂_mapsTo take hv hmembers
  obtain ⟨hlength, hall⟩ := List.forall₂_iff_get.mp htaken
  have hitem : index.toNat < items.length := by omega
  have hw := hall index.toNat hitem (hlength ▸ hitem)
  have hbefore := Value.nth_of_getElem? hv hindex.1 strict (List.getElem?_eq_getElem hitem)
  have hafter := Value.nth_of_getElem? (.inl rfl) hindex.1 strict
    (List.getElem?_eq_getElem (hlength ▸ hitem))
  refine ⟨_, _, List.getElem?_eq_getElem hitem, hw, ?_, ?_⟩
  · rw [hbefore]
    exact (Value.overMembers_eq_ok_iff _ _).mpr hw
  · rw [hover]
    exact hafter

theorem nth_bind_of_outside (take : Member → Value) {v : Value} {items : List Value} (hv : v.IsSequence items)
    (hmembers : ∀ u ∈ v.innermost, u.IsMember) {index : Int}
    (hindex : ¬ (0 ≤ index ∧ index < items.length)) (strict : Bool) :
    (v.nth index strict >>= Value.overMembers take)
        = .error (.memberOutOfRange index items.length) ∧
      (v.overMembers take >>= Value.nth index strict)
        = .error (.memberOutOfRange index items.length) := by
  obtain ⟨taken, htaken, hover⟩ := Value.exists_forall₂_mapsTo take hv hmembers
  have hlength := htaken.length_eq
  constructor
  · rw [Value.nth_of_outside hv hindex]
    rfl
  · rw [hover, hlength]
    exact Value.nth_of_outside (.inl rfl) (hlength ▸ hindex) strict

/-- **Extracting from nested selections.** Whatever the nesting of a selection, each of the extractors
that take something from a member takes it from every member that lies innermost, and answers in lists
of the same shape. It succeeds exactly if nothing else lies innermost, and otherwise fails with a type
error that names the type of the first other value. It leaves nothing behind in the session.

Picking an item of a sequence of members or of selections of them, and then extracting, comes to the
same as extracting first: what is taken from the item if the index is in range, and otherwise the same
index error, and only then. -/
theorem maps_members_and_commutes_with_nth (he : e.TakesFrom take) (v : Value) (s : Session) :
    (∀ m : Member, (e.apply m.value).run s = (.ok (take m), s)) ∧
      (∀ w, (e.apply v).run s = (.ok w, s) ↔ MapsTo take v w) ∧
      ((∃ w, (e.apply v).run s = (.ok w, s)) ↔ ∀ u ∈ v.innermost, u.IsMember) ∧
      (∀ u, v.firstStranger? = some u → ∃ f : Failure, (e.apply v).run s = (.error f, s) ∧
        f.className = "TypeError" ∧ f.message = "Cannot extract from " ++ u.typeName ++
          "; expected a node or a sequence of nodes") ∧
      ∀ items, v.IsSequence items → (∀ u ∈ v.innermost, u.IsMember) → ∀ (i : Int) (strict : Bool),
        ((compose [nth i strict, e]).apply v).run s = ((compose [e, nth i strict]).apply v).run s ∧
        (0 ≤ i ∧ i < items.length → ∃ item w, items[i.toNat]? = some item ∧ MapsTo take item w ∧
          ((compose [nth i strict, e]).apply v).run s = (.ok w, s)) ∧
        (¬ (0 ≤ i ∧ i < items.length) → ∃ f : Failure,
          ((compose [nth i strict, e]).apply v).run s = (.error f, s) ∧
          f.className = "SelectionIndexError" ∧
          f.message = "Index " ++ toString i ++ " is out of range for a selection of "
            ++ toString items.length) := by
  simp only [he.run_apply_eq_iff, run_compose (run_nth _ _) he.run_apply,
    run_compose he.run_apply (run_nth _ _)]
  refine ⟨Value.overMembers_value take, Value.overMembers_eq_ok_iff v,
    Value.exists_overMembers_eq_ok_iff take v, fun u hu => ?_, fun items hv hmembers i strict => ?_⟩
  · exact ⟨_, (Value.overMembers_eq_error_iff take v _).mpr ⟨u, hu, rfl⟩, rfl, by rw [Failure.message]⟩
  · by_cases hi : 0 ≤ i ∧ i < items.length
    · obtain ⟨item, w, hitem, hw, hbefore, hafter⟩ := nth_bind_of_inside take hv hmembers hi strict
      rw [hbefore, hafter]
      exact ⟨rfl, fun _ => ⟨item, w, hitem, hw, rfl⟩, fun h => absurd hi h⟩
    · obtain ⟨hbefore, hafter⟩ := nth_bind_of_outside take hv hmembers hi strict
      rw [hbefore, hafter]
      exact ⟨rfl, fun h => absurd h hi, fun _ => ⟨_, rfl, rfl, by rw [Failure.message]⟩⟩

/-- A list with a tuple in it, of a link, a text, a comment and a bare text: the tags have its shape,
and the second item's are the same whether the item is picked first or last; a tuple that holds a
number is refused. -/
theorem maps_members_and_commutes_with_nth_tuple_in_list :
    let link : Node := .element "a" (some [("href", "/x")]) []
    let v : Value := .list [.node link, .tuple [.node (.text "t"), .node (.comment "c"), .text "s"]]
    (tag.apply v).run {} =
        (.ok (.list [.text "a", .list [.absent, .absent, .absent]]), {}) ∧
      ((compose [nth 1 true, tag]).apply v).run {} =
        ((compose [tag, nth 1 true]).apply v).run {} ∧
      (∃ f : Failure, ((compose [nth (-1) true, tag]).apply v).run {} = (.error f, {}) ∧
        f.className = "SelectionIndexError" ∧
        f.message = "Index " ++ toString (-1 : Int) ++ " is out of range for a selection of "
          ++ toString 2) ∧
      ∃ f : Failure, (tag.apply (.tuple [.text "s", .list [.whole 5, .absent]])).run {} =
        (.error f, {}) ∧ f.className = "TypeError" ∧
        f.message = "Cannot extract from int; expected a node or a sequence of nodes" := by
  intro link v
  have hmembers : ∀ u ∈ v.innermost, u.IsMember :=
    Value.firstStranger?_eq_none_iff.mp (by rfl)
  obtain ⟨-, hok, -, -, hnth⟩ := maps_members_and_commutes_with_nth .tag v {}
  obtain ⟨-, -, -, hstranger, -⟩ := maps_members_and_commutes_with_nth .tag
    (.tuple [.text "s", .list [.whole 5, .absent]]) {}
  have hitems := hnth _ (.inl rfl) hmembers
  refine ⟨(hok _).mpr ?_, (hitems 1 true).1, (hitems (-1) true).2.2 (by decide),
    hstranger (.whole 5) (by rfl)⟩
  exact (Value.overMembers_eq_ok_iff _ _).mp rfl

end Extractor
end MarkupQuery
