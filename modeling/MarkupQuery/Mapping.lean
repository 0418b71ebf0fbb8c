/-!
# Mappings in order of first mention

A mapping is a list of pairs in which no key occurs twice. Setting a key that is there keeps its
place and takes the new value; setting any other key appends it. Two mappings are the same when
they hold the same values under the same keys, whatever the order.
-/

namespace MarkupQuery

/-- Keys with their values, in order of first mention. -/
abbrev Mapping (κ ν : Type) := List (κ × ν)

namespace Mapping

variable {κ ν : Type} [BEq κ]

/-- The value under a key. -/
def find? (m : Mapping κ ν) (k : κ) : Option ν :=
  match m with
  | [] => none
  | (k', v) :: rest => if k' == k then some v else find? rest k

/-- Sets the value under a key. -/
def put (m : Mapping κ ν) (k : κ) (v : ν) : Mapping κ ν :=
  match m with
  | [] => [(k, v)]
  | (k', v') :: rest => if k' == k then (k', v) :: rest else (k', v') :: put rest k v

/-- Sets every pair in turn, onto a given mapping. -/
def putAll (m : Mapping κ ν) (pairs : List (κ × ν)) : Mapping κ ν :=
  pairs.foldl (fun acc p => acc.put p.1 p.2) m

/-- The mapping that a list of pairs spells: the last value of a key wins. -/
def ofPairs (pairs : List (κ × ν)) : Mapping κ ν := putAll [] pairs

/-- Takes a key out. -/
def remove (m : Mapping κ ν) (k : κ) : Mapping κ ν := m.filter fun p => !(p.1 == k)

/-- Same keys with same values, in any order. -/
def sameAs [BEq ν] (a b : Mapping κ ν) : Bool :=
  a.length == b.length && a.all fun p => match find? b p.1 with
    | some v => p.2 == v
    | none => false

/-! ## What setting a key does to look-ups -/

variable [LawfulBEq κ]

theorem find?_put_self (m : Mapping κ ν) (k : κ) (v : ν) : (m.put k v).find? k = some v := by
  induction m with
  | nil => simp [put, find?]
  | cons p rest ih =>
    by_cases h : p.1 == k
    · simp [put, find?, h]
    · simp [put, find?, h, ih]

theorem find?_put_of_ne (m : Mapping κ ν) {k j : κ} (v : ν) (h : k ≠ j) :
    (m.put k v).find? j = m.find? j := by
  induction m with
  | nil => simp [put, find?, h]
  | cons p rest ih =>
    by_cases hk : p.1 = k
    · subst hk; simp [put, find?, h]
    · simp [put, find?, hk, ih]

end Mapping
end MarkupQuery
