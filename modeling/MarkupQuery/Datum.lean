import MarkupQuery.Mapping
import MarkupQuery.Number.Binary64

/-!
# Plain data

Data as it comes from outside: what a JSON text, a settings file or a caller hands in. Most of it is
nothing, truth values, numbers, texts, lists and records. A text may also be broken, with half of a
surrogate pair in it, so that it is known by its code points only.
-/

namespace MarkupQuery

inductive Datum where
  | null
  | bool (b : Bool)
  | int (i : Int)
  | fraction (x : Binary64)
  | text (s : String)
  | brokenText (points : List Nat)
  | bytes (b : List UInt8)
  | list (items : List Datum)
  | record (fields : List (Datum × Datum))
  | set (items : List Datum)
  /-- A value of a further type, of which only the type counts. -/
  | other (typeName : String)
  deriving Inhabited

namespace Datum

/-- The name of a datum's type in messages. -/
def typeName : Datum → String
  | .null => "NoneType"
  | .bool _ => "bool"
  | .int _ => "int"
  | .fraction _ => "float"
  | .text _ => "str"
  | .brokenText _ => "str"
  | .bytes _ => "bytes"
  | .list _ => "list"
  | .record _ => "dict"
  | .set _ => "set"
  | .other name => name

/-- Whether a datum is a text, be it a broken one. -/
def isText : Datum → Bool
  | .text _ | .brokenText _ => true
  | _ => false

/-- Whether a datum says anything: nothing, zero and whatever is empty do not. -/
def saysSomething : Datum → Bool
  | .null => false
  | .bool b => b
  | .int i => i != 0
  | .fraction x => !x.isZero
  | .text s => !s.isEmpty
  | .brokenText points => !points.isEmpty
  | .bytes b => !b.isEmpty
  | .list items => !items.isEmpty
  | .record fields => !fields.isEmpty
  | .set items => !items.isEmpty
  | .other _ => true

/-- The text with the given code points. -/
def ofPoints (points : List Nat) : Datum :=
  if points.all Nat.isValidChar then .text (String.ofList (points.map Char.ofNat))
  else .brokenText points

/-- The number that a datum counts as when keys are compared, as an exact ratio. -/
def ratio? : Datum → Option (Int × Nat)
  | .bool b => some (if b then 1 else 0, 1)
  | .int i => some (i, 1)
  | .fraction x => x.ratio?
  | _ => none

/-- Whether two data are the same key. -/
def sameKey (a b : Datum) : Bool :=
  match a.ratio?, b.ratio?, a, b with
  | some x, some y, _, _ => x.1 * y.2 == y.1 * x.2
  | _, _, .null, .null => true
  | _, _, .fraction x, .fraction y => x == y && x != .nan
  | _, _, .text s, .text t => s == t
  | _, _, .brokenText s, .brokenText t => s == t
  | _, _, .bytes s, .bytes t => s == t
  | _, _, _, _ => false

/-- Record fields are compared by `sameKey` of their keys. -/
instance : BEq Datum := ⟨sameKey⟩

/-- The record with the given fields, of which the last of each key counts. -/
def ofFields (fields : List (Datum × Datum)) : Datum := .record (Mapping.ofPairs fields)

/-- The fields of a record. -/
abbrev Fields := Mapping Datum Datum

/-- The datum in the field of a name. -/
def field? (fields : Fields) (name : String) : Option Datum := fields.find? (.text name)

/-- The datum that field names lead to. -/
def descend? (d : Datum) : List String → Option Datum
  | [] => some d
  | name :: names => match d with
    | .record fields => match field? fields name with
      | some inner => inner.descend? names
      | none => none
    | _ => none

end Datum
end MarkupQuery
