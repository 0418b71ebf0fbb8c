import MarkupQuery.Datum
import MarkupQuery.Number.Notation
import MarkupQuery.Text.Quoted

/-!
# Writing JSON

A datum as a JSON text without spaces. The keys of records are written as texts whatever they are.
Characters other than quotes, backslashes and control characters stand for themselves; the halves of
a broken text are escaped.
-/

namespace MarkupQuery.Json

/-- A code point behind `\u`, as four hexadecimal digits. -/
def escapedUnit (n : Nat) : List Char := '\\' :: 'u' :: Text.hexDigits 4 n

/-- How a character is written in a string. -/
def escapedIn (c : Char) : List Char :=
  if c = '"' || c = '\\' then ['\\', c]
  else if c.toNat < 0x20 then escapedUnit c.toNat
  else [c]

/-- How a code point is written in a string. -/
def escapedPoint (n : Nat) : List Char :=
  if n.isValidChar then escapedIn (Char.ofNat n) else escapedUnit n

/-- The text of a number. -/
def numberText (x : Binary64) : String :=
  match x with
  | .nan => "NaN"
  | .infinite negative => if negative then "-Infinity" else "Infinity"
  | x => x.text

/-- A string between quotes, after what is written already. -/
def writeString (written : String) (s : String) : String :=
  (s.toList.foldl (fun w c => (escapedIn c).foldl String.push w) (written.push '"')).push '"'

/-- A broken text between quotes, after what is written already. -/
def writePoints (written : String) (points : List Nat) : String :=
  (points.foldl (fun w n => (escapedPoint n).foldl String.push w) (written.push '"')).push '"'

/-- The text of a record key. -/
def keyText : Datum → String
  | .null => "null"
  | .bool b => if b then "true" else "false"
  | .int i => toString i
  | .fraction x => numberText x
  | .text s => s
  | d => d.typeName

mutual
/-- A datum after what is written already. -/
def writeAfter (written : String) : Datum → String
  | .null => written ++ "null"
  | .bool b => written ++ if b then "true" else "false"
  | .int i => written ++ toString i
  | .fraction x => written ++ numberText x
  | .text s => writeString written s
  | .brokenText points => writePoints written points
  | .bytes b => writePoints written (b.map UInt8.toNat)
  | .list items => (writeItems (written.push '[') true items).push ']'
  | .set items => (writeItems (written.push '[') true items).push ']'
  | .record fields => (writeFields (written.push '\x7b') true fields).push '\x7d'
  | .other name => writeString written name

/-- The items of a list; all but the first follow a comma. -/
def writeItems (written : String) (first : Bool) : List Datum → String
  | [] => written
  | d :: ds => writeItems (writeAfter (if first then written else written.push ',') d) false ds

/-- The fields of a record; all but the first follow a comma. -/
def writeFields (written : String) (first : Bool) : List (Datum × Datum) → String
  | [] => written
  | (k, v) :: rest =>
    let start := if first then written else written.push ','
    writeFields (writeAfter ((writeString start (keyText k)).push ':') v) false rest
end

/-- The JSON text of a datum. -/
def write (d : Datum) : String := writeAfter "" d

end MarkupQuery.Json
