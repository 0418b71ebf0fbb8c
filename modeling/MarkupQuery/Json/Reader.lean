import MarkupQuery.Datum

/-!
# JSON texts

Reads a JSON text as a datum. A text is refused as a whole when anything is malformed or follows the
value. Each reader takes the depth to which values may still be nested; a text cannot nest deeper
than it is long.
-/

namespace MarkupQuery.Json

def isSpace (c : Char) : Bool := c == ' ' || c == '\t' || c == '\n' || c == '\r'

def skipSpace (cs : List Char) : List Char := cs.dropWhile isSpace

/-- The rest of a text after a given beginning. -/
def after (start cs : List Char) : Option (List Char) :=
  if start.isPrefixOf cs then some (cs.drop start.length) else none

/-! ## Strings -/

def hexValue? (c : Char) : Option Nat :=
  if c.isDigit then some (c.toNat - 0x30)
  else if 'a' ≤ c && c ≤ 'f' then some (c.toNat - 0x57)
  else if 'A' ≤ c && c ≤ 'F' then some (c.toNat - 0x37)
  else none

/-- The number that four hexadecimal digits spell, and the rest of the text. -/
def readUnit (cs : List Char) : Option (Nat × List Char) :=
  match cs with
  | a :: b :: c :: d :: rest => do
    let n := ((← hexValue? a) * 16 + (← hexValue? b)) * 256 + (← hexValue? c) * 16 + (← hexValue? d)
    some (n, rest)
  | _ => none

/-- The code point after an escaping `\u`, which may be spelt as a pair of surrogates. A surrogate
without its other half stands for itself. -/
def readEscapedUnit (cs : List Char) : Option (Nat × List Char) := do
  let (high, rest) ← readUnit cs
  match rest with
  | '\\' :: 'u' :: more =>
    if 0xD800 ≤ high ∧ high < 0xDC00 then
      let (low, after) ← readUnit more
      if 0xDC00 ≤ low ∧ low < 0xE000 then
        some (0x10000 + (high - 0xD800) * 0x400 + (low - 0xDC00), after)
      else some (high, rest)
    else some (high, rest)
  | _ => some (high, rest)

/-- The character that a letter after a backslash stands for. -/
def escapedChar? (c : Char) : Option Char :=
  match c with
  | '"' => some '"'
  | '\\' => some '\\'
  | '/' => some '/'
  | 'b' => some '\x08'
  | 'f' => some '\x0c'
  | 'n' => some '\n'
  | 'r' => some '\r'
  | 't' => some '\t'
  | _ => none

/-- The code point after a backslash, and the rest of the text. -/
def readEscape (cs : List Char) : Option (Nat × List Char) :=
  match cs with
  | 'u' :: rest => readEscapedUnit rest
  | c :: rest => (escapedChar? c).map fun e => (e.toNat, rest)
  | [] => none

/-- Reads a string on to its closing quote. The code points read so far are listed last first. -/
def readStringFrom (read : List Nat) (cs : List Char) : Option (Datum × List Char) :=
  match cs with
  | [] => none
  | c :: more =>
    if c = '"' then some (.ofPoints read.reverse, more)
    else if c = '\\' then
      match readEscape more with
      | some (point, rest) =>
        readStringFrom (point :: read) (more.drop (more.length - rest.length))
      | none => none
    else if c.toNat < 0x20 then none
    else readStringFrom (c.toNat :: read) more
termination_by cs.length

/-- A string after its opening quote, and the rest of the text. -/
def readString (cs : List Char) : Option (Datum × List Char) := readStringFrom [] cs

/-! ## Numbers -/

/-- The number that digits spell. -/
def numberOf (digits : List Char) : Nat :=
  digits.foldl (fun n c => n * 10 + (c.toNat - 0x30)) 0

/-- A number with a power of ten, as a datum; a fraction or a power makes it fractional. -/
def scaled (negative : Bool) (whole fraction : List Char) (power : Option Int) : Datum :=
  let magnitude := numberOf (whole ++ fraction)
  if fraction.isEmpty && power.isNone then
    .int (if negative then -(magnitude : Int) else magnitude)
  else .fraction (.ofDecimal negative magnitude (power.getD 0 - fraction.length))

/-- The power of ten after a number, and the rest of the text. -/
def readPower (cs : List Char) : Option Int × List Char :=
  match cs with
  | c :: more =>
    if c = 'e' ∨ c = 'E' then
      let (negative, more') := match more with
        | '-' :: rest => (true, rest)
        | '+' :: rest => (false, rest)
        | rest => (false, rest)
      let digits := more'.takeWhile Char.isDigit
      if digits.isEmpty then (none, cs)
      else
        let n : Int := numberOf digits
        (some (if negative then -n else n), more'.dropWhile Char.isDigit)
    else (none, cs)
  | [] => (none, cs)

/-- A number and the rest of the text. -/
def readNumber (cs : List Char) : Option (Datum × List Char) :=
  let (negative, cs) := match cs with
    | '-' :: rest => (true, rest)
    | rest => (false, rest)
  let digits := cs.takeWhile Char.isDigit
  let whole := if digits.head? = some '0' then ['0'] else digits
  if whole.isEmpty then none
  else
    let rest := cs.drop whole.length
    let (fraction, rest) := match rest with
      | '.' :: more =>
        let fraction := more.takeWhile Char.isDigit
        if fraction.isEmpty then ([], rest) else (fraction, more.dropWhile Char.isDigit)
      | rest => ([], rest)
    let (power, rest) := readPower rest
    some (scaled negative whole fraction power, rest)

/-- A word that stands for a value, and the rest of the text. -/
def readWord (cs : List Char) : Option (Datum × List Char) :=
  (after "null".toList cs).map (Datum.null, ·) <|>
  (after "true".toList cs).map (Datum.bool true, ·) <|>
  (after "false".toList cs).map (Datum.bool false, ·) <|>
  (after "NaN".toList cs).map (Datum.fraction .nan, ·) <|>
  (after "Infinity".toList cs).map (Datum.fraction (.infinite false), ·) <|>
  (after "-Infinity".toList cs).map (Datum.fraction (.infinite true), ·)

/-! ## Values -/

mutual
/-- A value and the rest of the text. -/
def readValue : Nat → List Char → Option (Datum × List Char)
  | 0, _ => none
  | depth + 1, cs =>
    match skipSpace cs with
    | '"' :: more => readString more
    | '[' :: more =>
      match skipSpace more with
      | ']' :: rest => some (.list [], rest)
      | more => (readItems depth more).map fun (items, rest) => (.list items, rest)
    | '\x7b' :: more =>
      match skipSpace more with
      | '\x7d' :: rest => some (.record [], rest)
      | more => (readFields depth more).map fun (fields, rest) => (Datum.ofFields fields, rest)
    | cs => readWord cs <|> readNumber cs

/-- The items of a list up to its closing bracket, and the rest of the text. -/
def readItems : Nat → List Char → Option (List Datum × List Char)
  | 0, _ => none
  | depth + 1, cs => do
    let (item, rest) ← readValue depth cs
    match skipSpace rest with
    | ']' :: rest => some ([item], rest)
    | ',' :: rest =>
      let (items, rest) ← readItems depth rest
      some (item :: items, rest)
    | _ => none

/-- The fields of a record up to its closing brace, and the rest of the text. -/
def readFields : Nat → List Char → Option (List (Datum × Datum) × List Char)
  | 0, _ => none
  | depth + 1, cs =>
    match skipSpace cs with
    | '"' :: more => do
      let (key, rest) ← readString more
      match skipSpace rest with
      | ':' :: rest =>
        let (value, rest) ← readValue depth rest
        match skipSpace rest with
        | '\x7d' :: rest => some ([(key, value)], rest)
        | ',' :: rest =>
          let (fields, rest) ← readFields depth rest
          some ((key, value) :: fields, rest)
        | _ => none
      | _ => none
    | _ => none
end

/-- The datum that a whole JSON text denotes. -/
def read? (s : String) : Option Datum :=
  match readValue (2 * s.length + 2) s.toList with
  | some (d, rest) => if (skipSpace rest).isEmpty then some d else none
  | none => none

end MarkupQuery.Json
