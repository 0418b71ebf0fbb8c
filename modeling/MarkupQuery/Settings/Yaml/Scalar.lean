import MarkupQuery.Datum
import MarkupQuery.Settings.Yaml.Token
import MarkupQuery.Text.Blank

/-!
# What scalars mean

The tag of a scalar says what its text denotes: nothing, a truth value, a number, a date, bytes, or the
text itself. A scalar without quotes and without a tag has the tag that its spelling suggests. Whole
numbers may be binary, octal, decimal or hexadecimal, or have sixtieths set off by colons; underscores
between digits are passed over.

A tag that is given counts whatever the spelling, so that each tag has its own way to fail.
-/

namespace MarkupQuery.Yaml

inductive Tag where
  | null
  | truth
  | whole
  | fraction
  | moment
  | bytes
  | text
  | sequence
  | mapping
  | set
  | pairs
  | merge
  | value
  | unknown
  deriving DecidableEq, Repr

/-- What the names of the known tags begin with. -/
def tagSpace : List Char := "tag:yaml.org,2002:".toList

/-- The tag of a name. -/
def Tag.ofName (name : List Char) : Tag :=
  if tagSpace.isPrefixOf name then
    match String.ofList (name.drop tagSpace.length) with
    | "null" => .null
    | "bool" => .truth
    | "int" => .whole
    | "float" => .fraction
    | "timestamp" => .moment
    | "binary" => .bytes
    | "str" => .text
    | "seq" => .sequence
    | "map" => .mapping
    | "set" => .set
    | "omap" | "pairs" => .pairs
    | "merge" => .merge
    | "value" => .value
    | _ => .unknown
  else .unknown

/-! ## Dates -/

/-- A date, perhaps with a time and the distance to universal time in seconds. -/
structure Moment where
  year : Nat
  month : Nat
  day : Nat
  time : Option (Nat × Nat × Nat)
  offset : Option Int
  /-- Whether the month and the day have two digits. -/
  isFull : Bool

/-- The number that digits spell. -/
def numberOfDigits (ds : List Char) : Nat := ds.foldl (fun n d => n * 10 + (d.toNat - 0x30)) 0

/-- A number of as many digits, or fewer down to the given least. -/
def readCount (least most : Nat) (cs : List Char) : Option (Nat × List Char) :=
  let digits := (cs.take most).takeWhile Char.isDigit
  if digits.length < least then none else some (numberOfDigits digits, cs.drop digits.length)

/-- The text after a character that must stand here. -/
def afterChar (c : Char) : List Char → Option (List Char)
  | [] => none
  | d :: cs => if d = c then some cs else none

def skipBlanks (cs : List Char) : List Char := cs.dropWhile fun c => c == ' ' || c == '\t'

/-- The distance to universal time at the end of a date: whether one is given, and in seconds. -/
def readOffset (cs : List Char) : Option (Option Int) :=
  match cs, skipBlanks cs with
  | [], _ => some none
  | _, ['Z'] => some none
  | _, s :: more => do
    let sign : Int ← if s = '+' then some 1 else if s = '-' then some (-1) else none
    let (hours, rest) ← readCount 1 2 more
    match rest with
    | [] => some (some (sign * (hours * 3600 : Nat)))
    | ':' :: more => match ← readCount 2 2 more with
      | (minutes, []) => some (some (sign * (hours * 3600 + minutes * 60 : Nat)))
      | _ => none
    | _ => none
  | _, [] => none

/-- The hours, minutes and seconds after a date, with what follows them. -/
def readTime (cs : List Char) : Option ((Nat × Nat × Nat) × Option Int) := do
  let (hour, rest) ← readCount 1 2 cs
  let (minute, rest) ← readCount 2 2 (← afterChar ':' rest)
  let (second, rest) ← readCount 2 2 (← afterChar ':' rest)
  let rest := match rest with
    | '.' :: more => more.dropWhile Char.isDigit
    | rest => rest
  some ((hour, minute, second), ← readOffset rest)

/-- A date with or without a time. -/
def readMoment (cs : List Char) : Option Moment := do
  let (year, rest) ← readCount 4 4 cs
  let monthText ← afterChar '-' rest
  let (month, rest) ← readCount 1 2 monthText
  let dayText ← afterChar '-' rest
  let (day, after) ← readCount 1 2 dayText
  let isFull := monthText.length - rest.length == 2 && dayText.length - after.length == 2
  match after with
  | [] => some ⟨year, month, day, none, none, isFull⟩
  | c :: more =>
    let timeText ← if c = 'T' ∨ c = 't' then some more
      else if c = ' ' ∨ c = '\t' then some (skipBlanks more) else none
    let (time, offset) ← readTime timeText
    some ⟨year, month, day, some time, offset, isFull⟩

/-- How many days a month has. -/
def daysIn (year month : Nat) : Nat :=
  if month = 2 then
    if year % 4 = 0 ∧ (year % 100 ≠ 0 ∨ year % 400 = 0) then 29 else 28
  else if month ∈ [4, 6, 9, 11] then 30 else 31

/-- The datum that a date denotes, if there is such a date. -/
def Moment.datum (m : Moment) : Except Failure Datum := do
  if let some seconds := m.offset then
    if seconds.natAbs ≥ 86400 then throw (.badOffset seconds)
  if m.year = 0 then throw (.badDate (.year m.year))
  if m.month = 0 ∨ m.month > 12 then throw (.badDate .month)
  if m.day = 0 ∨ m.day > daysIn m.year m.month then throw (.badDate .day)
  match m.time with
  | none => pure (.other "date")
  | some (hour, minute, second) =>
    if hour > 23 then throw (.badDate .hour)
    if minute > 59 then throw (.badDate .minute)
    if second > 59 then throw (.badDate .second)
    pure (.other "datetime")

/-! ## Numbers -/

/-- A text without its sign: whether there was one, whether it was a minus, and the rest. -/
def splitSign : List Char → Bool × Bool × List Char
  | '-' :: cs => (true, true, cs)
  | '+' :: cs => (true, false, cs)
  | cs => (false, false, cs)

/-- Whether a character stands in the middle of a decimal number. -/
def inNumber (c : Char) : Bool := c.isDigit || c == '_'

/-- Whether a text goes on with sixtieths and what may stand after them: each is a colon and one digit,
or two of which the first is below six. -/
def sixtiethsThen (ends : List Char → Bool) : List Char → Bool
  | ':' :: t :: d :: cs =>
    if d.isDigit then '0' ≤ t && t ≤ '5' && (ends cs || sixtiethsThen ends cs)
    else t.isDigit && (ends (d :: cs) || sixtiethsThen ends (d :: cs))
  | [':', d] => d.isDigit && ends []
  | _ => false

/-- Whether a text is nothing, or a power of ten with its sign. -/
def isPower : List Char → Bool
  | [] => true
  | e :: s :: ds => (e == 'e' || e == 'E') && (s == '+' || s == '-') && !ds.isEmpty && ds.all Char.isDigit
  | _ => false

/-- Whether a text is spelt like a fractional number. -/
def isFraction (cs : List Char) : Bool :=
  let (signed, _, body) := splitSign cs
  let after := body.dropWhile inNumber
  let places (cs : List Char) : Option (List Char) := (afterChar '.' cs).map (·.dropWhile inNumber)
  if body.head?.any Char.isDigit then
    (places after).any isPower || sixtiethsThen (fun cs => (places cs).any (·.isEmpty)) after
  else match body with
    | '.' :: d :: more => (!signed && d.isDigit && isPower (more.dropWhile inNumber)) ||
        ["inf", "Inf", "INF"].contains (String.ofList (d :: more)) ||
        (!signed && ["nan", "NaN", "NAN"].contains (String.ofList (d :: more)))
    | _ => false

/-- Whether a text is spelt like a whole number. -/
def isWhole (cs : List Char) : Bool :=
  let (_, _, body) := splitSign cs
  let allOf (digit : Char → Bool) (cs : List Char) : Bool :=
    !cs.isEmpty && cs.all fun c => digit c || c == '_'
  match body with
  | ['0'] => true
  | '0' :: 'b' :: ds => allOf (fun c => c == '0' || c == '1') ds
  | '0' :: 'x' :: ds => allOf (fun c => (hexValue? c).isSome) ds
  | '0' :: ds => allOf (fun c => '0' ≤ c && c ≤ '7') ds
  | d :: _ => d.isDigit &&
      ((body.dropWhile inNumber).isEmpty || sixtiethsThen (·.isEmpty) (body.dropWhile inNumber))
  | [] => false

/-- Takes blanks off both ends. -/
def trim (cs : List Char) : List Char :=
  ((cs.dropWhile Text.isBlank).reverse.dropWhile Text.isBlank).reverse

/-- The whole number that a text spells in a base. The digits of a decimal number are counted before
anything behind them is looked at. -/
def readWhole (base : Nat) (cs : List Char) : Except Failure Int :=
  let (_, negative, ds) := splitSign (trim cs)
  let count := (ds.takeWhile Char.isDigit).length
  let value := ds.foldlM (fun n c => match hexValue? c with
    | some d => if d < base then some (n * base + d) else none
    | none => none) 0
  if base = 10 ∧ count > mostDigits then .error (.tooManyDigits count)
  else match ds, value with
  | _ :: _, some n => .ok (if negative then -(n : Int) else n)
  | _, _ => .error (.notWhole base (String.ofList cs))

/-- Cuts a text at a character. -/
def cutAt (mark : Char) (cs : List Char) : List (List Char) :=
  cs.foldr (fun c parts => match parts with
    | part :: more => if c = mark then [] :: part :: more else (c :: part) :: more
    | [] => [[c]]) [[]]

/-- The whole number that a scalar denotes. -/
def wholeOf (cs : List Char) : Except Failure Int := do
  let (_, negative, ds) := splitSign (cs.filter (· != '_'))
  let magnitude : Int ← match ds with
    | [] => throw .emptyNumber
    | ['0'] => pure 0
    | '0' :: 'b' :: ds => readWhole 2 ds
    | '0' :: 'x' :: ds => readWhole 16 ds
    | '0' :: _ => readWhole 8 ds
    | ds =>
      if ds.contains ':' then
        let parts ← (cutAt ':' ds).mapM (readWhole 10)
        pure (parts.foldl (fun n part => n * 60 + part) 0)
      else readWhole 10 ds
  pure (if negative then -magnitude else magnitude)

/-- The power of ten that the end of a number spells, which may have no sign. -/
def readPower : List Char → Option Int
  | [] => some 0
  | 'e' :: cs =>
    let (_, negative, ds) := splitSign cs
    if ds.isEmpty || !ds.all Char.isDigit then none
    else some (if negative then -(numberOfDigits ds : Int) else numberOfDigits ds)
  | _ => none

/-- The fractional number that a text in lower case spells. -/
def readFraction (cs : List Char) : Except Failure Binary64 :=
  let (_, negative, body) := splitSign (trim cs)
  let whole := body.takeWhile Char.isDigit
  let after := body.dropWhile Char.isDigit
  let (places, rest) := match after with
    | '.' :: more => (more.takeWhile Char.isDigit, more.dropWhile Char.isDigit)
    | rest => ([], rest)
  let word := String.ofList body
  if word = "inf" ∨ word = "infinity" then .ok (.infinite negative)
  else if word = "nan" then .ok .nan
  else match whole ++ places, readPower rest with
    | d :: ds, some power =>
      .ok (Binary64.ofDecimal negative (numberOfDigits (d :: ds)) (power - places.length))
    | _, _ => .error (.notFraction (String.ofList cs))

/-- The negative of a number. -/
def negated : Binary64 → Binary64
  | .finite negative m e => .finite (!negative) m e
  | .infinite negative => .infinite (!negative)
  | .nan => .nan

/-- The fractional number that parts, set off by colons, make together: the last one counts once, and
every one sixty times as much as the one after it. -/
def sumOfParts (parts : List Binary64) : Binary64 :=
  (parts.reverse.foldl (fun (sum, unit) part => (sum.add (part.scale unit), unit * 60))
    (Binary64.zero false, 1)).1

/-- The fractional number that a scalar denotes. -/
def fractionOf (cs : List Char) : Except Failure Binary64 := do
  let (_, negative, body) := splitSign ((cs.filter (· != '_')).map Char.toLower)
  let magnitude : Binary64 ← match body with
    | [] => throw .emptyNumber
    | body =>
      if body = ".inf".toList then pure (.infinite false)
      else if body = ".nan".toList then pure .nan
      else if body.contains ':' then
        pure (sumOfParts (← (cutAt ':' body).mapM readFraction))
      else readFraction body
  pure (if negative then negated magnitude else magnitude)

/-! ## Bytes -/

/-- What a character stands for where six bits are written as one character. -/
def sixBits? (c : Char) : Option Nat :=
  if c.isUpper then some (c.toNat - 0x41)
  else if c.isLower then some (c.toNat - 0x61 + 26)
  else if c.isDigit then some (c.toNat - 0x30 + 52)
  else if c = '+' then some 62
  else if c = '/' then some 63
  else none

/-- The bytes that groups of six bits make. `count` groups of a quartet have been read, of which `left`
is still to be used; after enough equals signs nothing more is read. Characters of no meaning are
passed over. -/
def readSixBits (count left pads : Nat) : List Char → Option (List UInt8)
  | [] => if count = 0 then some [] else none
  | c :: cs =>
    if c = '=' then
      if count ≥ 2 then
        if count + pads + 1 ≥ 4 then some [] else readSixBits count left (pads + 1) cs
      else readSixBits count left pads cs
    else match sixBits? c with
      | none => readSixBits count left pads cs
      | some n =>
        let byte (kept shift : Nat) : UInt8 := UInt8.ofNat (left * 2 ^ kept + n / 2 ^ shift)
        match count with
        | 0 => readSixBits 1 n 0 cs
        | 1 => (readSixBits 2 (n % 16) 0 cs).map (byte 2 4 :: ·)
        | 2 => (readSixBits 3 (n % 4) 0 cs).map (byte 4 2 :: ·)
        | _ => (readSixBits 0 0 0 cs).map (byte 6 0 :: ·)

/-! ## Scalars by their tags -/

/-- The words for nothing. -/
def nullWords : List String := ["", "~", "null", "Null", "NULL"]

def trueWords : List String := ["yes", "Yes", "YES", "true", "True", "TRUE", "on", "On", "ON"]

def falseWords : List String := ["no", "No", "NO", "false", "False", "FALSE", "off", "Off", "OFF"]

/-- The tag that the spelling of a scalar suggests. -/
def suggestedTag (cs : List Char) : Tag :=
  let s := String.ofList cs
  if nullWords.contains s then .null
  else if trueWords.contains s || falseWords.contains s then .truth
  else if isFraction cs then .fraction
  else if isWhole cs then .whole
  else if (readMoment cs).any fun m => m.time.isSome || m.isFull then .moment
  else if s = "<<" then .merge
  else if s = "=" then .value
  else .text

/-- The truth value that a word stands for, in any case. -/
def truthOf (cs : List Char) : Except Failure Bool :=
  let word := String.ofList (cs.map Char.toLower)
  if trueWords.contains word then .ok true
  else if falseWords.contains word then .ok false
  else .error (.notTruth word)

/-- What a scalar with a tag denotes. -/
def scalarDatum (tag : Tag) (points : List Nat) : Except Failure Datum :=
  let cs := points.map Char.ofNat
  match tag with
  | .null => .ok .null
  | .truth => (truthOf cs).map .bool
  | .whole => (wholeOf cs).map .int
  | .fraction => (fractionOf cs).map .fraction
  | .moment => match readMoment cs with
    | some m => m.datum
    | none => .error .notDate
  | .bytes =>
    if points.all (· < 0x80) then match readSixBits 0 0 0 cs with
      | some bytes => .ok (.bytes bytes)
      | none => .error .malformed
    else .error .malformed
  | .text => .ok (Datum.ofPoints points)
  | _ => .error .malformed

end MarkupQuery.Yaml
