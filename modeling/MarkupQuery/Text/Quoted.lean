import MarkupQuery.Text.Printable

/-!
# Quoted text

The quoted form of a text stands in messages and in the names of selectors and extractors. It is
delimited by single quotes, or by double quotes when the text holds a single quote and no double
one. The delimiter, the backslash and whatever is not printable are escaped.
-/

namespace MarkupQuery.Text

/-- Lowercase hexadecimal digit of a number below sixteen. -/
def hexDigit (n : Nat) : Char :=
  if n < 10 then Char.ofNat (0x30 + n) else Char.ofNat (0x57 + n)

/-- The last `width` hexadecimal digits of a number. -/
def hexDigits : Nat → Nat → List Char
  | 0, _ => []
  | width + 1, n => hexDigits width (n / 16) ++ [hexDigit (n % 16)]

/-- A character written by its number, in as few digits as its kind of escape has. -/
def escapedByNumber (c : Char) : List Char :=
  if c.toNat < 0x100 then '\\' :: 'x' :: hexDigits 2 c.toNat
  else if c.toNat < 0x10000 then '\\' :: 'u' :: hexDigits 4 c.toNat
  else '\\' :: 'U' :: hexDigits 8 c.toNat

/-- How a character is written between the given delimiters. -/
def escaped (delimiter c : Char) : List Char :=
  if c = delimiter || c = '\\' then ['\\', c]
  else if c = '\n' then ['\\', 'n']
  else if c = '\r' then ['\\', 'r']
  else if c = '\t' then ['\\', 't']
  else if isPrintable c then [c]
  else escapedByNumber c

/-- The delimiter that spares most escapes. -/
def delimiterFor (s : List Char) : Char :=
  if '\'' ∈ s ∧ '"' ∉ s then '"' else '\''

/-- The quoted form of a text. -/
def quoted (s : String) : String :=
  let q := delimiterFor s.toList
  String.ofList (q :: s.toList.flatMap (escaped q) ++ [q])

end MarkupQuery.Text
