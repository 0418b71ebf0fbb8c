import MarkupQuery.Markup.ReferenceNames
import MarkupQuery.Text.Ranges

/-!
# Character references

A reference stands for characters by name (`amp`) or by number (`#38`, `#x26`). In character data a
reference ends at the first character that cannot belong to it, and a semicolon there is part of
it; a name that is not known stands for itself. In attribute values the semicolon decides: without
one only the legacy names count, and the longest of them that the text starts with.
-/

namespace MarkupQuery.Markup

/-- What the code points 0x80 to 0x9F stand for when a reference numbers them. -/
def windowsCodePoints : List Nat :=
  [0x20AC, 0x81, 0x201A, 0x192, 0x201E, 0x2026, 0x2020, 0x2021, 0x2C6, 0x2030, 0x160, 0x2039, 0x152,
   0x8D, 0x17D, 0x8F, 0x90, 0x2018, 0x2019, 0x201C, 0x201D, 0x2022, 0x2013, 0x2014, 0x2DC, 0x2122,
   0x161, 0x203A, 0x153, 0x9D, 0x17E, 0x178]

/-- The character with a number, or the replacement character if there is none. -/
def charOrReplacement (n : Nat) : Char := if n.isValidChar then Char.ofNat n else '\uFFFD'

/-- The character that a number stands for in character data. -/
def numberedChar (n : Nat) : Char :=
  if n = 0 then '\uFFFD'
  else if 0x80 ≤ n ∧ n ≤ 0x9F then charOrReplacement (windowsCodePoints[n - 0x80]?.getD n)
  else charOrReplacement n

/-- The characters that a name stands for. -/
def namedChars? (name : List Char) : Option (List Char) :=
  (namedReferences.lookup (String.ofList name)).map fun ns => ns.map Char.ofNat

def isHexDigit (c : Char) : Bool := c.isDigit || ('a' ≤ c && c ≤ 'f') || ('A' ≤ c && c ≤ 'F')

def hexValue (c : Char) : Nat :=
  if c.isDigit then c.toNat - 0x30 else if 'a' ≤ c then c.toNat - 0x57 else c.toNat - 0x37

/-- The number that digits spell in a base. -/
def numberOf (base : Nat) (digits : List Char) : Nat :=
  digits.foldl (fun n c => n * base + hexValue c) 0

/-- The digits of a number after its hash, their base, and the rest of the text. -/
def readNumber (cs : List Char) : Option (Nat × List Char × List Char) :=
  let span (base : Nat) (isDigit : Char → Bool) (cs : List Char) :=
    let digits := cs.takeWhile isDigit
    if digits.isEmpty then none else some (base, digits, cs.dropWhile isDigit)
  match cs with
  | 'x' :: cs | 'X' :: cs => span 16 isHexDigit cs
  | cs => span 10 Char.isDigit cs

/-! ## In character data -/

/-- The rest of a text after a semicolon, if it starts with one. -/
def afterSemicolon : List Char → List Char
  | ';' :: cs => cs
  | cs => cs

/-- The name that a reference starts with, and the text after it. The character after the name must
be neither letter nor digit. Hyphens and dots belong to a name, but where the text ends with one that
would, the last of them ends the name instead. -/
def readName? (cs : List Char) : Option (List Char × List Char) :=
  let inName (c : Char) : Bool := c.isAlphanum || c == '-' || c == '.'
  let name := cs.takeWhile inName
  if !cs.head?.any Char.isAlpha then none
  else match cs.dropWhile inName with
    | [] =>
      let isMark (c : Char) : Bool := c == '-' || c == '.'
      let shorter := (name.reverse.dropWhile (!isMark ·)).tail.reverse
      if shorter.isEmpty then none else some (shorter, name.drop shorter.length)
    | rest => some (name, rest)

/-- What a reference stands for, given the text after its ampersand, and the rest of the text. There
is none where its name or its number does not end. -/
def readReference (cs : List Char) : Option (List Char × List Char) :=
  match cs with
  | '#' :: number =>
    match readNumber number with
    | some (base, digits, c :: rest) =>
      if isHexDigit c then none
      else some ([numberedChar (numberOf base digits)], afterSemicolon (c :: rest))
    | _ => none
  | cs => (readName? cs).map fun (name, rest) =>
    ((namedChars? name).getD ('&' :: name), afterSemicolon rest)

/-! ## In attribute values -/

/-- Whether a number is reserved for no character at all. -/
def isNoCharacter (n : Nat) : Bool :=
  Text.Ranges.contains [(0x1, 0x8), (0xB, 0xB), (0xE, 0x1F), (0x7F, 0x9F), (0xFDD0, 0xFDEF)]
    (Char.ofNat n) || (n % 0x10000 ≥ 0xFFFE && n ≤ 0x10FFFF)

/-- The characters that a number stands for in an attribute value. -/
def numberedValue (n : Nat) : List Char :=
  if n = 0 then ['\uFFFD']
  else if 0x80 ≤ n ∧ n ≤ 0x9F then [numberedChar n]
  else if !n.isValidChar then ['\uFFFD']
  else if isNoCharacter n then []
  else [Char.ofNat n]

/-- The longest legacy name among the prefixes of a text that are at least two and at most `n`
characters long, with the rest of the text. -/
def readLegacy (cs : List Char) : Nat → Option (List Char × List Char)
  | 0 | 1 => none
  | n + 1 =>
    if legacyReferences.contains (String.ofList (cs.take (n + 1))) then
      (namedChars? (cs.take (n + 1))).map fun chars => (chars, cs.drop (n + 1))
    else readLegacy cs n

/-- What the text after an ampersand stands for in an attribute value, with the rest of it. -/
def readValueReference (cs : List Char) : Option (List Char × List Char) :=
  match cs with
  | '#' :: number =>
    (readNumber number).map fun (base, digits, rest) =>
      (numberedValue (numberOf base digits), afterSemicolon rest)
  | cs =>
    let inName (c : Char) : Bool := !"\t\n\x0c <&#;".toList.contains c
    let name := (cs.takeWhile inName).take 32
    match cs.drop name.length, namedChars? name with
    | ';' :: rest, some chars => some (chars, rest)
    | _, _ => readLegacy cs name.length

/-- An attribute value with its references replaced. -/
def decodeValue : List Char → List Char
  | [] => []
  | c :: cs =>
    if c = '&' then
      match readValueReference cs with
      | some (chars, rest) => chars ++ decodeValue (cs.drop (cs.length - rest.length))
      | none => '&' :: decodeValue cs
    else c :: decodeValue cs
termination_by cs => cs.length

end MarkupQuery.Markup
