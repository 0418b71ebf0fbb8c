import MarkupQuery.Text.LowerCase

/-!
# Letters without their case

Two letters are the same without their case when they have the same lower case, or when their lower
cases are variants that share one capital: the long and the round s, the dotted and the dotless i,
the two small sigmas and the like. Every letter is compared on its own; none becomes two.
-/

namespace MarkupQuery.Text

/-- Lower case letters that share a capital, group by group. -/
def sharedCapitals : List (List Nat) :=
  [[0x69, 0x131], [0x73, 0x17F], [0xB5, 0x3BC], [0x345, 0x3B9, 0x1FBE], [0x390, 0x1FD3],
   [0x3B0, 0x1FE3], [0x3B2, 0x3D0], [0x3B5, 0x3F5], [0x3B8, 0x3D1], [0x3BA, 0x3F0],
   [0x3C0, 0x3D6], [0x3C1, 0x3F1], [0x3C2, 0x3C3], [0x3C6, 0x3D5], [0x432, 0x1C80],
   [0x434, 0x1C81], [0x43E, 0x1C82], [0x441, 0x1C83], [0x442, 0x1C84, 0x1C85], [0x44A, 0x1C86],
   [0x463, 0x1C87], [0x1C88, 0xA64B], [0x1E61, 0x1E9B], [0xFB05, 0xFB06]]

/-- The lower case of a single letter; that of the capital I with a dot is the plain small i. -/
def lowerLetter (c : Char) : Char := if c = 'İ' then 'i' else lowerChar c

/-- Whether two letters are the same without their case. -/
def sameLetter (a b : Char) : Bool :=
  let a := lowerLetter a
  let b := lowerLetter b
  a == b || sharedCapitals.any fun group => group.contains a.toNat && group.contains b.toNat

/-- Whether two texts are the same letter by letter, without their case. -/
def sameLetters : List Char → List Char → Bool
  | [], [] => true
  | a :: as, b :: bs => sameLetter a b && sameLetters as bs
  | _, _ => false

/-- The rest of a text after a beginning, in any case. -/
def afterLetters : List Char → List Char → Option (List Char)
  | [], cs => some cs
  | _ :: _, [] => none
  | w :: ws, c :: cs => if sameLetter w c then afterLetters ws cs else none

theorem sameLetter_self (a : Char) : sameLetter a a = true := by simp [sameLetter]

end MarkupQuery.Text
