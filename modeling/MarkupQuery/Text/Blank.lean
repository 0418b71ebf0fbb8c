import MarkupQuery.Text.Ranges

/-!
# Blanks and words

A blank is any character with the Unicode white space property, or one of the four information
separators. A text is cut into words at its runs of blanks; blanks at either end make no word.
-/

namespace MarkupQuery.Text

/-- The blanks, as ascending code point ranges. -/
def blankRanges : Ranges :=
  [(0x9, 0xD), (0x1C, 0x20), (0x85, 0x85), (0xA0, 0xA0), (0x1680, 0x1680), (0x2000, 0x200A),
   (0x2028, 0x2029), (0x202F, 0x202F), (0x205F, 0x205F), (0x3000, 0x3000)]

/-- Whether a character separates words. -/
def isBlank (c : Char) : Bool := blankRanges.contains c

/-- The maximal runs of characters that are not blanks, in order. -/
def wordsOf : List Char → List (List Char)
  | [] => []
  | c :: cs =>
    if isBlank c then wordsOf cs
    else match cs with
      | [] => [[c]]
      | d :: _ =>
        if isBlank d then [c] :: wordsOf cs
        else match wordsOf cs with
          | [] => [[c]]
          | w :: ws => (c :: w) :: ws

/-- The words of a text, in order. -/
def words (s : String) : List String := (wordsOf s.toList).map String.ofList

end MarkupQuery.Text
