/-!
# Lines

A text falls into lines at every character that ends a line. A carriage return and the line feed
behind it are one end. Where nothing stands behind the last end, there is no further line.
-/

namespace MarkupQuery.Text

/-- Whether a character ends a line. -/
def endsLine (c : Char) : Bool :=
  (0xA ≤ c.toNat && c.toNat ≤ 0xD) || (0x1C ≤ c.toNat && c.toNat ≤ 0x1E) || c.toNat = 0x85 ||
    c.toNat = 0x2028 || c.toNat = 0x2029

/-- The lines of a text of which the current line has been read so far, in reverse. -/
def linesFrom (read : List Char) : List Char → List String
  | [] => if read.isEmpty then [] else [String.ofList read.reverse]
  | '\r' :: '\n' :: cs => String.ofList read.reverse :: linesFrom [] cs
  | c :: cs =>
    if endsLine c then String.ofList read.reverse :: linesFrom [] cs
    else linesFrom (c :: read) cs

/-- The lines of a text. -/
def lines (s : String) : List String := linesFrom [] s.toList

end MarkupQuery.Text
