import MarkupQuery.Number.Binary64

/-!
# Written numbers

The text of a fractional number has the fewest digits that read back as the number, the nearest ones
if there is a choice: positional while the point stays near the digits, scientific otherwise. A
number may also be written with a given count of places, or of significant digits.
-/

namespace MarkupQuery.Binary64

/-! ## Digits -/

/-- Takes trailing zeros off a number and counts them. -/
def stripZeros (n : Nat) : Nat × Nat :=
  if h : n = 0 then (0, 0)
  else if n % 10 = 0 then
    let r := stripZeros (n / 10)
    (r.1, r.2 + 1)
  else (n, 0)
termination_by n
decreasing_by omega

/-- Both parts of a ratio such that their quotient is the given one divided by `10 ^ p`. -/
def decimalRatio (num den : Nat) (p : Int) : Nat × Nat :=
  if 0 ≤ p then (num, den * Nat.pow 10 p.toNat) else (num * Nat.pow 10 (-p).toNat, den)

/-- How many digits a positive ratio has before its point; negative for zeros after the point. -/
def pointOf (num den : Nat) : Int :=
  let d : Int := ((digitsOf num).length : Int) - (digitsOf den).length
  let (n, m) := decimalRatio num den d
  if m ≤ n then d + 1 else d

/-- The digits, with the power of ten behind them, nearest to a positive ratio among those of the
given count that read back as the number, if there are any. -/
def readingBack? (mantissa : Nat) (e : Int) (count : Nat) : Option (Nat × Int) :=
  let (num, den) := magnitude mantissa e
  let p := pointOf num den - count
  let (n, d) := decimalRatio num den p
  let below := n / d
  let readsBack (digits : Nat) : Bool := ofDecimal false digits p == .finite false mantissa e
  match readsBack below, readsBack (below + 1) with
  | true, true => some (roundedQuotient n d, p)
  | true, false => some (below, p)
  | false, true => some (below + 1, p)
  | false, false => none

/-- The fewest digits that read back as a positive number, with the power of ten behind them. -/
def shortest (mantissa : Nat) (e : Int) : Nat × Int :=
  ((List.range 17).findSome? fun i => readingBack? mantissa e (i + 1)).getD (0, 0)

/-! ## Layout -/

/-- An exponent with its sign and at least two digits. -/
def exponentText (e : Int) : List Char :=
  let ds := digitsOf e.natAbs
  (if e < 0 then '-' else '+') :: (if ds.length < 2 then '0' :: ds else ds)

/-- The digits `ds` with the decimal point after the first `point` of them. -/
def positional (ds : List Char) (point : Int) : List Char :=
  if point ≤ 0 then '0' :: '.' :: List.replicate point.natAbs '0' ++ ds
  else
    let n := point.toNat
    if ds.length ≤ n then ds ++ List.replicate (n - ds.length) '0' ++ ['.', '0']
    else ds.take n ++ '.' :: ds.drop n

/-- One digit, the point, the other digits, and the power of ten. -/
def scientific (ds : List Char) (exponent : Int) : List Char :=
  match ds with
  | [] => []
  | [d] => d :: 'e' :: exponentText exponent
  | d :: more => d :: '.' :: more ++ 'e' :: exponentText exponent

/-- The text of a positive number from its digits. The point stays positional from the fourth zero
after it up to the sixteenth digit before it. -/
def layout (digits : Nat) (power : Int) : List Char :=
  let (core, zeros) := stripZeros digits
  let ds := digitsOf core
  let point : Int := ds.length + zeros + power
  if -4 < point ∧ point ≤ 16 then positional ds point else scientific ds (point - 1)

/-- A minus sign where there is one. -/
def signText (negative : Bool) : List Char := if negative then ['-'] else []

/-- The text of a number. -/
def text (x : Binary64) : String :=
  match x with
  | .nan => "nan"
  | .infinite negative => String.ofList (signText negative ++ "inf".toList)
  | .finite negative m e =>
    let body := if m = 0 then "0.0".toList
      else
        let (digits, power) := shortest m e
        layout digits power
    String.ofList (signText negative ++ body)

/-! ## A given count of digits -/

/-- At least a given count of digits, filled up with zeros in front. -/
def paddedDigits (count n : Nat) : List Char :=
  let ds := digitsOf n
  List.replicate (count - ds.length) '0' ++ ds

/-- Digits with the point before the last `places` of them; without places there is a point only
if it is asked for. -/
def withPlaces (keepPoint : Bool) (places n : Nat) : List Char :=
  let ds := paddedDigits (places + 1) n
  let whole := ds.take (ds.length - places)
  if places = 0 then (if keepPoint then whole ++ ['.'] else whole)
  else whole ++ '.' :: ds.drop (ds.length - places)

/-- A magnitude with a given count of places. -/
def fixedPlaces (keepPoint : Bool) (places num den : Nat) : List Char :=
  withPlaces keepPoint places (roundedQuotient (num * Nat.pow 10 places) den)

/-- The digits of a magnitude rounded to a count of them, and the power of ten of the first. -/
def significantDigits (count num den : Nat) : Nat × Int :=
  if num = 0 then (0, 0)
  else
    let point := pointOf num den
    let (n, d) := decimalRatio num den (point - count)
    let digits := roundedQuotient n d
    if digits = Nat.pow 10 count then (Nat.pow 10 (count - 1), point) else (digits, point - 1)

/-- A magnitude with one digit before the point, a given count of places, and the power of ten. -/
def exponential (keepPoint : Bool) (places num den : Nat) : List Char :=
  let (digits, power) := significantDigits (places + 1) num den
  withPlaces keepPoint places digits ++ 'e' :: exponentText power

/-- Takes zeros off the end of a text with a point in it, and then the point. -/
def dropFinalZeros (cs : List Char) : List Char :=
  if cs.contains '.' then
    ((cs.reverse.dropWhile (· == '0')).dropWhile (· == '.')).reverse
  else cs

/-- A magnitude with a count of significant digits, positional while the point stays among them or
near them. Final zeros are kept only if that is asked for. -/
def general (keepZeros : Bool) (count num den : Nat) : List Char :=
  let count := max count 1
  let (digits, power) := significantDigits count num den
  let trim (cs : List Char) : List Char := if keepZeros then cs else dropFinalZeros cs
  if -4 ≤ power ∧ power < count then
    trim (fixedPlaces keepZeros ((count : Int) - 1 - power).toNat num den)
  else
    trim (withPlaces keepZeros (count - 1) digits) ++ 'e' :: exponentText power

/-- A ratio written with six decimal places. -/
def sixPlaces (num den : Nat) : String :=
  match ofRatio false num den with
  | .finite _ m e =>
    let (n, d) := magnitude m e
    String.ofList (fixedPlaces false 6 n d)
  | x => x.text

end MarkupQuery.Binary64
