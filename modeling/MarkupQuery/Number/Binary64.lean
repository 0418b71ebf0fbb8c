/-!
# Binary fractional numbers

A fractional number is a sign, a mantissa below `2 ^ 53` and a power of two, or it is infinite, or no
number at all. Numbers are made from exact ratios by rounding to the nearest one, a half to the
even mantissa. All arithmetic here is on whole numbers.
-/

namespace MarkupQuery

/-- A number `mantissa * 2 ^ exponent` with its sign, zero included. The mantissa has all its 53 bits,
unless the exponent is the least one. -/
inductive Binary64 where
  | finite (negative : Bool) (mantissa : Nat) (exponent : Int)
  | infinite (negative : Bool)
  | nan
  deriving DecidableEq, Repr, Inhabited

namespace Binary64

/-- The quotient rounded to the nearest whole number, a half to the even one. -/
def roundedQuotient (num den : Nat) : Nat :=
  let q := num / den
  let twice := 2 * (num % den)
  if twice < den then q
  else if den < twice then q + 1
  else q + q % 2

/-- The least exponent of a number. -/
def leastExponent : Int := -1074

/-- The greatest exponent of a number that is not infinite. -/
def greatestExponent : Int := 971

def zero (negative : Bool) : Binary64 := .finite negative 0 leastExponent

/-- Both parts of a ratio such that their quotient is the given one divided by `2 ^ e`. -/
def scaledRatio (num den : Nat) (e : Int) : Nat × Nat :=
  if 0 ≤ e then (num, den * Nat.pow 2 e.toNat) else (num * Nat.pow 2 (-e).toNat, den)

/-- The exponent with which a ratio has a mantissa of 53 bits, or the least one. -/
def exponentOf (num den : Nat) : Int :=
  let e : Int := (num.log2 : Int) - den.log2 - 52
  let (n, d) := scaledRatio num den e
  max leastExponent (if n < d * Nat.pow 2 52 then e - 1 else e)

/-- A number from a mantissa that may have been rounded up to 54 bits. -/
def normalised (negative : Bool) (mantissa : Nat) (e : Int) : Binary64 :=
  let (mantissa, e) := if mantissa = Nat.pow 2 53 then (Nat.pow 2 52, e + 1) else (mantissa, e)
  if greatestExponent < e then .infinite negative else .finite negative mantissa e

/-- The number nearest to a ratio. -/
def ofRatio (negative : Bool) (num den : Nat) : Binary64 :=
  if num = 0 then zero negative
  else
    let e := exponentOf num den
    let (n, d) := scaledRatio num den e
    normalised negative (roundedQuotient n d) e

/-- The decimal digits of a whole number, leading first. -/
def digitsOf (n : Nat) : List Char := (toString n).toList

/-- The number nearest to `digits * 10 ^ power`. Powers far out of range are not worked out. -/
def ofDecimal (negative : Bool) (digits : Nat) (power : Int) : Binary64 :=
  let size := power + (digitsOf digits).length
  if digits = 0 ∨ size < -400 then zero negative
  else if 400 < size then .infinite negative
  else if 0 ≤ power then ofRatio negative (digits * Nat.pow 10 power.toNat) 1
  else ofRatio negative digits (Nat.pow 10 (-power).toNat)

/-- The number nearest to a whole number. -/
def ofInt (i : Int) : Binary64 := ofRatio (i < 0) i.natAbs 1

/-! ## What a number amounts to -/

/-- The magnitude of a number as an exact ratio. -/
def magnitude (mantissa : Nat) (e : Int) : Nat × Nat :=
  if 0 ≤ e then (mantissa * Nat.pow 2 e.toNat, 1) else (mantissa, Nat.pow 2 (-e).toNat)

/-- A finite number as an exact ratio. -/
def ratio? : Binary64 → Option (Int × Nat)
  | .finite negative m e =>
    let (n, d) := magnitude m e
    some (if negative then -(n : Int) else n, d)
  | _ => none

def isZero : Binary64 → Bool
  | .finite _ m _ => m == 0
  | _ => false

/-- The whole part of a finite number. -/
def wholePart? (x : Binary64) : Option Int := x.ratio?.map fun (n, d) => n.tdiv d

/-- A finite number that is whole, as such. -/
def whole? (x : Binary64) : Option Int :=
  x.ratio?.bind fun (n, d) => if n % d = 0 then some (n / d) else none

/-- The sum of two ratios of which neither denominator is zero. -/
def addRatios (a b : Int × Nat) : Int × Nat := (a.1 * b.2 + b.1 * a.2, a.2 * b.2)

/-- The number nearest to a signed ratio. -/
def ofSignedRatio (r : Int × Nat) : Binary64 := ofRatio (r.1 < 0) r.1.natAbs r.2

/-- The sum of two numbers, rounded. -/
def add (x y : Binary64) : Binary64 :=
  match x.ratio?, y.ratio? with
  | some a, some b => ofSignedRatio (addRatios a b)
  | none, _ => x
  | _, none => y

/-- A number times a whole number, rounded. -/
def scale (x : Binary64) (k : Nat) : Binary64 :=
  match x.ratio? with
  | some a => ofSignedRatio (a.1 * k, a.2)
  | none => x

end Binary64
end MarkupQuery
