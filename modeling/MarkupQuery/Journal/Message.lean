import MarkupQuery.Number.Notation
import MarkupQuery.Value

/-!
# Messages with arguments

The text of a message may have slots for arguments. A slot begins with a percent sign and ends with a
letter that says how its argument is written: `s` bare, `r` printed, `a` printed in ASCII, `c` as a
character, `d` (or `i`, `u`), `o` and `x` as a whole number, `e`, `f` and `g` as a fractional one; a
capital letter writes capitals. In between may stand flags, a width and a precision; a star takes
either from the arguments. Two percent signs are one.

Arguments fill the slots in turn, and all of them must be used up; a single record that is not empty
lends its fields instead to slots that name them in parentheses. There is no message when slots and
arguments do not match.
-/

namespace MarkupQuery.Message

/-- What stands between the percent sign and the letter of a slot. -/
structure Layout where
  leftAligned : Bool := false
  signed : Bool := false
  spaced : Bool := false
  alternate : Bool := false
  zeroFilled : Bool := false
  width : Nat := 0
  precision : Option Nat := none

/-- The arguments that are still to be used. -/
inductive Arguments where
  | inTurn (values : List Value)
  /-- Fields for slots that name them, and the one value that a slot without a name may take. -/
  | byName (fields : List (Value × Value)) (waiting : Option Value)

namespace Arguments

/-- The next argument, and those after it. -/
def next? : Arguments → Option (Value × Arguments)
  | .inTurn (v :: vs) => some (v, .inTurn vs)
  | .inTurn [] => none
  | .byName fields (some v) => some (v, .byName fields none)
  | .byName _ none => none

/-- The arguments with the field of a name waiting. -/
def choose? (name : String) : Arguments → Option Arguments
  | .inTurn _ => none
  | .byName fields _ => (Mapping.find? fields (.text name)).map fun v => .byName fields (some v)

/-- Whether nothing is left that should have been used. -/
def areUsedUp : Arguments → Bool
  | .inTurn vs => vs.isEmpty
  | .byName _ _ => true

/-- A list of arguments, of which a single record may lend its fields. -/
def ofList : List Value → Arguments
  | [.record (f :: fs)] => .byName (f :: fs) (some (.record (f :: fs)))
  | vs => .inTurn vs

end Arguments

/-! ## Written arguments -/

/-- A written number: its sign, what stands between sign and digits, and the digits. -/
structure Figure where
  negative : Bool
  mark : List Char
  body : List Char

/-- The whole part of a number. -/
def wholePart? : Value → Option Int
  | .truth b => some (if b then 1 else 0)
  | .whole i => some i
  | .fraction x => x.wholePart?
  | _ => none

/-- A number that is whole by type. -/
def whole? : Value → Option Int
  | .truth b => some (if b then 1 else 0)
  | .whole i => some i
  | _ => none

/-- A number as a fractional one, if it is not too great for that. -/
def fraction? : Value → Option Binary64
  | .fraction x => some x
  | v => (whole? v).bind fun i => match Binary64.ofInt i with
    | .infinite _ => none
    | x => some x

/-- A whole number in a base, with at least as many digits as the precision asks for. -/
def wholeFigure (layout : Layout) (base : Nat) (mark : List Char) (i : Int) : Figure :=
  let digits := Nat.toDigits base i.natAbs
  let zeros := List.replicate ((layout.precision.getD 0) - digits.length) '0'
  ⟨i < 0, if layout.alternate then mark else [], zeros ++ digits⟩

/-- A fractional number in the notation of a letter. -/
def fractionFigure (layout : Layout) (letter : Char) (x : Binary64) : Figure :=
  let places := layout.precision.getD 6
  match x with
  | .nan => ⟨false, [], "nan".toList⟩
  | .infinite negative => ⟨negative, [], "inf".toList⟩
  | .finite negative m e =>
    let (num, den) := Binary64.magnitude m e
    ⟨negative, [], match letter with
      | 'e' => Binary64.exponential layout.alternate places num den
      | 'f' => Binary64.fixedPlaces layout.alternate places num den
      | _ => Binary64.general layout.alternate places num den⟩

/-- A number in its width. Zeros that fill it stand behind the sign, spaces in front of it. -/
def Figure.text (f : Figure) (layout : Layout) : List Char :=
  let sign := if f.negative then ['-'] else if layout.signed then ['+'] else if layout.spaced then [' '] else []
  let missing := layout.width - (sign.length + f.mark.length + f.body.length)
  if layout.leftAligned then sign ++ f.mark ++ f.body ++ List.replicate missing ' '
  else if layout.zeroFilled then sign ++ f.mark ++ List.replicate missing '0' ++ f.body
  else List.replicate missing ' ' ++ sign ++ f.mark ++ f.body

/-- A text in its width. -/
def inWidth (layout : Layout) (s : List Char) : List Char :=
  let missing := List.replicate (layout.width - s.length) ' '
  if layout.leftAligned then s ++ missing else missing ++ s

/-- A text of which no more counts than the precision allows, in its width. -/
def cutToLayout (layout : Layout) (s : List Char) : List Char :=
  inWidth layout (match layout.precision with
    | some n => s.take n
    | none => s)

/-- The character that an argument is or numbers. -/
def character? : Value → Option Char
  | .text s => match s.toList with
    | [c] => some c
    | _ => none
  | v => (whole? v).bind fun i =>
    if 0 ≤ i ∧ i.toNat.isValidChar then some (Char.ofNat i.toNat) else none

/-- A text in ASCII, in which every other character is escaped. -/
def inAscii (s : List Char) : List Char :=
  s.flatMap fun c => if c.toNat < 0x80 then [c] else Text.escapedByNumber c

/-- What the slot of a letter makes of its argument. -/
def fillSlot (layout : Layout) (letter : Char) (v : Value) : Option (List Char) :=
  let small := letter.toLower
  let cased (f : Figure) : Figure :=
    if letter.isUpper then { f with mark := f.mark.map Char.toUpper, body := f.body.map Char.toUpper } else f
  match letter with
  | 's' => some (cutToLayout layout v.bare.toList)
  | 'r' => some (cutToLayout layout v.printed.toList)
  | 'a' => some (cutToLayout layout (inAscii v.printed.toList))
  | 'c' => (character? v).map fun c => inWidth layout [c]
  | 'd' | 'i' | 'u' => (wholePart? v).map fun i => (wholeFigure layout 10 [] i).text layout
  | 'o' => (whole? v).map fun i => (wholeFigure layout 8 ['0', 'o'] i).text layout
  | 'x' | 'X' => (whole? v).map fun i => (cased (wholeFigure layout 16 ['0', 'x'] i)).text layout
  | 'e' | 'f' | 'g' | 'E' | 'F' | 'G' =>
    (fraction? v).map fun x => (cased (fractionFigure layout small x)).text layout
  | _ => none

/-! ## Reading slots -/

/-- The name in parentheses that may stand in front of a slot, which may have parentheses inside. The
first argument counts the open ones. -/
def readName : Nat → List Char → Option (List Char × List Char)
  | _, [] => none
  | depth, c :: cs =>
    if c = ')' ∧ depth = 0 then some ([], cs)
    else
      let depth := if c = ')' then depth - 1 else if c = '(' then depth + 1 else depth
      (readName depth cs).map fun (name, rest) => (c :: name, rest)

/-- The flags of a slot. -/
def readFlags (layout : Layout) : List Char → Layout × List Char
  | '-' :: cs => readFlags { layout with leftAligned := true } cs
  | '+' :: cs => readFlags { layout with signed := true } cs
  | ' ' :: cs => readFlags { layout with spaced := true } cs
  | '#' :: cs => readFlags { layout with alternate := true } cs
  | '0' :: cs => readFlags { layout with zeroFilled := true } cs
  | cs => (layout, cs)

/-- The greatest width or precision that is worked out. -/
def greatestSize : Nat := 0x7FFFFFFF

/-- A width or a precision: digits, or a star for the next argument, which must be whole. -/
def readSize (args : Arguments) (cs : List Char) : Option (Int × Arguments × List Char) := do
  let (n, args, rest) ← match cs with
    | '*' :: rest => do
      let (v, args) ← args.next?
      some (← match v with
        | .truth _ | .whole _ => wholePart? v
        | _ => none, args, rest)
    | cs =>
      let digits := cs.takeWhile Char.isDigit
      some (digits.foldl (fun n c => n * 10 + ((c.toNat : Int) - 0x30)) 0, args, cs.drop digits.length)
  if n.natAbs > greatestSize then none else some (n, args, rest)

/-- A precision after a point, if there is one. -/
def readPrecision (args : Arguments) (cs : List Char) :
    Option (Option Nat × Arguments × List Char) :=
  match cs with
  | '.' :: cs => (readSize args cs).map fun (n, args, rest) => (some n.toNat, args, rest)
  | cs => some (none, args, cs)

/-- A letter for the size of a number, which counts for nothing. -/
def skipSizeLetter : List Char → List Char
  | 'h' :: cs | 'l' :: cs | 'L' :: cs => cs
  | cs => cs

/-- A slot after its percent sign: what it is filled with, the arguments that are left, and the rest of
the text. -/
def readSlot (args : Arguments) (cs : List Char) : Option (List Char × Arguments × List Char) := do
  let (args, cs) ← match cs with
    | '(' :: cs => do
      let (name, rest) ← readName 0 cs
      some (← args.choose? (String.ofList name), rest)
    | cs => some (args, cs)
  let (layout, cs) := readFlags {} cs
  let (width, args, cs) ← readSize args cs
  let (precision, args, cs) ← readPrecision args cs
  let layout := { layout with
    width := width.natAbs, leftAligned := layout.leftAligned || width < 0, precision }
  match skipSizeLetter cs with
  | [] => none
  | letter :: rest => do
    let (v, args) ← args.next?
    some (← fillSlot layout letter v, args, rest)

/-- The message with its slots filled. The number bounds the slots. -/
def fillFrom : Nat → Arguments → List Char → Option (List Char)
  | 0, _, _ => none
  | n + 1, args, cs =>
    let before := cs.takeWhile (· != '%')
    match cs.dropWhile (· != '%') with
    | [] => if args.areUsedUp then some before else none
    | _ :: '%' :: rest => do some (before ++ '%' :: (← fillFrom n args rest))
    | _ :: slot => do
      let (filled, args, rest) ← readSlot args slot
      some (before ++ filled ++ (← fillFrom n args rest))

/-- The message for a list of arguments. Without any, the text is the message. -/
def fill? (text : String) (args : List Value) : Option String :=
  if args.isEmpty then some text
  else (fillFrom (text.length + 1) (.ofList args) text.toList).map String.ofList

end MarkupQuery.Message
