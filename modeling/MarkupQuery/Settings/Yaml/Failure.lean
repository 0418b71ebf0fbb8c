import MarkupQuery.Text.Quoted

/-!
# Why a text is no document

A text that does not follow the grammar, or that names what was never defined, is malformed. Other
failures lie with single scalars: characters, numbers and dates that there are not.
-/

namespace MarkupQuery.Yaml

/-- The parts of a date and a time. -/
inductive DatePart where
  | year (n : Nat)
  | month
  | day
  | hour
  | minute
  | second
  deriving DecidableEq, Repr

/-- The most digits that a decimal number may have. -/
def mostDigits : Nat := 4300

inductive Failure where
  | malformed
  /-- An escape with a number beyond all characters. -/
  | noCharacter
  /-- An escape with a number beyond 31 bits. -/
  | hugeCharacter
  /-- A part of a date that is out of its range. -/
  | badDate (part : DatePart)
  /-- A distance to universal time of a day or more, in seconds. -/
  | badOffset (seconds : Int)
  /-- A decimal number of more digits than are read. -/
  | tooManyDigits (count : Nat)
  /-- A text that is no whole number in a base. -/
  | notWhole (base : Nat) (text : String)
  /-- A text that is no fractional number. -/
  | notFraction (text : String)
  /-- A number without any character. -/
  | emptyNumber
  /-- A word that is none for a truth value. -/
  | notTruth (word : String)
  /-- A text that is no date. -/
  | notDate
  deriving DecidableEq, Repr

namespace Failure

/-- The name under which a failure is reported. -/
def className : Failure → String
  | .malformed => "YAMLError"
  | .hugeCharacter => "OverflowError"
  | .emptyNumber => "IndexError"
  | .notTruth _ => "KeyError"
  | .notDate => "AttributeError"
  | _ => "ValueError"

/-- A span of seconds, by whole days and what is left. -/
def spanText (seconds : Int) : String :=
  let days := seconds / 86400
  let left := seconds % 86400
  let part (name : String) (n : Int) : List String := if n = 0 then [] else [name ++ "=" ++ toString n]
  "datetime.timedelta(" ++ String.intercalate ", " (part "days" days ++ part "seconds" left) ++ ")"

def DatePart.message : DatePart → String
  | .year n => "year " ++ toString n ++ " is out of range"
  | .month => "month must be in 1..12"
  | .day => "day is out of range for month"
  | .hour => "hour must be in 0..23"
  | .minute => "minute must be in 0..59"
  | .second => "second must be in 0..59"

/-- The wording of the failures that have one. -/
def message? : Failure → Option String
  | .malformed | .notDate => none
  | .noCharacter => some "chr() arg not in range(0x110000)"
  | .hugeCharacter => some "Python int too large to convert to C int"
  | .badDate part => some (DatePart.message part)
  | .badOffset seconds => some
    ("offset must be a timedelta strictly between -timedelta(hours=24) and timedelta(hours=24), not " ++
      spanText seconds ++ ".")
  | .tooManyDigits count => some
    ("Exceeds the limit (" ++ toString mostDigits ++ " digits) for integer string conversion: value has " ++
      toString count ++ " digits; use sys.set_int_max_str_digits() to increase the limit")
  | .notWhole base text => some
    ("invalid literal for int() with base " ++ toString base ++ ": " ++ Text.quoted text)
  | .notFraction text => some ("could not convert string to float: " ++ Text.quoted text)
  | .emptyNumber => some "string index out of range"
  | .notTruth word => some (Text.quoted word)

end Failure
end MarkupQuery.Yaml
