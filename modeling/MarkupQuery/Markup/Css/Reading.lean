import MarkupQuery.Failure
import MarkupQuery.Markup.Css.Basic
import MarkupQuery.Markup.Css.Word
import MarkupQuery.Text.LetterCase

/-!
# Reading selectors

A text of selectors is read piece by piece: conditions, combinators, and the parentheses of pseudo
classes that take selectors themselves. A type may only come first in its compound. The pieces are
tried in a fixed order, and a piece never takes in more than it needs: two spaces before a bracket
are a descendant combinator, with a second combinator after it, and so an error.
-/

namespace MarkupQuery.Markup.Css

/-- What may come next in a text of selectors. -/
inductive Piece where
  | condition (c : Condition)
  | type (c : Condition)
  /-- A combinator, or a comma. -/
  | combinator (how : Option Combinator)
  | close
  /-- The opening of a pseudo class that takes selectors: whether they must fail to match, and whether
  there may be none. -/
  | opening (negated forgiving : Bool)

/-! ## Pseudo classes -/

/-- A whole number in front of a text: its value, if digits stand there. -/
def readDigits (cs : List Char) : Option (Nat × List Char) :=
  let digits := cs.takeWhile Char.isDigit
  if digits.isEmpty then none else some (numberOf 10 digits, cs.dropWhile Char.isDigit)

/-- A sign in front of a text, as a factor. -/
def readSign : List Char → Option (Int × List Char)
  | '+' :: cs => some (1, cs)
  | '-' :: cs => some (-1, cs)
  | _ => none

/-- The step and the start of a progression: `even`, `odd`, a number, or a multiple of `n` with or
without a number added to it. -/
def readProgression (cs : List Char) : Option ((Int × Int) × List Char) :=
  let (sign, unsigned) := (readSign cs).getD (1, cs)
  let digits? := readDigits unsigned
  let afterDigits := (digits?.map Prod.snd).getD unsigned
  let multiple (n : Nat) (rest : List Char) : Option ((Int × Int) × List Char) :=
    let added := do
      let (sign, rest) ← readSign (skipBlanks rest)
      let (k, rest) ← readDigits (skipBlanks rest)
      some (sign * k, rest)
    let (start, rest) := added.getD (0, rest)
    some ((sign * n, start), rest)
  match afterDigits, digits? with
  | 'n' :: rest, digits? | 'N' :: rest, digits? => multiple ((digits?.map Prod.fst).getD 1) rest
  | rest, some (k, _) => some ((0, sign * k), rest)
  | _, none =>
    match Text.afterLetters "even".toList cs with
    | some rest => some ((2, 0), rest)
    | none => (Text.afterLetters "odd".toList cs).map fun rest => ((2, 1), rest)

/-- The conditions that a pseudo class without parentheses stands for. -/
def simplePseudo? (name : String) : Option (List Condition) :=
  let at' (fromEnd sameType : Bool) : Condition := .position ⟨0, 1, fromEnd, sameType⟩
  match name with
  | "first-child" => some [at' false false]
  | "last-child" => some [at' true false]
  | "only-child" => some [at' false false, at' true false]
  | "first-of-type" => some [at' false true]
  | "last-of-type" => some [at' true true]
  | "only-of-type" => some [at' false true, at' true true]
  | "root" => some [.root]
  | "scope" => some [.scope]
  | "empty" => some [.empty]
  | name => if unmatchable.contains name then some [.never] else none
where
  /-- Pseudo classes about what a reader does with a document; they never hold in a parse tree. -/
  unmatchable : List String :=
    ["active", "autofill", "current", "focus", "focus-visible", "focus-within", "fullscreen", "future",
     "host", "hover", "local-link", "past", "paused", "picture-in-picture", "playing", "popover-open",
     "seeking", "stalled", "target", "target-within", "user-invalid", "visited", "volume-locked"]

/-- Which siblings a pseudo class with a progression counts: from the end or not, and those of the
same type or all. -/
def countingPseudo? (name : String) : Option (Bool × Bool) :=
  match name with
  | "nth-child" => some (false, false)
  | "nth-last-child" => some (true, false)
  | "nth-of-type" => some (false, true)
  | "nth-last-of-type" => some (true, true)
  | _ => none

/-- How a pseudo class that takes selectors treats them. -/
def selectingPseudo? (name : String) : Option Piece :=
  match name with
  | "not" => some (.opening true false)
  | "is" | "where" => some (.opening false true)
  | "matches" => some (.opening false false)
  | _ => none

/-- A pseudo class, given the text after its colon. -/
def readPseudo (cs : List Char) : Option (Piece × List Char) := do
  let (name, rest) ← readName cs
  let name := String.ofList (lowerName name)
  match rest with
  | '(' :: inside =>
    let inside := skipBlanks inside
    match countingPseudo? name with
    | some (fromEnd, sameType) =>
      let ((step, start), rest) ← readProgression inside
      match skipBlanks rest with
      | ')' :: rest => some (.condition (.position ⟨step, start, fromEnd, sameType⟩), rest)
      | _ => none
    | none => (selectingPseudo? name).map fun piece => (piece, inside)
  | rest => (simplePseudo? name).map fun cs => (.condition (.oneOf [.compound cs]), rest)
where
  lowerName (name : List Char) : List Char := name.map Char.toLower

/-! ## Conditions -/

/-- A type, perhaps in a name space. -/
def readType (cs : List Char) : Option (Condition × List Char) :=
  let star (cs : List Char) : Option (List Char × List Char) :=
    match cs with
    | '*' :: rest => some (['*'], rest)
    | cs => readName cs
  let (space, afterSpace) := (star cs).getD ([], cs)
  let spaced := match afterSpace with
    | '|' :: rest => (star rest).map fun (name, rest) => (Condition.type (some space) name, rest)
    | _ => none
  spaced <|> (star cs).map fun (name, rest) => (.type none name, rest)

/-- The name of an attribute. Its name space counts for nothing. -/
def readAttributeName (cs : List Char) : Option (List Char × List Char) :=
  let (_, afterSpace) := match cs with
    | '*' :: rest => (['*'], rest)
    | cs => (readName cs).getD ([], cs)
  let spaced := match afterSpace with
    | '|' :: rest => readName rest
    | _ => none
  spaced <|> readName cs

/-- The operators that compare an attribute value, with the wish to negate the comparison. -/
def readOperator : List Char → Option ((Comparison × Bool) × List Char)
  | '=' :: cs => some ((.equals, false), cs)
  | '!' :: '=' :: cs => some ((.equals, true), cs)
  | '~' :: '=' :: cs => some ((.hasWord, false), cs)
  | '^' :: '=' :: cs => some ((.startsWith, false), cs)
  | '|' :: '=' :: cs => some ((.hasDashedStart, false), cs)
  | '*' :: '=' :: cs => some ((.contains, false), cs)
  | '$' :: '=' :: cs => some ((.endsWith, false), cs)
  | _ => none

/-- The letter after a value that says whether case counts: `i` or `s`. -/
def readCaseFlag (cs : List Char) : Option Char × List Char :=
  match skipBlanks cs with
  | c :: rest =>
    if Text.sameLetter 'i' c || Text.sameLetter 's' c then (some c, rest) else (none, cs)
  | [] => (none, cs)

/-- A condition on an attribute, given the text after its bracket. In the values of the attribute
`type` case does not count, unless a letter says that it does. -/
def readAttribute (cs : List Char) : Option (Condition × List Char) := do
  let (name, rest) ← readAttributeName (skipBlanks cs)
  let compared := do
    let ((comparison, negated), rest) ← readOperator (skipBlanks rest)
    let (value, rest) ← readValue (skipBlanks rest)
    let (flag, rest) := readCaseFlag rest
    let ignoresCase := match flag with
      | some c => c == 'i' || c == 'I'
      | none => name.map Char.toLower == "type".toList
    let test := Condition.attribute ⟨name, some (comparison, value), ignoresCase⟩
    match skipBlanks rest with
    | ']' :: rest => some (if negated then .noneOf [.compound [test]] else test, rest)
    | _ => none
  compared <|> match skipBlanks rest with
    | ']' :: rest => some (.attribute ⟨name, none, false⟩, rest)
    | _ => none

/-! ## Combinators -/

/-- The combinator that a mark stands for; a comma stands for none. -/
def ofMark? (c : Char) : Option (Option Combinator) :=
  match c with
  | ',' => some none
  | '>' => some (some .child)
  | '+' => some (some .nextSibling)
  | '~' => some (some .laterSibling)
  | _ => none

/-- A combinator, after as few blanks as need be. A space is one unless a mark follows it. The number
bounds the blanks. -/
def readCombinator : Nat → List Char → Option (Option Combinator × List Char)
  | 0, _ => none
  | n + 1, cs =>
    let marked (cs : List Char) : Option (Option Combinator) := cs.head?.bind ofMark?
    match marked cs, afterSpace cs with
    | some how, _ => some (how, skipBlanks (cs.drop 1))
    | none, some rest =>
      if (marked rest).isNone then some (some .descendant, skipBlanks rest)
      else readCombinator n rest
    | none, none => (afterComment cs).bind (readCombinator n)

/-! ## Pieces -/

/-- The next piece of a text, given how long the whole text is. -/
def readPiece (total : Nat) (cs : List Char) : Except Failure (Piece × List Char) :=
  let orFail (found : Option (Piece × List Char)) : Except Failure (Piece × List Char) :=
    match found with
    | some found => .ok found
    | none => .error .malformedStyleSelector
  let condition : Condition × List Char → Piece × List Char := fun (c, rest) => (.condition c, rest)
  let unsupported (part : String) : Except Failure (Piece × List Char) :=
    .error (.unsupportedStyle part (total - cs.length))
  match skipBlanks cs with
  | ')' :: rest => .ok (.close, rest)
  | _ => match cs with
    | ':' :: ':' :: more =>
      if (readName more).isSome then unsupported "Pseudo-element" else orFail none
    | ':' :: more => orFail (readPseudo more)
    | '&' :: rest => .ok (.condition .scope, rest)
    | '@' :: c :: more =>
      if c.toLower = 'p' ∧ (readName more).isSome then unsupported "At-rules" else orFail none
    | '#' :: more => orFail ((readName more).map fun (id, rest) => (.condition (.idIs id), rest))
    | '.' :: more => orFail ((readName more).map fun (name, rest) => (.condition (.inClass name), rest))
    | '[' :: more => orFail ((readAttribute more).map condition)
    | cs => match readType cs with
      | some (type, rest) => .ok (.type type, rest)
      | none => orFail ((readCombinator (cs.length + 1) cs).map fun (how, rest) =>
        (.combinator how, rest))

/-! ## Selectors -/

/-- Selectors as far as they have been read. -/
structure Draft where
  /-- Finished selectors, last first. -/
  finished : List Complex := []
  /-- What stands before the open compound, and how that is related to it. -/
  before : Option (Complex × Combinator) := none
  /-- The conditions of the open compound, and whether there are any, be it a star. -/
  compound : List Condition := []
  begun : Bool := false

namespace Draft

/-- Takes a condition into the open compound. -/
def add (d : Draft) (c : Condition) : Draft :=
  { d with compound := d.compound ++ [c], begun := true }

/-- The selector that ends with the open compound. -/
def current (d : Draft) : Complex :=
  match d.before with
  | none => .compound d.compound
  | some (before, how) => .related before how d.compound

/-- Takes a combinator or a comma in. Where empty selectors are forgiven, they match nothing. -/
def combine (d : Draft) (forgiving : Bool) (how : Option Combinator) : Except Failure Draft :=
  match how, d.begun with
  | none, true => .ok { finished := d.current :: d.finished }
  | some how, true => .ok { finished := d.finished, before := some (d.current, how) }
  | none, false =>
    if forgiving then .ok { finished := .compound [.never] :: d.finished }
    else .error .malformedStyleSelector
  | some _, false => .error .malformedStyleSelector

/-- All selectors, in order. -/
def finish (d : Draft) (forgiving : Bool) : Except Failure (List Complex) :=
  if d.begun then .ok (d.current :: d.finished).reverse
  else if forgiving && (d.finished.isEmpty || d.before.isNone) then
    .ok (.compound [.never] :: d.finished).reverse
  else .error .malformedStyleSelector

end Draft

/-- Reads selectors up to the end of a text, of which the last `tail` characters do not count, or up
to a closing parenthesis if they stand in one. The number bounds the pieces. -/
def readSelectors (total tail : Nat) : Nat → (nested forgiving : Bool) → Draft → List Char →
    Except Failure (List Complex × List Char)
  | 0, _, _, _, _ => .error .malformedStyleSelector
  | n + 1, nested, forgiving, d, cs =>
    if cs.length ≤ tail then
      if nested then .error .malformedStyleSelector
      else return (← d.finish forgiving, [])
    else do
      match ← readPiece total cs with
      | (.condition c, rest) => readSelectors total tail n nested forgiving (d.add c) rest
      | (.type c, rest) =>
        if d.begun then throw .malformedStyleSelector
        else readSelectors total tail n nested forgiving (d.add c) rest
      | (.combinator how, rest) =>
        readSelectors total tail n nested forgiving (← d.combine forgiving how) rest
      | (.close, rest) =>
        if !nested || (!d.begun && !forgiving) then throw .malformedStyleSelector
        else return (← d.finish forgiving, rest)
      | (.opening negated inner, rest) =>
        let (alternatives, rest) ← readSelectors total tail n true inner {} rest
        let c := if negated then Condition.noneOf alternatives else .oneOf alternatives
        readSelectors total tail n nested forgiving (d.add c) rest

/-- Reads a list of selectors. Blanks at either end do not count. -/
def read (css : String) : Except Failure (List Complex) := do
  let cs := css.toList.map fun c => if c = '\x00' then '\uFFFD' else c
  let (selectors, _) ← readSelectors cs.length (blankTail cs) (cs.length + 1) false false {} (skipBlanks cs)
  pure selectors

end MarkupQuery.Markup.Css
