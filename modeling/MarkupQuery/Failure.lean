import MarkupQuery.Value

/-!
# Failures

A failure is a cause: what was wrong, with the data that its message mentions. The wording is in
`Failure.message`, the name under which a failure is reported in `Failure.className`, and the
families under which a caller may catch it in `Failure.families`.
-/

namespace MarkupQuery

/-- An error that a caller's own predicates and extractors raise: the name of its class, its detail,
and the families of its class. -/
structure CallerError where
  name : String
  detail : Option String := none
  /-- It says that an index is out of range. -/
  isIndex : Bool := false
  /-- It says that something which delivers one thing after the other has no more to deliver. -/
  isExhaustion : Bool := false
  /-- It asks for the program to end, and is not for those who catch errors. -/
  isInterrupt : Bool := false
  /-- Its text is the quoted detail and not the detail as it is. -/
  quotesDetail : Bool := false
  deriving DecidableEq, Repr

namespace CallerError

def value (detail : String) : CallerError := { name := "ValueError", detail := detail }

def type (detail : String) : CallerError := { name := "TypeError", detail := detail }

def runtime (detail : String) : CallerError := { name := "RuntimeError", detail := detail }

def index (detail : String) : CallerError :=
  { name := "IndexError", detail := detail, isIndex := true }

def key (detail : String) : CallerError :=
  { name := "KeyError", detail := detail, quotesDetail := true }

/-- There is no more to deliver. -/
def exhaustion : CallerError := { name := "StopIteration", isExhaustion := true }

/-- The user wants the program to end. -/
def interrupt : CallerError := { name := "KeyboardInterrupt", isInterrupt := true }

/-- The text of an error. -/
def text (e : CallerError) : String :=
  match e.detail with
  | some detail => if e.quotesDetail then Text.quoted detail else detail
  | none => ""

/-- An error with its name and its quoted detail. -/
def printed (e : CallerError) : String :=
  e.name ++ "(" ++ (match e.detail with
    | some detail => Text.quoted detail
    | none => "") ++ ")"

end CallerError

/-- The groups of failures that a caller may catch together. -/
inductive Family where
  | library
  | extraction
  | index
  | value
  deriving DecidableEq, Repr

/-- The causes of failure. -/
inductive Failure where
  /-- A selector token that does not follow the grammar. -/
  | malformedToken (token : String)
  /-- Something that cannot be read as a selector, in its printed form. -/
  | unsupportedQuery (printed : String)
  /-- A member of a chain that cannot be read as a selector, in its printed form. -/
  | unsupportedElement (printed : String)
  /-- A part of a combination that is no predicate. -/
  | notASelector (typeName : String)
  /-- Children for a leaf. -/
  | leafWithChildren (kind : Kind)
  /-- A selection that holds something other than nodes and texts. -/
  | unsupportedSelection (typeName : String)
  /-- A member was asked of a single node, and that was forbidden. -/
  | notASequence (index : Int) (typeName : String)
  /-- A member outside the selection was asked for. -/
  | memberOutOfRange (index : Int) (size : Nat)
  /-- A source that is neither a node nor a sequence. -/
  | notIterable (typeName : String)
  /-- Selectors and extractors that do not come in pairs. -/
  | unpairedArguments (count : Nat)
  /-- Some extractions of a call failed, each with the index of its pair. -/
  | extractionsFailed (total : Nat) (failures : List (Nat × Failure))
  /-- Parser output of a kind that has no place in a tree. -/
  | unconvertible (typeName : String)
  /-- A parser that is not known. -/
  | unknownParser (name : String)
  /-- A marked section without a keyword, with the markup from its start on. -/
  | namelessSection (excerpt : String)
  /-- A marked section with a keyword that is not known. -/
  | unknownSection (keyword : String)
  /-- A style sheet selector that does not follow the grammar. -/
  | malformedStyleSelector
  /-- A part of style sheet selectors that is not supported, and where it stands. -/
  | unsupportedStyle (part : String) (position : Nat)
  /-- Markup of a kind that no style sheet selector applies to. -/
  | notMarkup
  /-- Raised by a caller's predicate or extractor. -/
  | raised (error : CallerError)
  deriving Inhabited

namespace Failure

/-! ## Equality

Deriving does not reach through the list of a report, so equality is decided by a comparison. -/

mutual
/-- Whether two failures are the same. -/
def same : Failure → Failure → Bool
  | .malformedToken s, .malformedToken t | .unsupportedQuery s, .unsupportedQuery t
  | .unsupportedElement s, .unsupportedElement t | .notASelector s, .notASelector t
  | .unsupportedSelection s, .unsupportedSelection t | .notIterable s, .notIterable t
  | .unconvertible s, .unconvertible t | .unknownParser s, .unknownParser t
  | .namelessSection s, .namelessSection t | .unknownSection s, .unknownSection t => s == t
  | .leafWithChildren k, .leafWithChildren l => k == l
  | .notASequence i s, .notASequence j t | .unsupportedStyle s i, .unsupportedStyle t j =>
    i == j && s == t
  | .memberOutOfRange i m, .memberOutOfRange j n => i == j && m == n
  | .unpairedArguments m, .unpairedArguments n => m == n
  | .extractionsFailed m fs, .extractionsFailed n gs => m == n && sameListed fs gs
  | .malformedStyleSelector, .malformedStyleSelector | .notMarkup, .notMarkup => true
  | .raised a, .raised b => a == b
  | _, _ => false
termination_by structural f => f

def sameListed : List (Nat × Failure) → List (Nat × Failure) → Bool
  | [], [] => true
  | (i, f) :: fs, (j, g) :: gs => i == j && f.same g && sameListed fs gs
  | _, _ => false
termination_by structural fs => fs
end

mutual
theorem same_iff : ∀ f g : Failure, f.same g = true ↔ f = g
  | .extractionsFailed m fs, g => by cases g <;> simp [same, sameListed_iff fs]
  | .malformedToken _, g | .unsupportedQuery _, g | .unsupportedElement _, g | .notASelector _, g
  | .leafWithChildren _, g | .unsupportedSelection _, g | .notASequence _ _, g
  | .memberOutOfRange _ _, g | .notIterable _, g | .unpairedArguments _, g | .unconvertible _, g
  | .unknownParser _, g | .namelessSection _, g | .unknownSection _, g | .malformedStyleSelector, g
  | .unsupportedStyle _ _, g | .notMarkup, g | .raised _, g => by
    cases g <;> simp [same, and_comm]

theorem sameListed_iff : ∀ fs gs : List (Nat × Failure), sameListed fs gs = true ↔ fs = gs
  | [], gs => by cases gs <;> simp [sameListed]
  | (i, f) :: fs, gs => by
    cases gs <;> simp [sameListed, same_iff f, sameListed_iff fs, Prod.ext_iff]
end

instance : DecidableEq Failure := fun f g => decidable_of_iff _ (same_iff f g)

/-- Whether a failure says that an index is out of range. -/
def isIndex : Failure → Bool
  | .memberOutOfRange _ _ => true
  | .raised error => error.isIndex
  | .extractionsFailed _ failures => allIndex failures
  | _ => false
where
  /-- Whether every listed failure says so. -/
  allIndex : List (Nat × Failure) → Bool
    | [] => true
    | (_, f) :: rest => f.isIndex && allIndex rest

/-- Whether a failure says that there is no more to deliver. -/
def isExhaustion : Failure → Bool
  | .raised error => error.isExhaustion
  | _ => false

/-- Whether a failure asks for the program to end. -/
def isInterrupt : Failure → Bool
  | .raised error => error.isInterrupt
  | _ => false

/-- What comes of a computation, as those have it who catch errors: what asks for the program to end
passes them by. -/
def caught {α : Type} : Except Failure α → Except Failure (Except Failure α)
  | .ok a => .ok (.ok a)
  | .error f => if f.isInterrupt then .error f else .ok (.error f)

/-- What becomes of a failure inside something that delivers one thing after the other. That there is
no more to deliver would be taken for the end of its own deliveries, so it is told in another way. -/
def inGenerator (f : Failure) : Failure :=
  if f.isExhaustion then .raised (.runtime "generator raised StopIteration") else f

theorem inGenerator_of_isExhaustion_eq_false {f : Failure} (h : f.isExhaustion = false) :
    f.inGenerator = f :=
  if_neg (by simp [h])

theorem isExhaustion_inGenerator (f : Failure) : f.inGenerator.isExhaustion = false := by
  by_cases h : f.isExhaustion = true
  · rw [inGenerator, if_pos h]
    rfl
  · rwa [inGenerator, if_neg h, ← Bool.not_eq_true]

@[simp] theorem inGenerator_inGenerator (f : Failure) : f.inGenerator.inGenerator = f.inGenerator :=
  inGenerator_of_isExhaustion_eq_false f.isExhaustion_inGenerator

/-- The name under which a failure is reported. -/
def className (f : Failure) : String :=
  match f with
  | .malformedToken _ | .unsupportedQuery _ | .unsupportedElement _ => "SelectorSyntaxError"
  | .notASelector _ | .leafWithChildren _ | .unsupportedSelection _ | .notASequence _ _
  | .notIterable _ | .unconvertible _ => "TypeError"
  | .memberOutOfRange _ _ => "SelectionIndexError"
  | .unpairedArguments _ => "ValueError"
  | .extractionsFailed _ _ => if f.isIndex then "ExtractionIndexError" else "ExtractionError"
  | .unknownParser _ => "FeatureNotFound"
  | .namelessSection _ | .unknownSection _ => "ParserRejectedMarkup"
  | .malformedStyleSelector => "SelectorSyntaxError"
  | .unsupportedStyle _ _ => "NotImplementedError"
  | .notMarkup => "AttributeError"
  | .raised error => error.name

/-- The families that the library's own failures belong to. -/
def families (f : Failure) : List Family :=
  match f with
  | .malformedToken _ | .unsupportedQuery _ | .unsupportedElement _ => [.library, .value]
  | .memberOutOfRange _ _ => [.library, .index]
  | .extractionsFailed _ _ =>
    if f.isIndex then [.library, .extraction, .index] else [.library, .extraction]
  | _ => []

/-- The failure that another one comes from: the first of those that it lists. -/
def cause? : Failure → Option Failure
  | .extractionsFailed _ ((_, f) :: _) => some f
  | _ => none

/-- The wording for markup that the parser rejects. -/
def rejected (reason : String) : String :=
  "The markup you provided was rejected by the parser. Trying a different parser or a different " ++
    "encoding may help.\n\nOriginal error(s) from parser:\n AssertionError: " ++ reason

mutual
/-- The wording of a failure. -/
def message : Failure → String
  | .malformedToken token =>
    "Malformed selector token " ++ Text.quoted token ++
      ": expected [tag][#id][.class]* in that order"
  | .unsupportedQuery printed => "Unsupported selector: " ++ printed
  | .unsupportedElement printed => "Unsupported selector chain element: " ++ printed
  | .notASelector typeName => "Expected a selector or callable, got " ++ typeName
  | .leafWithChildren kind => kind.noun ++ " cannot hold children"
  | .unsupportedSelection typeName =>
    "Cannot extract from " ++ typeName ++ "; expected a node or a sequence of nodes"
  | .notASequence index typeName =>
    "nth(" ++ toString index ++ ") needs a sequence, got a single " ++ typeName
  | .memberOutOfRange index size =>
    "Index " ++ toString index ++ " is out of range for a selection of " ++ toString size
  | .notIterable typeName => Text.quoted typeName ++ " object is not iterable"
  | .unpairedArguments count =>
    "Extractions come in selector/extractor pairs, got " ++ toString count ++ " argument(s)"
  | .extractionsFailed total failures =>
    toString failures.length ++ " of " ++ toString total ++ " extraction(s) failed; first: " ++
      firstPrinted failures
  | .unconvertible typeName => "Cannot convert " ++ typeName ++ " into a tree node"
  | .unknownParser name => "Couldn't find a tree builder with the features you requested: " ++ name ++
    ". Do you need to install a parser library?"
  | .namelessSection excerpt => rejected ("expected name token at " ++ Text.quoted excerpt)
  | .unknownSection keyword =>
    rejected ("unknown status keyword " ++ Text.quoted keyword ++ " in marked section")
  | .malformedStyleSelector => ""
  | .unsupportedStyle part position =>
    part ++ " found at position " ++ toString position
  | .notMarkup => ""
  | .raised error => error.text

/-- A failure with its name and its quoted detail. -/
def printed (f : Failure) : String :=
  match f with
  | .raised error => error.printed
  | f => f.className ++ "(" ++ Text.quoted (message f) ++ ")"

/-- The printed form of the first failure of a list. -/
def firstPrinted : List (Nat × Failure) → String
  | [] => ""
  | (_, f) :: _ => printed f
end

end Failure
end MarkupQuery
