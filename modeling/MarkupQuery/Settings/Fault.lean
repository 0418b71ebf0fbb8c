import MarkupQuery.Settings.Disk

/-!
# What can be wrong with settings

A fault is a problem at a place in settings data; checking finds all faults of its data at once. A
settings failure is why there are no settings: faults, or a cause outside the data. The packages that
read and check settings can fail with any error of their own.
-/

namespace MarkupQuery

/-- What is wrong with one datum. -/
inductive Problem where
  /-- Something else where a record is needed. -/
  | notARecord
  /-- A field that is not known. -/
  | unknownField
  /-- Something else where text is needed. -/
  | notText
  /-- A text that is broken, or bytes that spell none. -/
  | brokenText
  /-- None of the choices. -/
  | notAChoice
  /-- A text or a whole number that stands for no truth value. -/
  | unreadableTruth
  /-- Of a type that has no truth values. -/
  | notATruth
  /-- What the library itself, or a package inside it, had to object, with its wording. -/
  | complaint (message? : Option String)
  deriving DecidableEq, Repr

namespace Problem

/-- The code under which a problem is reported. -/
def code : Problem → String
  | .notARecord => "model_type"
  | .unknownField => "extra_forbidden"
  | .notText => "string_type"
  | .brokenText => "string_unicode"
  | .notAChoice => "literal_error"
  | .unreadableTruth => "bool_parsing"
  | .notATruth => "bool_type"
  | .complaint _ => "value_error"

/-- The wording of the problems that have one. -/
def detail? : Problem → Option String
  | .complaint message? => message?.map ("Value error, " ++ ·)
  | _ => none

end Problem

/-- A problem and the field names that lead to its datum. -/
structure Fault where
  place : List String
  problem : Problem
  deriving DecidableEq, Repr

/-- What became of checking a datum: a value, or what is wrong. -/
abbrev Verdict := Except (List Fault)

namespace Verdict

variable {α β γ : Type}

/-- The verdict on a datum with one problem. -/
def problem (place : List String) (p : Problem) : Verdict α := .error [⟨place, p⟩]

/-- The faults that were found. -/
def faults : Verdict α → List Fault
  | .ok _ => []
  | .error fs => fs

/-- Both verdicts in one, with the faults of both. -/
def join (f : α → β → γ) (a : Verdict α) (b : Verdict β) : Verdict γ :=
  match a, b with
  | .ok x, .ok y => .ok (f x y)
  | a, b => .error (a.faults ++ b.faults)

end Verdict

/-- An error of a package: the name of its class and its wording. Loading settings is prepared for the
errors of YAML and of the system, and for no others. -/
structure PackageError where
  className : String
  message? : Option String := none
  isExpected : Bool := false
  deriving DecidableEq, Repr

/-- Why there are no settings. -/
inductive SettingsFailure where
  /-- Data with faults. -/
  | invalid (faults : List Fault)
  /-- The default settings have faults, which they can only take from the variables. -/
  | invalidDefaults
  /-- No settings file is at this path. -/
  | noFile (path : DiskPath)
  /-- No level has this name. -/
  | unknownLevel (given : String)
  /-- A datum of this type cannot be a path. -/
  | notAPath (typeName : String)
  /-- Bytes cannot be a path. -/
  | bytesAsPath
  /-- A path whose text is broken has no name on the disk. -/
  | unencodablePath
  /-- The system refuses something. -/
  | refused (why : Refusal)
  /-- An error that a package raises of its own. -/
  | foreign (error : PackageError)
  /-- There is no setting of this name. -/
  | unknownSetting (name : String)
  deriving DecidableEq, Repr

namespace Refusal

/-- The name under which a refusal is reported. -/
def className : Refusal → String
  | .missing => "FileNotFoundError"
  | .alreadyThere => "FileExistsError"
  | .isDirectory => "IsADirectoryError"
  | .notADirectory => "NotADirectoryError"
  | .tooLong | .nameless => "OSError"
  | .nullCharacter => "ValueError"

/-- The wording of the refusals that have one. -/
def message? : Refusal → Option String
  | .nullCharacter => some "embedded null byte"
  | _ => none

end Refusal

namespace SettingsFailure

/-- The name under which a failure is reported. -/
def className : SettingsFailure → String
  | .invalid _ => "ValidationError"
  | .invalidDefaults => "RuntimeError"
  | .noFile _ => "FileNotFoundError"
  | .unknownLevel _ => "ValueError"
  | .notAPath _ | .bytesAsPath => "TypeError"
  | .unencodablePath => "UnicodeEncodeError"
  | .refused e => e.className
  | .foreign e => e.className
  | .unknownSetting _ => "AttributeError"

/-- The wording of the failures that have one. -/
def message? : SettingsFailure → Option String
  | .invalidDefaults => some "Default configuration is invalid, cannot start"
  | .noFile path => some ("Configuration file not found or is not a file: " ++ path.text)
  | .unknownLevel given => some ("Unknown log level: " ++ given)
  | .notAPath typeName =>
    some ("expected str, bytes or os.PathLike object, not " ++ typeName)
  | .bytesAsPath => some
    ("argument should be a str object or an os.PathLike object returning str, not <class " ++
      Text.quoted "bytes" ++ ">")
  | .refused e => e.message?
  | .foreign e => e.message?
  | _ => none

/-- Whether a failure lies with the settings file, so that the defaults take its place: faults, no
such file, a refusal of the system, or an error of a package that loading is prepared for. -/
def isRecoverable : SettingsFailure → Bool
  | .invalid _ | .noFile _ => true
  | .refused e => e != .nullCharacter
  | .foreign e => e.isExpected
  | _ => false

/-- Whether a failure of the library's own checks objects to a value, so that it becomes a fault of the
data. -/
def isComplaint : SettingsFailure → Bool
  | .unknownLevel _ | .unencodablePath | .refused .nullCharacter => true
  | _ => false

end SettingsFailure
end MarkupQuery
