import MarkupQuery.Settings.Environment
import MarkupQuery.Settings.Yaml.Document

/-!
# The standard packages

The packages that the library is distributed with: one that reads YAML, and one that checks data against
the types of the settings and takes the variables into account. They are assumed to behave as they are
documented; nothing else in the library depends on how.

A file is decoded as a whole here before any of it is read, so that bytes that spell no text count even
where the text before them is no document.
-/

namespace MarkupQuery

/-- A failure of reading YAML, as an error of the package. Loading is prepared for malformed texts only. -/
def Yaml.Failure.error (f : Yaml.Failure) : PackageError where
  className := f.className
  message? := f.message?
  isExpected := f == .malformed

namespace Packages

/-- The error for bytes that spell no text. -/
def undecodable : PackageError where
  className := "UnicodeDecodeError"

/-- The error for a top-level field whose name is no text. -/
def unnamedField : PackageError where
  className := "TypeError"
  message? := some "keywords must be strings"

/-- The datum in the bytes of a file. -/
def readYaml (bytes : ByteArray) : Except SettingsFailure Datum :=
  match String.fromUTF8? bytes with
  | none => .error (.foreign undecodable)
  | some s => (Yaml.read s).mapError fun f => .foreign f.error

/-- A value that passed its check, or its faults as a failure. -/
def accept {α : Type} : Verdict α → Consultation α
  | .ok a => .done a
  | .error faults => .fail (.invalid faults)

/-- The settings that given fields make, laid over those from the variables. What becomes of a malformed
variable depends on who asks. -/
def ofFields (onMalformed : PackageError → SettingsFailure) (environment : Environment)
    (given : Datum.Fields) : Consultation Settings :=
  if !given.all (·.1.isText) then .fail (.foreign unnamedField)
  else match environment.fields with
    | .error e => .fail (onMalformed e)
    | .ok below => Settings.check (Datum.overlayFields below (Settings.respell given)) >>= accept

/-- The settings that a datum makes. A malformed variable is a fault of the data as a whole. -/
def ofDatum (environment : Environment) : Datum → Consultation Settings
  | .record given =>
    ofFields (fun e => .invalid [⟨[], .complaint e.message?⟩]) environment given
  | _ => .fail (.invalid [⟨[], .notARecord⟩])

def standard : Packages where
  read := readYaml
  construct := ofFields .foreign
  validate := ofDatum

end Packages
end MarkupQuery
