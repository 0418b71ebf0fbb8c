import MarkupQuery.Settings.Consultation
import MarkupQuery.Text.LowerCase

/-!
# Checking settings data

Settings data is a record with a text for each of the two names and a record for each of the three
sections. A field that is missing has its default. Fields that are not known are a fault at the top
level and passed over inside a section. All faults of the data are reported together. To what the
library's own checks object is a fault like any other; other failures of theirs end the checking.

This is the checking of the standard package, which is assumed to behave as it is documented.
-/

namespace MarkupQuery

namespace Settings

/-! ## Single fields -/

/-- The text that bytes spell, if they spell one. -/
def textOfBytes? (bytes : List UInt8) : Option String := String.fromUTF8? ⟨bytes.toArray⟩

/-- The text that a datum is, or that its bytes spell. -/
def readText (place : List String) : Datum → Verdict String
  | .text s => .ok s
  | .brokenText _ => .problem place .brokenText
  | .bytes bytes => match textOfBytes? bytes with
    | some s => .ok s
    | none => .problem place .brokenText
  | _ => .problem place .notText

/-- A text, or the default of a field that is missing. -/
def checkText (place : List String) (default : String) : Option Datum → Verdict String
  | none => .ok default
  | some d => readText place d

def checkBackend (place : List String) : Option Datum → Verdict Backend
  | none => .ok .htmlParser
  | some (.text s) => match Backend.ofName? s with
    | some b => .ok b
    | none => .problem place .notAChoice
  | some (.brokenText _) => .problem place .brokenText
  | some _ => .problem place .notAChoice

/-- The truth value that a word stands for, in any case. -/
def checkTruthWord (place : List String) (s : String) : Verdict Bool :=
  let word := String.ofList (s.toList.map Char.toLower)
  if word ∈ ["1", "true", "t", "yes", "y", "on"] then .ok true
  else if word ∈ ["0", "false", "f", "no", "n", "off"] then .ok false
  else .problem place .unreadableTruth

/-- The truth value that a whole number stands for. Below `least` and beyond 64 bits a number is no
truth value at all, rather than one that cannot be read. -/
def checkTruthNumber (place : List String) (least i : Int) : Verdict Bool :=
  if i = 0 then .ok false
  else if i = 1 then .ok true
  else if least ≤ i ∧ i < 0x8000000000000000 then .problem place .unreadableTruth
  else .problem place .notATruth

/-- A truth value, a word for one, or a number equal to zero or one. -/
def checkTruth (place : List String) (default : Bool) : Option Datum → Verdict Bool
  | none => .ok default
  | some (.bool b) => .ok b
  | some (.int i) => checkTruthNumber place (-0x8000000000000000) i
  | some (.fraction x) => match x.whole? with
    | some i => checkTruthNumber place (1 - 0x8000000000000000) i
    | none => .problem place .notATruth
  | some (.text s) => checkTruthWord place s
  | some (.brokenText _) => .problem place .brokenText
  | some (.bytes bytes) => match textOfBytes? bytes with
    | some s => checkTruthWord place s
    | none => .problem place .unreadableTruth
  | some _ => .problem place .notATruth

/-- What the library says about a value at a place of the data. -/
def objection {α : Type} (place : List String) :
    Except SettingsFailure α → Consultation (Verdict α)
  | .ok a => .done (.ok a)
  | .error f =>
    if f.isComplaint then .done (.problem place (.complaint f.message?)) else .fail f

def checkLevel (place : List String) : Option Datum → Consultation (Verdict Level)
  | none => .done (.ok .info)
  | some d => match readText place d with
    | .ok s => .level s (objection place)
    | .error faults => .done (.error faults)

/-- The path of the log file, if there is to be one. The library checks it before anything is known of
it, and what comes back has to be a text. -/
def checkLogPath (place : List String) : Option Datum → Consultation (Verdict (Option String))
  | none => .done (.ok none)
  | some d => do
    let kept ← .logFile d (objection place)
    pure (kept.bind fun
      | .null => .ok none
      | d => (readText place d).map some)

/-! ## Sections -/

/-- The fields of a section; a section that is missing has none. -/
def checkSection (place : List String) : Option Datum → Verdict Datum.Fields
  | none => .ok []
  | some (.record fields) => .ok fields
  | some _ => .problem place .notARecord

/-- The setting of the parser section. -/
def checkParser (place : List String) (d : Option Datum) : Verdict Backend := do
  let fields ← checkSection place d
  checkBackend (place ++ ["backend"]) (Datum.field? fields "backend")

/-- The setting of the selector section. -/
def checkSelectors (place : List String) (d : Option Datum) : Verdict Bool := do
  let fields ← checkSection place d
  checkTruth (place ++ ["cache_enabled"]) true (Datum.field? fields "cache_enabled")

/-- The settings of the log section. -/
def checkLog (place : List String) (d : Option Datum) : Consultation (Verdict LogSettings) :=
  match checkSection place d with
  | .error faults => .done (.error faults)
  | .ok fields => do
    let level ← checkLevel (place ++ ["log_level"]) (Datum.field? fields "log_level")
    let file ← checkLogPath (place ++ ["log_file"]) (Datum.field? fields "log_file")
    pure (Verdict.join (fun level file => { level, file }) level file)

/-! ## All settings -/

/-- The top-level fields. -/
def fieldNames : List String := ["project_name", "version", "parser", "selectors", "log"]

/-- The field that a name means, in any case. -/
def meantField? (key : Datum) : Option String :=
  match key with
  | .text name => if fieldNames.contains (Text.lower name) then some (Text.lower name) else none
  | _ => none

/-- The top-level fields under the names that they mean. Of several that mean the same field, only the
first counts. -/
def respell (given : Datum.Fields) : Datum.Fields :=
  let meant := fieldNames.filterMap fun name =>
    (List.find? (fun p => meantField? p.1 == some name) given).map fun p => (Datum.text name, p.2)
  meant ++ given.filter fun p => (meantField? p.1).isNone

/-- A fault for each field that is not known. -/
def unknownFields (fields : Datum.Fields) : List Fault :=
  fields.filterMap fun p => match p.1 with
    | .text name => if name ∈ fieldNames then none else some ⟨[name], .unknownField⟩
    | .brokenText points => some ⟨[String.ofList (points.map Char.ofNat)], .unknownField⟩
    | _ => none

/-- The settings that top-level fields make. -/
def check (fields : Datum.Fields) : Consultation (Verdict Settings) := do
  let defaults : Settings := {}
  let log ← checkLog ["log"] (Datum.field? fields "log")
  let names := Verdict.join (fun projectName version => { defaults with projectName, version })
    (checkText ["project_name"] defaults.projectName (Datum.field? fields "project_name"))
    (checkText ["version"] defaults.version (Datum.field? fields "version"))
  let withParser := Verdict.join (fun s backend => { s with backend })
    names (checkParser ["parser"] (Datum.field? fields "parser"))
  let withSelectors := Verdict.join (fun s cacheEnabled => { s with cacheEnabled })
    withParser (checkSelectors ["selectors"] (Datum.field? fields "selectors"))
  let withLog := Verdict.join (fun s log => { s with log }) withSelectors log
  pure (match unknownFields fields with
    | [] => withLog
    | unknown => .error (withLog.faults ++ unknown))

end Settings
end MarkupQuery
