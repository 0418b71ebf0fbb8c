import MarkupQuery.Session
import MarkupQuery.Settings.Consultation

/-!
# Loading settings

Settings are made from fields that are given, with the environment variables below them, or read
from a file, both with the packages for it. Loaded on demand, they come from the settings file of the
working directory. A file that cannot be used gives way to the defaults; what else goes wrong is a
failure, and is tried anew the next time. Once loaded, settings stay until they are reset.
-/

namespace MarkupQuery

/-- What settings are loaded from, and the settings that are loaded. -/
structure Surroundings where
  disk : Disk := {}
  environment : Environment := []
  loaded : Option Settings := none

/-- A computation that loads settings. Directories that it made stay also when it fails. -/
abbrev Loading := ExceptT SettingsFailure (StateM Surroundings)

namespace Loading

/-- Consults a package; the directories that are made meanwhile are those of the surroundings. -/
def consult {α : Type} (c : Consultation α) : Loading α :=
  ExceptT.mk fun s =>
    let (result, disk) := c.runOn s.disk
    (result, { s with disk })

/-- Changes the disk, unless the system refuses. -/
def changeDisk (change : Disk → Except Refusal Disk) : Loading Unit := do
  match change (← get).disk with
  | .ok disk => modify fun s => { s with disk }
  | .error e => throw (.refused e)

/-- What became of a computation, as a value. -/
def outcome {α : Type} (a : Loading α) : Loading (Except SettingsFailure α) :=
  ExceptT.mk fun s =>
    let (result, s') := a.run s
    (.ok result, s')

end Loading

/-- Opens the file that a log goes to, if it goes to one. -/
def LogSettings.openFile (log : LogSettings) : Loading Unit :=
  match log.file with
  | some path => Loading.changeDisk (·.open path)
  | none => pure ()

namespace Settings

section Packages

variable (packages : Packages)

/-- The settings that given fields make. -/
def ofFields (given : Datum.Fields) : Loading Settings := do
  Loading.consult (packages.construct (← get).environment given)

/-- The settings that a datum makes. -/
def ofDatum (d : Datum) : Loading Settings := do
  Loading.consult (packages.validate (← get).environment d)

/-- The settings that a file holds. A file that says nothing is as good as one without fields. -/
def ofFile (path : DiskPath) : Loading Settings := do
  let disk := (← get).disk
  match disk.isFile path with
  | .error e => throw (.refused e)
  | .ok false => throw (.noFile path)
  | .ok true => match packages.read (disk.bytes path) with
    | .error f => throw f
    | .ok d => ofDatum packages (if d.saysSomething then d else .record [])

/-- The names of settings files, the preferred one first. -/
def fileNames : List String := ["chisel.yaml", "chisel.yml"]

/-- The settings file of the working directory. A directory of that name counts, too. -/
def findFile (disk : Disk) : Option String :=
  fileNames.find? fun name => disk.exists (DiskPath.ofText name)

/-- The settings without a file. They have no faults but those that the variables bring in. -/
def ofDefaults : Loading Settings := do
  match ← Loading.outcome (ofFields packages []) with
  | .ok s => pure s
  | .error (.invalid _) => throw .invalidDefaults
  | .error f => throw f

/-- Loads settings from the settings file, if there is one and it can be used. -/
def load : Loading Settings := do
  match findFile (← get).disk with
  | none => ofDefaults packages
  | some name => match ← Loading.outcome (ofFile packages (DiskPath.ofText name)) with
    | .ok s => pure s
    | .error f => if f.isRecoverable then ofDefaults packages else throw f

/-- The loaded settings, which are loaded now if they are not yet. -/
def current : Loading Settings := do
  match (← get).loaded with
  | some s => pure s
  | none =>
    let s ← load packages
    modify fun surroundings => { surroundings with loaded := some s }
    pure s

/-- The setting, or the section of settings, that names lead to in the loaded settings. -/
def lookUp (names : List String) : Loading Datum := do
  match (← current packages).toDatum.descend? names with
  | some d => pure d
  | none => throw (.unknownSetting (String.intercalate "." names))

/-- A session with the loaded settings. Compiling a query asks for them in the middle of a call; here they
are there before the session begins, so that settings which fail to load leave no session to run a call
in. -/
def session : Loading Session := do
  return { settings := ← current packages }

end Packages

/-- Puts settings in the place of the loaded ones; without any, they are loaded anew on demand. -/
def reset (s : Option Settings) : Loading Unit :=
  modify fun surroundings => { surroundings with loaded := s }

end Settings
end MarkupQuery
