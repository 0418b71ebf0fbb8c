import MarkupQuery.Datum
import MarkupQuery.Settings.Basic
import MarkupQuery.Settings.Fault

/-!
# Packages and what they ask

Settings files are read and settings data are checked by packages of others. What the library relies on
is stated here: reading the bytes of a file gives a datum or fails, and checking data is a
consultation, in which a package puts values to the two checks of the library and goes on with what
they say. It ends with settings, or with any failure at all.

The library checks the name of a level and what is given for the log file. The second check makes the
directory that the file is to be in, as soon as it is asked and whatever else may be wrong with the
data.
-/

namespace MarkupQuery

/-- Variables with their values. -/
abbrev Environment := Mapping String String

/-- What a package does with data, up to the values that it puts to the library. How it goes on is up to
it, also after a failure of the library's checks. -/
inductive Consultation (α : Type) where
  | done (a : α)
  | fail (f : SettingsFailure)
  | level (given : String) (next : Except SettingsFailure Level → Consultation α)
  | logFile (given : Datum) (next : Except SettingsFailure Datum → Consultation α)

namespace Consultation

variable {α β : Type}

/-- Goes on with a result. -/
def bind : Consultation α → (α → Consultation β) → Consultation β
  | done a, k => k a
  | fail f, _ => fail f
  | level given next, k => level given fun answer => (next answer).bind k
  | logFile given next, k => logFile given fun answer => (next answer).bind k

instance : Monad Consultation where
  pure := done
  bind := bind

end Consultation

namespace Settings

/-! ## The checks of the library -/

/-- The level of a name. -/
def readLevel (given : String) : Except SettingsFailure Level :=
  match Level.ofName? given with
  | some level => .ok level
  | none => .error (.unknownLevel given)

/-- The code points of a path before its last name. -/
def beforeLastName (points : List Nat) : List Nat :=
  ((points.reverse.dropWhile (· == 0x2f)).dropWhile (· != 0x2f)).reverse

/-- The directory that has to be there for a log file, and the path of the file as it is kept. A broken
text has no place on the disk, but the directory before its last name may have one. -/
def readLogFile : Datum → Except SettingsFailure (Option DiskPath × Datum)
  | .null => .ok (none, .null)
  | .text s => .ok (some (DiskPath.ofText s).parent, .text (DiskPath.ofText s).text)
  | .brokenText points => match Datum.ofPoints (beforeLastName points) with
    | .text s => .ok (some (DiskPath.ofText s), .brokenText points)
    | _ => .error .unencodablePath
  | .bytes _ => .error .bytesAsPath
  | d => .error (.notAPath d.typeName)

/-- Checks what is given for the log file, and makes its directory. -/
def checkLogFile (given : Datum) (disk : Disk) : Except SettingsFailure Datum × Disk :=
  match readLogFile given with
  | .error f => (.error f, disk)
  | .ok (none, kept) => (.ok kept, disk)
  | .ok (some path, kept) =>
    let (made, disk) := disk.makeDirectories path
    (match made with
      | .ok _ => .ok kept
      | .error e => .error (.refused e), disk)

end Settings

/-- What a consultation comes to, with the directories that are made meanwhile. They stay also when it
fails. -/
def Consultation.runOn {α : Type} : Consultation α → Disk → Except SettingsFailure α × Disk
  | done a, disk => (.ok a, disk)
  | fail f, disk => (.error f, disk)
  | level given next, disk => (next (Settings.readLevel given)).runOn disk
  | logFile given next, disk =>
    let (answer, disk) := Settings.checkLogFile given disk
    (next answer).runOn disk

/-- The packages that settings are loaded with. -/
structure Packages where
  /-- What a file holds that is opened as a text in UTF-8: a datum, or what went wrong in decoding it or in
  reading it, whichever a package meets first. -/
  read : ByteArray → Except SettingsFailure Datum
  /-- The settings that given fields make, with the variables. -/
  construct : Environment → Datum.Fields → Consultation Settings
  /-- The settings that a datum makes, with the variables. -/
  validate : Environment → Datum → Consultation Settings

end MarkupQuery
