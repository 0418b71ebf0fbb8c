import MarkupQuery.Mapping
import MarkupQuery.Text.Quoted

/-!
# Files and directories

The working directory as far as settings see it: files with their bytes, and directories. A path is
followed name by name: a dot stays, two dots lead up, and any other name leads to an entry, which
must be a directory if more names follow. Whatever lies outside the working directory is taken to
be writable, and nothing more is known of it.
-/

namespace MarkupQuery

/-- Cuts a text at its slashes. -/
def cutAtSlashes : List Char → List (List Char)
  | [] => [[]]
  | c :: cs =>
    if c = '/' then [] :: cutAtSlashes cs
    else match cutAtSlashes cs with
      | [] => [[c]]
      | name :: names => (c :: name) :: names

/-- A path in its plain form, without empty names and dots: its leading slashes, and its names. -/
structure DiskPath where
  root : String
  names : List String
  deriving DecidableEq, Repr

namespace DiskPath

/-- The path that a text spells. Two slashes in front are kept, any other number is one. -/
def ofText (s : String) : DiskPath :=
  let slashes := (s.toList.takeWhile (· == '/')).length
  ⟨if slashes = 0 then "" else if slashes = 2 then "//" else "/",
   ((cutAtSlashes s.toList).filter fun n => !n.isEmpty && n != ['.']).map String.ofList⟩

/-- The text of a path; an empty path is a dot. -/
def text (p : DiskPath) : String :=
  let s := p.root ++ String.intercalate "/" p.names
  if s.isEmpty then "." else s

/-- The path of the directory that a path is in. -/
def parent (p : DiskPath) : DiskPath := { p with names := p.names.dropLast }

end DiskPath

/-- What is at a place. -/
inductive DiskEntry where
  | directory
  | file (bytes : ByteArray)

/-- Entries by the names on the way to them; the working directory itself is always there. -/
structure Disk where
  entries : Mapping (List String) DiskEntry := []

/-- What a path leads to. -/
inductive Target where
  | directory
  | file (place : List String) (bytes : ByteArray)
  /-- Nothing, in a directory that is there. -/
  | vacant (place : List String)
  | outside

/-- Why the system refuses something. -/
inductive Refusal where
  | missing
  | alreadyThere
  | isDirectory
  | notADirectory
  | tooLong
  | nullCharacter
  /-- An environment variable without a name. -/
  | nameless
  deriving DecidableEq, Repr

namespace Disk

/-- The most bytes that a name can have. -/
def longestName : Nat := 255

/-- The most bytes that the text of a path can have. -/
def longestPath : Nat := 4095

/-! ## Following paths -/

/-- Enters the directory of a name from a directory, or from somewhere outside. -/
def enter (d : Disk) (here : Option (List String)) (name : String) :
    Except Refusal (Option (List String)) :=
  match here with
  | none => .ok none
  | some place =>
    if name = "." then .ok (some place)
    else if name = ".." then .ok (if place.isEmpty then none else some place.dropLast)
    else if name.utf8ByteSize > longestName then .error .tooLong
    else match d.entries.find? (place ++ [name]) with
      | some .directory => .ok (some (place ++ [name]))
      | some (.file _) => .error .notADirectory
      | none => .error .missing

/-- What the last name of a path leads to from the directory before it. -/
def look (d : Disk) (here : Option (List String)) (name : String) : Except Refusal Target :=
  if name = "." ∨ name = ".." then .ok .directory
  else match here with
  | none => .ok .outside
  | some place =>
    if name.utf8ByteSize > longestName then .error .tooLong
    else match d.entries.find? (place ++ [name]) with
      | some .directory => .ok .directory
      | some (.file bytes) => .ok (.file (place ++ [name]) bytes)
      | none => .ok (.vacant (place ++ [name]))

/-- What the text of a path leads to. -/
def find (d : Disk) (path : String) : Except Refusal Target := do
  if path.toList.contains '\x00' then throw .nullCharacter
  if path.isEmpty then throw .missing
  if path.utf8ByteSize > longestPath then throw .tooLong
  let names := ((cutAtSlashes path.toList).filter (!·.isEmpty)).map String.ofList
  let start := if path.startsWith "/" then none else some []
  let here ← names.dropLast.foldlM d.enter start
  d.look here (names.getLast?.getD ".")

/-- Whether a path leads to a file. What hinders following it means that there is none, except names
that are too long. -/
def isFile (d : Disk) (path : DiskPath) : Except Refusal Bool :=
  match d.find path.text with
  | .ok (.file _ _) => .ok true
  | .error .tooLong => .error .tooLong
  | _ => .ok false

/-- The bytes of a file; none, where no file is. -/
def bytes (d : Disk) (path : DiskPath) : ByteArray :=
  match d.find path.text with
  | .ok (.file _ bytes) => bytes
  | _ => .empty

def isDirectory (d : Disk) (path : DiskPath) : Bool :=
  match d.find path.text with
  | .ok .directory => true
  | _ => false

def «exists» (d : Disk) (path : DiskPath) : Bool :=
  match d.find path.text with
  | .ok .directory | .ok (.file _ _) => true
  | _ => false

/-! ## Changing the disk -/

/-- Puts an entry at a place. -/
def put (d : Disk) (place : List String) (e : DiskEntry) : Disk :=
  ⟨d.entries.put place e⟩

/-- Opens a file for writing, with what its bytes are to be given what they are. A path with a slash
at its end can only mean a directory. -/
def writeWith (d : Disk) (path : String) (change : ByteArray → ByteArray) : Except Refusal Disk := do
  let ended (place : List String) (bytes : ByteArray) : Except Refusal Disk :=
    if path.endsWith "/" then .error .isDirectory else .ok (d.put place (.file (change bytes)))
  match ← d.find path with
  | .directory => .error .isDirectory
  | .file place bytes => ended place bytes
  | .vacant place => ended place .empty
  | .outside => .ok d

/-- Writes a file anew. -/
def write (d : Disk) (path : String) (bytes : ByteArray) : Except Refusal Disk :=
  d.writeWith path fun _ => bytes

/-- Opens a file to write on at its end. -/
def «open» (d : Disk) (path : String) : Except Refusal Disk := d.writeWith path id

/-- Takes a file away. -/
def remove (d : Disk) (path : String) : Except Refusal Disk := do
  match ← d.find path with
  | .directory => .error .isDirectory
  | .file place _ =>
    if path.endsWith "/" then .error .notADirectory
    else .ok ⟨d.entries.filter fun p => p.1 != place⟩
  | .vacant _ | .outside => .error .missing

/-- Makes one directory, in a directory that is there. -/
def makeDirectory (d : Disk) (path : String) : Except Refusal Disk := do
  match ← d.find path with
  | .directory | .file _ _ => .error .alreadyThere
  | .vacant place => .ok (d.put place .directory)
  | .outside => .ok d

/-- Makes a directory and those missing on the way to it. Every path is tried last first, so that
what was made before a failure stays. A directory that is there already is as good as a new one. -/
def makeDirectories (d : Disk) (path : DiskPath) : Except Refusal Unit × Disk :=
  let orThere (d : Disk) (e : Refusal) : Except Refusal Unit × Disk :=
    (if d.isDirectory path then .ok () else .error e, d)
  match d.makeDirectory path.text with
  | .ok d' => (.ok (), d')
  | .error .missing =>
    if _h : path.names = [] then (.error .missing, d)
    else match makeDirectories d path.parent with
      | (.error e, d') => (.error e, d')
      | (.ok _, d') => match d'.makeDirectory path.text with
        | .ok d'' => (.ok (), d'')
        | .error .missing => (.error .missing, d')
        | .error e => orThere d' e
  | .error e => orThere d e
termination_by path.names.length
decreasing_by
  have := List.length_pos_iff.2 _h
  simp [DiskPath.parent]; omega

/-- Every directory, with a slash after it, and every file. -/
def listing (d : Disk) : List String :=
  d.entries.map fun p =>
    String.intercalate "/" p.1 ++ match p.2 with
      | .directory => "/"
      | .file _ => ""

end Disk
end MarkupQuery
