import MarkupQuery.Json.Reader
import MarkupQuery.Settings.Validation
import MarkupQuery.Text.LowerCase

/-!
# Settings from environment variables

The variables of the library have names that begin with `chisel_`, in any case. The field that the
rest of a name spells takes the variable's value: a text as it is, a section as a JSON text. What
follows two further underscores names a field inside a section, and such a variable wins over the
section's JSON text. Variables of no known field are passed over.

Fields that are given directly are laid over those from the variables, record by record.

This is the reading of the standard package, which is assumed to behave as it is documented.
-/

namespace MarkupQuery

namespace Datum

mutual
/-- Lays a datum over another: of two records, field by field, and otherwise the upper one counts. -/
def overlay (below : Datum) : Datum → Datum
  | .record above => match below with
    | .record fields => .record (overlayFields fields above)
    | _ => .record above
  | d => d

/-- Lays fields over others. -/
def overlayFields (below : Fields) : List (Datum × Datum) → Fields
  | [] => below
  | (k, v) :: rest =>
    overlayFields (below.put k (match below.find? k with
      | some b => b.overlay v
      | none => v)) rest
end

/-- Sets a value under a path of names. A name on the way that has a text already keeps it. -/
def putNested (fields : Fields) : List String → Datum → Fields
  | [], _ => fields
  | [name], v => fields.put (.text name) v
  | name :: names, v => match fields.find? (.text name) with
    | none => fields.put (.text name) (.record (putNested [] names v))
    | some (.record inner) => fields.put (.text name) (.record (putNested inner names v))
    | some _ => fields

end Datum

namespace Environment

/-- Sets a variable, which must have a name. A null character can stand neither in the name nor in the
value. -/
def set (env : Environment) (name value : String) : Except Refusal Environment :=
  if name.isEmpty then .error .nameless
  else if name.toList.contains '\x00' || value.toList.contains '\x00' then .error .nullCharacter
  else .ok (env.put name value)

/-- What the names of all variables begin with. -/
def namePrefix : List Char := "chisel_".toList

/-- The sections with their fields. -/
def sections : List (String × List String) :=
  [("parser", ["backend"]), ("selectors", ["cache_enabled"]), ("log", ["log_level", "log_file"])]

/-- Cuts a text at its pairs of underscores. -/
def cutAtPairs : List Char → List (List Char)
  | [] => [[]]
  | '_' :: '_' :: cs => [] :: cutAtPairs cs
  | c :: cs => match cutAtPairs cs with
    | [] => [[c]]
    | part :: parts => (c :: part) :: parts

/-- Variables by name in lower case; of names that differ in case the last one counts. -/
def lowered (env : Environment) : Environment :=
  Mapping.ofPairs (env.map fun p => (Text.lower p.1, p.2))

/-- The variable of a field. -/
def textOf? (env : Environment) (field : String) : Option String :=
  env.find? (String.ofList namePrefix ++ field)

/-- The fields inside a section that have variables of their own. -/
def nested (env : Environment) (name : String) : Datum.Fields :=
  let start := namePrefix ++ name.toList ++ ['_', '_']
  env.foldl (fun fields p =>
    if start.isPrefixOf p.1.toList then
      let path := (cutAtPairs (p.1.toList.drop start.length)).map String.ofList
      Datum.putNested fields path (.text p.2)
    else fields) []

/-- A section with its field names as the section spells them. -/
def respell (known : List String) (fields : Datum.Fields) : Datum.Fields :=
  Mapping.ofPairs (fields.map fun p => match p.1 with
    | .text name => (.text ((known.find? (· == Text.lower name)).getD name), p.2)
    | _ => p)

/-- The error for a variable that is no JSON text. -/
def malformed (field : String) : PackageError where
  className := "SettingsError"
  message? := some ("error parsing value for field \"" ++ field ++
    "\" from source \"EnvSettingsSource\"")

/-- The datum for a section, if variables say anything about it. -/
def section? (env : Environment) (name : String) (known : List String) :
    Except PackageError (Option Datum) :=
  match textOf? env name with
  | none =>
    let fields := nested env name
    .ok (if fields.isEmpty then none else some (.record (respell known fields)))
  | some json => match Json.read? json with
    | none => .error (malformed name)
    | some .null => .ok none
    | some (.record fields) =>
      .ok (some (.record (respell known (Datum.overlayFields fields (nested env name)))))
    | some d => .ok (some d)

/-- The field of a name, if there is a datum for it. -/
def fieldOf (name : String) : Option Datum → Datum.Fields
  | some d => [(.text name, d)]
  | none => []

/-- The fields that sections have. -/
def sectionFields (env : Environment) :
    List (String × List String) → Except PackageError Datum.Fields
  | [] => .ok []
  | (name, known) :: rest => do
    let here ← section? env name known
    let more ← sectionFields env rest
    pure (fieldOf name here ++ more)

/-- The top-level fields that the variables make. -/
def fields (env : Environment) : Except PackageError Datum.Fields := do
  let env := lowered env
  let names := ["project_name", "version"].flatMap fun name =>
    fieldOf name ((textOf? env name).map Datum.text)
  pure (names ++ (← sectionFields env sections))

end Environment
end MarkupQuery
