import MarkupQuery.Value

/-!
# Journal events

An event has a level, the name of the logger that made it, a text and named fields. Fields bound to
the context in which an event is made are merged into it, and a field of its own wins over a
bound one.
-/

namespace MarkupQuery

/-- How important an event is. -/
inductive Level where
  | notset
  | debug
  | info
  | warning
  | error
  | critical
  deriving DecidableEq, Repr, Inhabited

namespace Level

/-- The rank by which levels are compared. -/
def rank : Level → Nat
  | .notset => 0
  | .debug => 10
  | .info => 20
  | .warning => 30
  | .error => 40
  | .critical => 50

/-- The name of a level in settings. -/
def name : Level → String
  | .notset => "NOTSET"
  | .debug => "DEBUG"
  | .info => "INFO"
  | .warning => "WARNING"
  | .error => "ERROR"
  | .critical => "CRITICAL"

/-- The name of a level in records. -/
def lowerName (l : Level) : String := String.ofList (l.name.toList.map Char.toLower)

/-- All levels. -/
def all : List Level := [.critical, .error, .warning, .info, .debug, .notset]

/-- Upper case of a character, as far as it can spell a level: ASCII letters, the dotless i and the
long s. -/
def upperChar (c : Char) : Char :=
  if c = 'ı' then 'I' else if c = 'ſ' then 'S' else c.toUpper

/-- The level with a given name, in any case. -/
def ofName? (s : String) : Option Level :=
  all.find? fun l => l.name.toList == s.toList.map upperChar

end Level

/-- Named fields. -/
abbrev Fields := Mapping String Value

/-- An event, with the context merged in. -/
structure Event where
  level : Level
  logger : String
  text : String
  fields : Fields

/-- The events made so far, and the fields bound for those to come. -/
structure Journal where
  bound : Fields
  events : Array Event

instance : Inhabited Journal := ⟨⟨[], #[]⟩⟩

namespace Journal

/-- The bound fields, overruled and followed by an event's own. -/
def withBound (j : Journal) (fields : Fields) : Fields :=
  fields ++ j.bound.filter fun p => (fields.find? p.1).isNone

/-- Makes an event. -/
def record (j : Journal) (level : Level) (logger text : String) (fields : Fields) : Journal :=
  { j with events := j.events.push ⟨level, logger, text, j.withBound fields⟩ }

/-- Binds fields for the events to come. -/
def bind (j : Journal) (fields : Fields) : Journal :=
  { j with bound := j.bound.putAll fields }

/-- Takes bound fields away. -/
def unbind (j : Journal) (names : List String) : Journal :=
  { j with bound := names.foldl (fun m k => m.remove k) j.bound }

end Journal
end MarkupQuery
