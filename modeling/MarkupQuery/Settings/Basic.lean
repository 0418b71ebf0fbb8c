import MarkupQuery.Datum
import MarkupQuery.Journal.Event

/-!
# Settings

Which parser reads markup, whether selector caches keep what they compile, and where journal events
go and from which level on.
-/

namespace MarkupQuery

/-- The parsers that read markup. -/
inductive Backend where
  | htmlParser
  | lxml
  | html5lib
  | lxmlXml
  deriving DecidableEq, Repr, Inhabited

namespace Backend

def name : Backend → String
  | .htmlParser => "html.parser"
  | .lxml => "lxml"
  | .html5lib => "html5lib"
  | .lxmlXml => "lxml-xml"

def ofName? : String → Option Backend
  | "html.parser" => some .htmlParser
  | "lxml" => some .lxml
  | "html5lib" => some .html5lib
  | "lxml-xml" => some .lxmlXml
  | _ => none

/-- Whether a parser leaves a fragment as it is, without wrapping it in a document skeleton. -/
def keepsFragments : Backend → Bool
  | .htmlParser => true
  | .lxmlXml => true
  | _ => false

end Backend

/-- Where journal events go. -/
structure LogSettings where
  level : Level := .info
  file : Option String := none
  deriving DecidableEq, Repr, Inhabited

/-- The settings of the library. -/
structure Settings where
  projectName : String := "chisel"
  version : String := "0.1.0"
  backend : Backend := .htmlParser
  cacheEnabled : Bool := true
  log : LogSettings := {}
  deriving DecidableEq, Repr, Inhabited

namespace Settings

/-- The record of the log section. -/
def logDatum (log : LogSettings) : Datum :=
  .record [(.text "log_level", .text log.level.name),
    (.text "log_file", (log.file.map Datum.text).getD .null)]

/-- The record that settings are, in which every field is there. -/
def toDatum (s : Settings) : Datum :=
  .record [(.text "project_name", .text s.projectName), (.text "version", .text s.version),
    (.text "parser", .record [(.text "backend", .text s.backend.name)]),
    (.text "selectors", .record [(.text "cache_enabled", .bool s.cacheEnabled)]),
    (.text "log", logDatum s.log)]

end Settings
end MarkupQuery
