import MarkupQuery.Journal.Labelled
import MarkupQuery.Json.Writer
import MarkupQuery.Settings.Basic
import MarkupQuery.Text.Lines

/-!
# Written events

An event is written with labels in its fields, and with its level, its logger and its time, which
win over fields of the same names. In a log file it is a record of plain data, in which whatever else
is present in its printed form. On the console it is a line: the time, the level and the text in
columns, the logger, and the fields in the order of their names. An event that cannot be written is
left out.
-/

namespace MarkupQuery

namespace Value

/-- A record key as text. Only plain scalars can be one. -/
def keyText? : Value → Option String
  | .absent => some (Json.keyText .null)
  | .truth b => some (Json.keyText (.bool b))
  | .whole i => some (Json.keyText (.int i))
  | .fraction x => some (Json.keyText (.fraction x))
  | .text s => some s
  | _ => none

mutual
/-- A value as plain data: sequences are lists, record keys are texts, of which the last counts, and
what is no plain data is printed. -/
def plainData? : Value → Option Datum
  | .absent => some .null
  | .truth b => some (.bool b)
  | .whole i => some (.int i)
  | .fraction x => some (.fraction x)
  | .text s => some (.text s)
  | .list items => (plainItems? items).map .list
  | .tuple items => (plainItems? items).map .list
  | .record fields => (plainFields? fields).map .ofFields
  | .node n => some (.text n.printed)
  | .location l => some (.text l.printed)
  | .selector name => some (.text (Value.selector name).printed)
  | .feed id => some (.text (Value.feed id).printed)

def plainItems? : List Value → Option (List Datum)
  | [] => some []
  | v :: vs => do
    let d ← v.plainData?
    some (d :: (← plainItems? vs))

def plainFields? : List (Value × Value) → Option (List (Datum × Datum))
  | [] => some []
  | (k, v) :: rest => do
    let key ← k.keyText?
    let d ← v.plainData?
    some ((.text key, d) :: (← plainFields? rest))
end

/-- Whether a text can stand on a console line without quotes. -/
def standsBare (s : String) : Bool :=
  s.toList.all fun c =>
    Text.isPrintable c && !(c == ' ' || c == '=' || c == '\'' || c == '"' || c == '\\')

/-- A field's value on a console line. -/
def consoleText : Value → String
  | .text s => if standsBare s then s else Text.quoted s
  | v => v.printed

end Value

namespace Event

/-- The names that no field of an event's own can take: every event has the first four, and the
last is used up on the way. -/
def reservedNames : List String :=
  ["event", "level", "logger", "timestamp", "exc_info"]

/-- The fields of a written event, without those that every event has. -/
def ownFields (e : Event) : Fields :=
  e.fields.described.filter fun p => !reservedNames.contains p.1

/-- The name of the logger of a written event. A logger without a name is the root of all. -/
def loggerName (e : Event) : String := if e.logger.isEmpty then "root" else e.logger

/-- An event as a record, with a datum for its time. -/
def record? (e : Event) (time : Datum) : Option Datum := do
  let own ← e.ownFields.mapM fun p => do some (Datum.text p.1, ← p.2.plainData?)
  some (.ofFields ([(.text "event", .text e.text), (.text "level", .text e.level.lowerName),
    (.text "logger", .text e.loggerName), (.text "timestamp", time)] ++ own))

/-- A text filled up with spaces to a width. -/
def padded (width : Nat) (s : String) : String :=
  s ++ String.ofList (List.replicate (width - s.length) ' ')

/-- A text without the spaces at its end. -/
def trimmed (s : String) : String :=
  String.ofList (s.toList.reverse.dropWhile (· == ' ')).reverse

/-- The fields that a console line has no place for; their texts follow below it. -/
def attachedNames : List String := ["stack", "exception"]

/-- An attached text, if there is one; other values cannot be attached. -/
def attached? (e : Event) (name : String) : Option (List String) :=
  match e.ownFields.find? name with
  | none | some .absent => some []
  | some (.text s) => some [s]
  | some _ => none

/-- The console line of an event, with a text for its time. -/
def consoleLine (e : Event) (time : String) : String :=
  let fields := (e.ownFields.filter fun p => !attachedNames.contains p.1).mergeSort fun p q => p.1 ≤ q.1
  let (others, named) := fields.partition fun p => p.1 = "logger_name"
  trimmed (String.intercalate " "
    ([time, "[" ++ padded 9 e.level.lowerName ++ "]", padded 30 e.text, "[" ++ e.loggerName ++ "]"] ++
      others.map (fun p => "[" ++ p.2.bare ++ "]") ++
      named.map fun p => p.1 ++ "=" ++ p.2.consoleText))

/-- What the console shows of an event, with a text for its time: its line, which is several if there
are ends of lines in its text, and the attached texts. A ruler stands between these. -/
def consoleLines? (e : Event) (time : String) : Option (List String) := do
  let stack ← e.attached? "stack"
  let exception ← e.attached? "exception"
  let ruler := if stack.isEmpty || exception.isEmpty then []
    else ["", String.ofList (List.replicate 79 '='), ""]
  some (Text.lines (String.intercalate "\n" (e.consoleLine time :: stack ++ ruler ++ exception)))

end Event

namespace Journal

/-- The events of a level or above. -/
def atLeast (j : Journal) (level : Level) : List Event :=
  j.events.toList.filter fun e => level.rank ≤ e.level.rank

/-- The event that the journal begins with once it is known where events go. -/
def opening (j : Journal) (log : LogSettings) : Journal :=
  j.record .info "chisel.observability.logging" "Logging configured"
    [("output", .text (log.file.getD "stdout"))]

end Journal
end MarkupQuery
