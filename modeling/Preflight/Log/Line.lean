import Preflight.Json.Writer
import Preflight.Log.Event
import Preflight.Text.Split
import Preflight.Value

/-! The printed form of an event: a JSON object, or columns for the eye. The time stamp is masked
as `<ts>`. -/
namespace Preflight.Log

inductive Style where
  | json | columns
deriving DecidableEq, Repr, Inhabited

def timestamp : String := "<ts>"

/-- Fields that steer the printing and are not printed themselves. -/
def steeringKeys : List String := ["_record", "_from_structlog", "stack_info", "exc_info"]

/-- The fields with the message, level and time stamp behind them. A field that has the name of one
of these is overwritten where it stands. -/
def Event.entries (e : Event) : List (String × Datum) :=
  let told := match e.message with
    | .null => e.fields
    | d => Entries.put "event" d e.fields
  Entries.without steeringKeys
    (Entries.put "timestamp" (.text timestamp) (Entries.put "level" (.text e.level.word) told))

def Event.jsonLine (e : Event) : String := Json.write (.record e.entries)

/-! ## Columns -/

/-- Characters that make a bare text ambiguous in a column. -/
def needsQuotes (c : Char) : Bool := " \t=\r\n\"'".toList.contains c

def columnValue : Datum → String
  | .text s => if s.toList.any needsQuotes then Text.quote s else s
  | d => d.display

def column (key : String) (d : Datum) : String := key ++ "=" ++ columnValue d

def padTo (width : Nat) (s : String) : String := .ofList (s.toList.rightpad width ' ')

/-- The columns in front of the sorted ones: their keys, and how each shows its value. A field
without a name stands before all. -/
def leadingColumns (level : Level) : List (String × (Datum → String)) :=
  let bracketed (d : Datum) : String := "[" ++ d.plainText ++ "]"
  [("", column ""),
    ("timestamp", Datum.plainText),
    ("level", fun _ => "[" ++ padTo 9 level.word ++ "]"),
    ("event", fun d => padTo 30 d.plainText),
    ("logger", bracketed),
    ("logger_name", bracketed)]

/-- Fields that are printed below the columns. -/
def belowKeys : List String := ["stack", "exception"]

def Event.columns (e : Event) : List String :=
  let entries := Entries.without belowKeys e.entries
  let leading := leadingColumns e.level
  let others := Entries.without (Entries.keys leading) entries
  leading.filterMap (fun (key, shown) => (Entries.get? key entries).map shown) ++
    (others.mergeSort fun a b => !(b.1 < a.1)).map fun f => column f.1 f.2

def trimBlanks (s : String) : String :=
  .ofList (s.toList.reverse.dropWhile (· == ' ')).reverse

/-- A field that begins a line of its own below the columns. There can be none unless it is a text
or null. -/
def Event.below? (key : String) (e : Event) : Option String :=
  match Entries.get? key e.fields with
  | none | some .null => some ""
  | some (.text s) => some ("\n" ++ s)
  | some _ => none

def ruler : String := "\n\n" ++ .ofList (List.replicate 79 '=') ++ "\n"

/-- The columns, and below them a stack and an exception, with a line between the two. -/
def Event.columnText? (e : Event) : Option String := do
  let stack ← e.below? "stack"
  let exception ← e.below? "exception"
  let marked := ((Entries.get? "exc_info" e.fields).any (!·.isTrivial)) || !exception.isEmpty
  let between := if !stack.isEmpty && marked then ruler else ""
  return trimBlanks (" ".intercalate (e.columns.filter (!·.isEmpty))) ++ stack ++ between ++
    exception

def Event.text? (e : Event) : Style → Option String
  | .json => some e.jsonLine
  | .columns => e.columnText?

/-- The printed lines of an event: a line break inside a column splits it. An event that cannot be
printed has none. -/
def Event.lines (e : Event) (style : Style) : List String :=
  ((e.text? style).map (Text.split "\n")).getD []

end Preflight.Log
