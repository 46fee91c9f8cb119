import Preflight.Log.Call
import Preflight.Log.Line
import Preflight.Settings.Basic
import Preflight.Text.Casing
import Preflight.Text.Split

/-! Where log events go: the levels of the root and of the quiet loggers, and the handlers of the
root, each of which prints in one style. -/
namespace Preflight.Log

/-- Loggers of dependencies that are kept at warnings or above. -/
def quietLoggers : List String := ["dynaconf", "pluggy"]

def warningRank : Nat := Level.warning.rank

structure Routing where
  root : Nat := warningRank
  handlers : List Style := []
  /-- Levels of loggers of their own; zero stands for none. -/
  levels : List (String × Nat) := quietLoggers.map (·, 0)
deriving DecidableEq, Repr, Inhabited

/-- The names by which a level can be configured. -/
def levelRanks : List (String × Nat) :=
  [("CRITICAL", 50), ("FATAL", 50), ("ERROR", 40), ("WARNING", 30), ("WARN", 30), ("INFO", 20),
    ("DEBUG", 10), ("NOTSET", 0)]

def rankOf? (level : String) : Option Nat := Entries.get? (Text.upper level) levelRanks

/-- The names that the parts of a name make, the longest first; the parts are given last first. An
empty part hides the next shorter name. -/
def ancestors : List String → List String
  | [] => []
  | [part] => [part]
  | part :: next :: rest =>
    ".".intercalate (part :: next :: rest).reverse ::
      (if part.isEmpty then ancestors rest else ancestors (next :: rest))

/-- A name and those of its dotted ancestors, nearest first. -/
def lineage (logger : String) : List String :=
  logger :: ancestors (Text.split "." logger).reverse.tail

namespace Routing

/-- One handler of the style in the settings takes the place of all others. -/
def configure (settings : Settings.LoggingSettings) (r : Routing) : Except Fault Routing :=
  match rankOf? settings.level with
  | none => .error (.unknownLevel settings.level)
  | some rank =>
    .ok { root := rank
          handlers := [if settings.json then .json else .columns]
          levels := quietLoggers.foldl (fun ls name => Entries.put name (max rank warningRank) ls)
            r.levels }

/-- The settings that can be given by name. -/
def settingNames : List String := ["level", "json_output"]

/-- Configures from settings given by name, of any type. -/
def configureBy (given : List (String × Datum)) (r : Routing) : Except Fault Routing :=
  let usual : Settings.LoggingSettings := {}
  let json := ((Entries.get? "json_output" given).map (!·.isTrivial)).getD usual.json
  match (Entries.keys given).find? (!settingNames.contains ·), Entries.get? "level" given with
  | some name, _ => .error (.notParameter name)
  | none, none => r.configure { usual with json }
  | none, some (.text level) => r.configure { level, json }
  | none, some d => .error (.lacks d.typeName "upper")

def ownLevel (r : Routing) (logger : String) : Nat := (Entries.get? logger r.levels).getD 0

/-- The level of the nearest ancestor that has one, or the root's. -/
def levelOf (r : Routing) (logger : String) : Nat :=
  (((lineage logger).map r.ownLevel).find? (· ≠ 0)).getD r.root

def prints (r : Routing) (logger : String) (level : Level) : Bool := r.levelOf logger ≤ level.rank

/-- The lines an event of a logger prints. -/
def lines (r : Routing) (logger : String) (e : Event) : List String :=
  if r.prints logger e.level then r.handlers.flatMap e.lines else []

/-- A structured logger makes the event first, whether it is printed or not. -/
def logStructured (r : Routing) (logger : String) (c : Call) : Except Fault (List String) := do
  return r.lines logger (← c.event)

/-- A plain logger fills in the arguments when it prints, and prints nothing if that fails. Its
message is a text, whatever it was made from. -/
def logPlain (r : Routing) (logger : String) (method : Method) (message : Datum)
    (args : List Datum) : List String :=
  match Text.fillList message.plainText args with
  | .error _ => []
  | .ok text => r.lines logger { level := method.level, message := .text text }

end Routing
end Preflight.Log
