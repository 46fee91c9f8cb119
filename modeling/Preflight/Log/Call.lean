import Preflight.Fault
import Preflight.Log.Event

/-! Calls of a structured logger's methods, and the events that they make. A call gives a message,
arguments that fill it in, and named fields. -/
namespace Preflight.Log

inductive Method where
  | debug | info | warning | error | critical | fatal
deriving DecidableEq, Repr, Inhabited

namespace Method

def all : List Method := [.debug, .info, .warning, .error, .critical, .fatal]

def word : Method → String
  | debug => "debug"
  | info => "info"
  | warning => "warning"
  | error => "error"
  | critical => "critical"
  | fatal => "fatal"

def level : Method → Level
  | debug => .debug
  | info => .info
  | warning => .warning
  | error => .error
  | critical | fatal => .critical

/-- One method has an older name besides. -/
def ofWord? (word : String) : Option Method :=
  if word = "warn" then some warning else all.find? (·.word == word)

theorem ofWord?_word (m : Method) : ofWord? m.word = some m := by cases m <;> decide

end Method

structure Call where
  method : Method
  message : Datum
  args : List Datum := []
  fields : List (String × Datum) := []
deriving Repr

namespace Call

/-- Parameters that a call fills by their place, so that no field can have their names. -/
def placed : List String := ["self", "event"]

/-- The parameter that the call hands on to its logger in the same way. -/
def handedOn : String := "method_name"

/-- A fault if a field has the name of such a parameter; the first field counts. -/
def checkNames (c : Call) : Except Fault Unit :=
  match (Entries.keys c.fields).find? (placed.contains ·) with
  | some name => .error (.givenTwice c.method.word name)
  | none =>
    if handedOn ∈ Entries.keys c.fields then .error (.givenTwice "_proxy_to_logger" handedOn)
    else .ok ()

/-- The name of the field that may stand for the arguments. -/
def argumentsKey : String := "positional_args"

/-- Arguments in a field. A list of one record stands for the record; another list, and a text, is
filled in as a whole. -/
def fillingOf (d : Datum) : Except Fault (Option Text.Filling) :=
  if d.isTrivial then .ok none
  else
    match d with
    | .list [.record (f :: fs)] => .ok (some (.whole (.record (f :: fs))))
    | .list _ | .text _ => .ok (some (.whole d))
    | .record [_] => .error (.missingIndex 0)
    | .record _ => .ok (some (.whole d))
    | d => .error (.unsized d.typeName)

/-- The arguments of a call go before those in a field. -/
def filling? (c : Call) : Except Fault (Option Text.Filling) :=
  if c.args.isEmpty then fillingOf ((Entries.get? argumentsKey c.fields).getD .null)
  else .ok (some (.ofList c.args))

/-- The fields without the one for arguments, which stays only if it holds nothing. -/
def shownFields (c : Call) : List (String × Datum) :=
  if c.args.isEmpty && Entries.get? argumentsKey c.fields == some .null then c.fields
  else Entries.without [argumentsKey] c.fields

/-- A message with arguments filled in has to be a text. -/
def fillMessage (message : Datum) (filling : Text.Filling) : Except Fault Datum :=
  match message with
  | .null => .error (.missingKey "event")
  | .text template =>
    match Text.fill template filling with
    | .ok s => .ok (.text s)
    | .error e => .error (.badTemplate e)
  | d => .error (.unfillable d.typeName filling.typeName)

/-- The event of a call. -/
def event (c : Call) : Except Fault Event := do
  c.checkNames
  let message ← match ← c.filling? with
    | some filling => fillMessage c.message filling
    | none => pure c.message
  return { level := c.method.level, message, fields := c.shownFields }

theorem event_of_no_fields (method : Method) (message : Datum) :
    event { method, message } = .ok { level := method.level, message } := rfl

end Call
end Preflight.Log
