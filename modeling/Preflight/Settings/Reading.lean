import Preflight.Fault
import Preflight.Settings.Basic
import Preflight.Text.Casing

/-! Reading data as settings. All issues are collected, in the order of the fields and, among
plugins, of the keys. Unknown keys are ignored and missing ones take their defaults. -/
namespace Preflight.Settings

/-- A result, or all that is wrong. -/
abbrev Verdict (α : Type) := Except (List Issue) α

namespace Verdict
variable {α β : Type}

def reject (p : Problem) : Verdict α := .error [⟨[], p⟩]

/-- Both results, or the issues of the first and then those of the second. -/
def both : Verdict α → Verdict β → Verdict (α × β)
  | .ok a, .ok b => .ok (a, b)
  | .ok _, .error is => .error is
  | .error is, .ok _ => .error is
  | .error is, .error js => .error (is ++ js)

def under (key : String) : Verdict α → Verdict α
  | .ok a => .ok a
  | .error is => .error (is.map (·.under key))

end Verdict

/-- What is under `key`, read by `read`; the default when there is nothing. -/
def field {α : Type} (key : String) (default : α) (read : Datum → Verdict α)
    (fields : List (String × Datum)) : Verdict α :=
  match Entries.get? key fields with
  | none => .ok default
  | some d => (read d).under key

def onWords : List String := ["1", "on", "t", "true", "y", "yes"]
def offWords : List String := ["0", "off", "f", "false", "n", "no"]

/-- A word for a state of a flag, in any ASCII case. -/
def flagOfWord? (word : String) : Option Bool :=
  if onWords.contains word.toLower then some true
  else if offWords.contains word.toLower then some false
  else none

/-- A number counts as a flag when it is whole and fits 64 bits; zero and one are its states. -/
def flagOfNumber (n : Int) : Verdict Bool :=
  if n = 0 then .ok false
  else if n = 1 then .ok true
  else if -Int.pow 2 63 ≤ n ∧ n < Int.pow 2 63 then Verdict.reject .unclearFlag
  else Verdict.reject .notFlag

def readFlag : Datum → Verdict Bool
  | .bool b => .ok b
  | .int n => flagOfNumber n
  | .float x =>
    match x.toInt? with
    | some n => if n = -Int.pow 2 63 then Verdict.reject .notFlag else flagOfNumber n
    | none => Verdict.reject .notFlag
  | .text s =>
    match flagOfWord? s with
    | some b => .ok b
    | none => Verdict.reject .unclearFlag
  | _ => Verdict.reject .notFlag

/-- A level in any case is kept in upper case. -/
def readLevel : Datum → Verdict String
  | .text s =>
    if levelNames.contains (Text.upper s) then .ok (Text.upper s)
    else Verdict.reject (.notLevel s)
  | _ => Verdict.reject .notText

def readRecord : Datum → Verdict (List (String × Datum))
  | .record fs => .ok fs
  | _ => Verdict.reject .notRecord

def readLogging : Datum → Verdict LoggingSettings
  | .record fs =>
    ((field "level" "INFO" readLevel fs).both (field "json_output" false readFlag fs)).map
      fun (level, json) => { level, json }
  | _ => Verdict.reject (.notModel .logging)

def readPlugin : Datum → Verdict PluginSettings
  | .record fs =>
    ((field "enabled" true readFlag fs).both (field "config" [] readRecord fs)).map
      fun (enabled, config) => { enabled, config }
  | _ => Verdict.reject (.notModel .plugin)

def readEntries : List (String × Datum) → Verdict (List (String × PluginSettings))
  | [] => .ok []
  | (key, d) :: rest =>
    (((readPlugin d).under key).both (readEntries rest)).map fun (p, ps) => (key, p) :: ps

def readPlugins : Datum → Verdict (List (String × PluginSettings))
  | .record fs => readEntries fs
  | _ => Verdict.reject .notRecord

def readAgent : Datum → Verdict AgentSettings
  | .record fs =>
    ((field "plugins" [] readPlugins fs).both (field "logging" {} readLogging fs)).map
      fun (plugins, logging) => { plugins, logging }
  | _ => Verdict.reject (.notModel .agent)

/-- A verdict on data read as a `model`, its issues made one fault. -/
def Verdict.orFault {α : Type} (model : Model) : Verdict α → Except Fault α
  | .ok a => .ok a
  | .error is => .error (.invalidSettings model is)

end Preflight.Settings
