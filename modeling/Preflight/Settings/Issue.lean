/-! What can be wrong with settings, and where. -/
namespace Preflight.Settings

/-- The three shapes that settings are read as. -/
inductive Model where
  | agent | plugin | logging
deriving DecidableEq, Repr

def Model.title : Model → String
  | agent => "AgentSettings"
  | plugin => "PluginSettings"
  | logging => "LoggingSettings"

/-- The levels that settings may name, in the order in which messages list them. -/
def levelNames : List String := ["CRITICAL", "DEBUG", "ERROR", "INFO", "WARNING"]

inductive Problem where
  | notModel (model : Model)
  | notRecord
  | notText
  | notLevel (text : String)
  /-- A value that no flag can be written as. -/
  | notFlag
  /-- A value of the right sort that names neither state of a flag. -/
  | unclearFlag
deriving DecidableEq, Repr

namespace Problem

def code : Problem → String
  | notModel _ => "model_type"
  | notRecord => "dict_type"
  | notText => "string_type"
  | notLevel _ => "value_error"
  | notFlag => "bool_type"
  | unclearFlag => "bool_parsing"

def message : Problem → String
  | notModel m => "Input should be a valid dictionary or instance of " ++ m.title
  | notRecord => "Input should be a valid dictionary"
  | notText => "Input should be a valid string"
  | notLevel text =>
    "Value error, Invalid log level '" ++ text ++ "', expected one of [" ++
      ", ".intercalate (levelNames.map fun n => "'" ++ n ++ "'") ++ "]"
  | notFlag => "Input should be a valid boolean"
  | unclearFlag => "Input should be a valid boolean, unable to interpret input"

end Problem

/-- A problem at the end of a path of keys. -/
structure Issue where
  path : List String
  problem : Problem
deriving DecidableEq, Repr

def Issue.under (key : String) (i : Issue) : Issue := { i with path := key :: i.path }

end Preflight.Settings
