import Preflight.Datum

/-! The settings of an agent: which plugins to load with what configuration, and how to log. -/
namespace Preflight.Settings

structure LoggingSettings where
  level : String := "INFO"
  json : Bool := false
deriving DecidableEq, Repr, Inhabited

structure PluginSettings where
  enabled : Bool := true
  config : List (String × Datum) := []
deriving Repr, Inhabited

structure AgentSettings where
  plugins : List (String × PluginSettings) := []
  logging : LoggingSettings := {}
deriving Repr, Inhabited

/-- The plugins to load, in the order of the settings. -/
def AgentSettings.enabledPlugins (a : AgentSettings) : List String :=
  (a.plugins.filter (·.2.enabled)).map (·.1)

def LoggingSettings.toDatum (l : LoggingSettings) : Datum :=
  .record [("level", .text l.level), ("json_output", .bool l.json)]

def PluginSettings.toDatum (p : PluginSettings) : Datum :=
  .record [("enabled", .bool p.enabled), ("config", .record p.config)]

def AgentSettings.toDatum (a : AgentSettings) : Datum :=
  .record [("plugins", .record (a.plugins.map fun p => (p.1, p.2.toDatum))),
    ("logging", a.logging.toDatum)]

end Preflight.Settings
