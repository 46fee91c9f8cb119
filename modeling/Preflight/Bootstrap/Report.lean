import Preflight.Checkpoint
import Preflight.Expectation.Declared
import Preflight.Log.Event

/-! The events by which an agent's life is logged. -/
namespace Preflight.Log.Event

/-- The logger of all of them. -/
def lifeLogger : String := "agent"

def failureFields (f : Fault) : List (String × Datum) :=
  [("error", .text f.message), ("error_type", .text f.kind)]

def pluginsConstructed (plugins : List String) : Event :=
  ⟨.info, .text "agent_plugins_initialized", [("plugins", .texts plugins)]⟩

def checkpointReached (c : Checkpoint) (listeners : Nat) : Event :=
  ⟨.debug, .text "agent_checkpoint_reached",
    [("checkpoint", .text c.word), ("callbacks", .int listeners)]⟩

def pluginsStarted (plugins metrics : Nat) : Event :=
  ⟨.info, .text "agent_plugins_started", [("plugins", .int plugins), ("metrics", .int metrics)]⟩

def bootstrapFailed (stage : String) (f : Fault) : Event :=
  ⟨.error, .text "agent_bootstrap_failed", ("stage", .text stage) :: failureFields f⟩

def stopFailed (plugin : String) (f : Fault) : Event :=
  ⟨.error, .text "agent_plugin_stop_failed", ("plugin", .text plugin) :: failureFields f⟩

def elementCounts (p : Pipeline) : List (String × Datum) :=
  ElementKind.all.map fun k => (k.plural, .int (p.names k).length)

def agentStarted (p : Pipeline) : Event := ⟨.info, .text "agent_started", elementCounts p⟩

def agentStopped (plugins failures : List String) : Event :=
  ⟨.info, .text "agent_stopped", [("plugins", .texts plugins), ("stop_failures", .texts failures)]⟩

/-- How many declarations were checked at a checkpoint. -/
def expectationsChecked (e : Expectations) (c : Checkpoint) : Event :=
  ⟨.debug, .text "startup_expectations_checked", ("checkpoint", .text c.word) ::
    match c with
    | .pluginsLoaded => [("plugins", .int e.plugins.length)]
    | .pluginsStarted => [("metrics", .int e.metrics.length)]
    | .operationBegins => elementCounts e.elements⟩

end Preflight.Log.Event
