/-! The points of the startup at which listeners are called, in the order they are reached. -/
namespace Preflight

inductive Checkpoint where
  /-- Every plugin is constructed, none started. -/
  | pluginsLoaded
  /-- Every plugin is started. -/
  | pluginsStarted
  /-- The pipeline is built and not yet running. -/
  | operationBegins
deriving DecidableEq, Repr, Inhabited

namespace Checkpoint

def all : List Checkpoint := [.pluginsLoaded, .pluginsStarted, .operationBegins]

def word : Checkpoint → String
  | pluginsLoaded => "after_plugins_init"
  | pluginsStarted => "after_plugins_start"
  | operationBegins => "before_operation_begin"

def label : Checkpoint → String
  | pluginsLoaded => "AFTER_PLUGINS_INIT"
  | pluginsStarted => "AFTER_PLUGINS_START"
  | operationBegins => "BEFORE_OPERATION_BEGIN"

/-- The name of the method by which an observer listens to the checkpoint. -/
def hookName (c : Checkpoint) : String := "meterline_" ++ c.word

/-- The name of the view that the method is given. -/
def viewName : Checkpoint → String
  | pluginsLoaded => "plugins"
  | pluginsStarted => "startup"
  | operationBegins => "pipeline"

def ofWord? (word : String) : Option Checkpoint := all.find? (·.word == word)

theorem ofWord?_word (c : Checkpoint) : ofWord? c.word = some c := by cases c <;> decide

end Checkpoint
end Preflight
