import Preflight.Checkpoint

/-! A function that is called at one checkpoint, in the form in which observers register: an
object with one method, which takes the checkpoint's view by name. -/
namespace Preflight

structure Callback where
  checkpoint : Checkpoint
  /-- The display of the function. -/
  function : String
deriving DecidableEq, Repr

namespace Callback

def display (c : Callback) : String :=
  "CheckpointHookImpl(" ++ c.checkpoint.word ++ ", " ++ c.function ++ ")"

def methods (c : Callback) : List String := [c.checkpoint.hookName]

def accepts (c : Callback) (viewName : String) : Bool := viewName == c.checkpoint.viewName

/-- What the function is given when the method is called with `view` under a name. -/
def receive {α : Type} (c : Callback) (viewName : String) (view : α) : Option α :=
  if c.accepts viewName then some view else none

end Callback
end Preflight
