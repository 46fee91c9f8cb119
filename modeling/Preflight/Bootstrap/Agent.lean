import Preflight.Bootstrap.Lifecycle

/-! A started agent and its shutdown. -/
namespace Preflight

structure Agent (π : Type) where
  plugins : List π
  /-- The elements registered when the last checkpoint was reached. -/
  pipeline : Pipeline
  running : Bool := true
deriving Repr

namespace Agent
variable {β π γ σ : Type}

/-- Stops all plugins once. The agent counts as stopped as soon as it begins to stop, also when an
interrupt ends the shutdown; another shutdown does nothing. -/
def shutdown (L : Lifecycle β π γ σ) (a : Agent π) (s : σ) :
    EStateM.Result Fault σ Unit × Agent π :=
  if a.running then
    match L.stopAll a.plugins s with
    | .ok failures s =>
      (.ok () (L.log (.agentStopped (L.names a.plugins) failures) s), { a with running := false })
    | .error f s => (.error f s, { a with running := false })
  else (.ok () s, a)

end Agent
end Preflight
