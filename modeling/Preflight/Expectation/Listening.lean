import Preflight.Audience
import Preflight.Bootstrap.Lifecycle
import Preflight.Expectation.Check

/-! Expectations as listeners of a bootstrap: each checkpoint has its check. -/
namespace Preflight.Expectations
variable {π γ σ : Type} {c : Checkpoint}

/-- The check of what a checkpoint shows. -/
def judge (name : π → String) (e : Expectations) : View π c → Except Violation Unit
  | .loaded plugins => e.checkPlugins (plugins.map name)
  | .started _ metrics => e.checkMetrics metrics.lookup
  | .assembled pipeline => e.checkElements pipeline

/-- A check that is passed is logged; a violation is a fault. -/
def conclude (log : Log.Event → σ → σ) (e : Expectations) (c : Checkpoint)
    (verdict : Except Violation Unit) : EStateM Fault σ Unit :=
  match verdict with
  | .ok _ => modify (log (.expectationsChecked e c))
  | .error v => throw (.unmet v)

def check (name : π → String) (log : Log.Event → σ → σ) (e : Expectations) (view : View π c) :
    EStateM Fault σ (View π c) := do
  e.conclude log c (e.judge name view)
  return view

/-- Takes the expectations over: they are closed, and listen at every checkpoint. -/
def attachTo (wrap : Expectations → γ) (e : Expectations) (a : Audience γ) :
    Except Fault (Expectations × Audience γ) := do
  let e ← e.attach
  let listener := wrap e
  return (e, ((a.listen .pluginsStarted listener).listen .pluginsLoaded listener).listen
    .operationBegins listener)

end Preflight.Expectations
