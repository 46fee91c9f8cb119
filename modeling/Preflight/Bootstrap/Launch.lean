import Preflight.Bootstrap.Agent

/-! The bootstrap of an agent: all plugins are constructed, then all are started, and the pipeline
is taken as it is then; the listeners of a checkpoint are called after each of these. A fault ends
the bootstrap, and the plugins that had started are stopped again. -/
namespace Preflight

/-- Where a bootstrap is. -/
inductive Stage where
  | constructing
  | starting
  | notifying (c : Checkpoint)
deriving DecidableEq, Repr

def Stage.word : Stage → String
  | constructing => "init_plugins"
  | starting => "start_plugins"
  | notifying c => c.word

/-- A fault, the stage it arose in, and the plugins that had started by then. -/
structure Setback (π : Type) where
  fault : Fault
  stage : Stage
  started : List π

namespace Lifecycle
variable {β π γ σ : Type} {c : Checkpoint} (L : Lifecycle β π γ σ)

/-- Calls listeners one after the other, each with the view that the one before it left. -/
def notifyAll : List γ → View π c → EStateM Fault σ Unit
  | [], _ => pure ()
  | l :: rest, view => do
    let s ← get
    let view ← L.notify l (view.refresh (L.host s).metrics)
    notifyAll rest view

/-- Those who listen when the checkpoint is reached are called, and no one who comes later. -/
def reach (view : View π c) : EStateM Fault σ Unit := do
  let s ← get
  let listeners := L.listeners c s
  modify (L.log (.checkpointReached c listeners.length))
  L.notifyAll listeners view

def during {α : Type} (stage : Stage) (started : List π) (act : EStateM Fault σ α) :
    EStateM (Setback π) σ α :=
  act.adaptExcept fun fault => { fault, stage, started }

def notifying (started : List π) (view : View π c) : EStateM (Setback π) σ Unit :=
  during (.notifying c) started (L.reach view)

def startEach (started : List π) : List π → EStateM (Setback π) σ Unit
  | [] => pure ()
  | p :: rest => do
    during .starting started (L.start p)
    startEach (started ++ [p]) rest

def load (plan : List β) : EStateM (Setback π) σ (List π) := do
  let plugins ← during .constructing [] (plan.mapM L.construct)
  modify (L.log (.pluginsConstructed (L.names plugins)))
  L.notifying [] (.loaded plugins)
  return plugins

def startAll (plugins : List π) : EStateM (Setback π) σ Unit := do
  L.startEach [] plugins
  let s ← get
  modify (L.log (.pluginsStarted plugins.length (L.host s).metrics.size))
  L.notifying plugins (.started plugins (L.host s).metrics)

def assemble (plugins : List π) : EStateM (Setback π) σ (Agent π) := do
  let s ← get
  let pipeline := (L.host s).pipeline
  L.notifying plugins (.assembled pipeline)
  return { plugins, pipeline }

def boot (plan : List β) : EStateM (Setback π) σ (Agent π) := do
  let plugins ← L.load plan
  L.startAll plugins
  L.assemble plugins

/-- Boots an agent. After an ordinary fault the started plugins are stopped; an interrupt passes
through at once, be it from the bootstrap or from a plugin that is being stopped. -/
def launch (plan : List β) : EStateM Fault σ (Agent π) := fun s =>
  match L.boot plan s with
  | .ok agent s => .ok agent (L.log (.agentStarted (L.host s).pipeline) s)
  | .error setback s =>
    if setback.fault.isInterrupt then .error setback.fault s
    else
      match L.stopAll setback.started
          (L.log (.bootstrapFailed setback.stage.word setback.fault) s) with
      | .ok _ s => .error setback.fault s
      | .error f s => .error f s

theorem launch_of_ok {plan : List β} {s t : σ} {agent : Agent π} (h : L.boot plan s = .ok agent t) :
    L.launch plan s = .ok agent (L.log (.agentStarted (L.host t).pipeline) t) := by
  simp [launch, h]

theorem launch_of_interrupt {plan : List β} {s t : σ} {setback : Setback π}
    (h : L.boot plan s = .error setback t) (hf : setback.fault.isInterrupt = true) :
    L.launch plan s = .error setback.fault t := by
  simp [launch, h, hf]

theorem launch_of_fault {plan : List β} {s t u : σ} {setback : Setback π} {failures : List String}
    (h : L.boot plan s = .error setback t) (hf : setback.fault.isInterrupt = false)
    (hstop : L.stopAll setback.started
      (L.log (.bootstrapFailed setback.stage.word setback.fault) t) = .ok failures u) :
    L.launch plan s = .error setback.fault u := by
  simp [launch, h, hf, hstop]

theorem launch_of_broken_stop {plan : List β} {s t u : σ} {setback : Setback π} {f : Fault}
    (h : L.boot plan s = .error setback t) (hf : setback.fault.isInterrupt = false)
    (hstop : L.stopAll setback.started
      (L.log (.bootstrapFailed setback.stage.word setback.fault) t) = .error f u) :
    L.launch plan s = .error f u := by
  simp [launch, h, hf, hstop]

end Lifecycle
end Preflight
