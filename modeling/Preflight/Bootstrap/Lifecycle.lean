import Preflight.Bootstrap.Report
import Preflight.Host

/-! What an agent's life consists of. Plugins and listeners are arbitrary programs on a state of
any kind: each returns or ends in a fault, and the state after it is kept in both cases. -/
namespace Preflight

/-- What a listener sees at its checkpoint. -/
inductive View (π : Type) : Checkpoint → Type where
  | loaded (plugins : List π) : View π .pluginsLoaded
  | started (plugins : List π) (metrics : Registry) : View π .pluginsStarted
  | assembled (pipeline : Pipeline) : View π .operationBegins

namespace View
variable {π α : Type} {c : Checkpoint}

def map (f : π → α) : View π c → View α c
  | loaded plugins => loaded (plugins.map f)
  | started plugins metrics => started (plugins.map f) metrics
  | assembled pipeline => assembled pipeline

/-- The view in the present state of the registry. The pipeline is a picture taken once. -/
def refresh (metrics : Registry) : View π c → View π c
  | loaded plugins => loaded plugins
  | started plugins _ => started plugins metrics
  | assembled pipeline => assembled pipeline

/-- The view with an empty list of plugins, where the list is a listener's to change. The lists of
a pipeline are given out as copies, and a started agent gives out no sources. -/
def clear : View π c → Except Fault (View π c)
  | loaded _ => .ok (loaded [])
  | started .. => .error (.lacks "StartupInspection" "sources")
  | assembled pipeline => .ok (assembled pipeline)

end View

/-- Plugins `π` made from `β`, and listeners `γ`, over a state `σ`. -/
structure Lifecycle (β π γ σ : Type) where
  name : π → String
  construct : β → EStateM Fault σ π
  start : π → EStateM Fault σ Unit
  stop : π → EStateM Fault σ Unit
  /-- Who would be called at a checkpoint, in the order of the calls. -/
  listeners : Checkpoint → σ → List γ
  /-- Calls a listener; the answer is the view that it leaves to the next one. -/
  notify : {c : Checkpoint} → γ → View π c → EStateM Fault σ (View π c)
  /-- What the plugins have registered. -/
  host : σ → Host
  log : Log.Event → σ → σ

namespace Lifecycle
variable {β π γ σ : Type} (L : Lifecycle β π γ σ)

def names (plugins : List π) : List String := plugins.map L.name

/-- Stops plugins in the order given. One that fails is logged and skipped; the answer names
those. An interrupt is not caught, so that the plugins after it are not stopped. -/
def stopEach : List π → EStateM Fault σ (List String)
  | [] => pure []
  | p :: rest => fun s =>
    match L.stop p s with
    | .ok _ s => stopEach rest s
    | .error f s =>
      if f.isInterrupt then .error f s
      else ((L.name p :: ·) <$> stopEach rest) (L.log (.stopFailed (L.name p) f) s)

theorem stopEach_cons_of_ok {p : π} {u : Unit} {s t : σ} (h : L.stop p s = .ok u t)
    (rest : List π) : L.stopEach (p :: rest) s = L.stopEach rest t := by
  simp [stopEach, h]

theorem stopEach_cons_of_interrupt {p : π} {f : Fault} {s t : σ} (h : L.stop p s = .error f t)
    (hf : f.isInterrupt = true) (rest : List π) :
    L.stopEach (p :: rest) s = .error f t := by
  simp [stopEach, h, hf]

theorem stopEach_cons_of_fault {p : π} {f : Fault} {s t : σ} (h : L.stop p s = .error f t)
    (hf : f.isInterrupt = false) (rest : List π) :
    L.stopEach (p :: rest) s =
      ((L.name p :: ·) <$> L.stopEach rest) (L.log (.stopFailed (L.name p) f) t) := by
  simp [stopEach, h, hf]

/-- Stops plugins in the reverse of the order in which they were started. -/
def stopAll (started : List π) : EStateM Fault σ (List String) := L.stopEach started.reverse

end Lifecycle
end Preflight
