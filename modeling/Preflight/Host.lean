import Preflight.Pipeline
import Preflight.Registry

/-! What starting plugins share: the metrics and the pipeline elements registered so far, and the
requests by which a plugin reads and extends them. A plugin registers elements under its own name
and metrics under names that all plugins share. -/
namespace Preflight

structure Host where
  metrics : Registry := {}
  pipeline : Pipeline := {}
deriving DecidableEq, Repr, Inhabited

inductive Request where
  | metric (name : String) (type unit : Value) (description : String)
  | element (kind : ElementKind) (label : String)
  | byName (name : Value)
  | byId (id : Value)
  | pluginName
  /-- Gives up with a fault of the plugin's own. -/
  | fail (f : Fault)

inductive Reply where
  | id (n : Nat)
  | element (e : Element)
  | entry (found : Option (Nat × Metric))
  | metric (found : Option Metric)
  | name (s : String)
deriving DecidableEq, Repr

namespace Host

def setMetrics (metrics : Registry) (h : Host) : Host := { h with metrics }

def setPipeline (pipeline : Pipeline) (h : Host) : Host := { h with pipeline }

/-- The type is read first, then the unit; last the name must be free. -/
def createMetric (name : String) (type unit : Value) (description : String) :
    EStateM Fault Host Nat := do
  let measurement ← ofExcept (Measurement.ofValue type)
  let unit ← ofExcept (ScaledUnit.ofValue unit)
  onPart metrics setMetrics (Registry.register { name, measurement, unit, description })

def addElement (plugin : String) (kind : ElementKind) (label : String) :
    EStateM Fault Host ElementName := do
  onPart pipeline setPipeline (Pipeline.add kind ⟨plugin, label⟩)
  return ⟨plugin, label⟩

/-- Serves a request of `plugin`. -/
def serve (plugin : String) : Request → EStateM Fault Host Reply
  | .metric name type unit description => return .id (← createMetric name type unit description)
  | .element kind label => return .element ⟨kind, ← addElement plugin kind label⟩
  | .byName name => do return .entry (← ofExcept ((← get).metrics.find name))
  | .byId id => do return .metric (← ofExcept ((← get).metrics.metricAt id))
  | .pluginName => return .name plugin
  | .fail f => throw f

/-- Serves a request, and gives the host after it also when the request fails. -/
def answer (plugin : String) (q : Request) (h : Host) : Except Fault Reply × Host :=
  outcome (serve plugin q) h

end Host
end Preflight
