import Preflight.Pipeline
import Preflight.Coercion

/-! What a test expects of an agent, declared piece by piece until the expectations are attached to
a builder. Repeated declarations are kept. -/
namespace Preflight

structure Expectations where
  metrics : List ExpectedMetric := []
  plugins : List String := []
  elements : Pipeline := {}
  /-- Attached to a builder, so that nothing can be declared any more. -/
  attached : Bool := false
deriving DecidableEq, Repr, Inhabited

inductive Declaration where
  | metric (name : String) (type unit : Value)
  | metricAsGiven (metric : ExpectedMetric)
  | plugin (name : String)
  | element (kind : ElementKind) (name : ElementName)

namespace Expectations

/-- The expectations while they are open. -/
def open? (e : Expectations) : Except Fault Expectations :=
  if e.attached then .error .alreadyAttached else .ok e

def addMetric (m : ExpectedMetric) (e : Expectations) : Except Fault Expectations := do
  let e ← e.open?
  return { e with metrics := e.metrics ++ [m] }

/-- A metric's type and unit are read before it is asked whether the expectations are open. -/
def declare (d : Declaration) (e : Expectations) : Except Fault Expectations :=
  match d with
  | .metric name type unit => do
    let m ← ExpectedMetric.ofValues name type unit
    e.addMetric m
  | .metricAsGiven m => e.addMetric m
  | .plugin name => do
    let e ← e.open?
    return { e with plugins := e.plugins ++ [name] }
  | .element kind n => do
    let e ← e.open?
    return { e with elements := e.elements.push kind n }

/-- The expectations as the builder takes them over. -/
def attach (e : Expectations) : Except Fault Expectations := do
  let e ← e.open?
  return { e with attached := true }

end Expectations
end Preflight
