import Preflight.Expectation.Declared
import Preflight.Registry

/-! The checks of an agent against what is expected of it. Each reports its first violation, in the
order of declaration; of the elements, the kinds are taken in their order. -/
namespace Preflight.Expectations

def checkPlugin (loaded : List String) (name : String) : Except Violation Unit :=
  if loaded.contains name then .ok () else .error (.missingPlugin name)

/-- Every expected plugin is loaded. Others may be. -/
def checkPlugins (e : Expectations) (loaded : List String) : Except Violation Unit :=
  e.plugins.forM (checkPlugin loaded)

def checkMetric (lookup : String → Option Metric) (m : ExpectedMetric) : Except Violation Unit :=
  match lookup m.name with
  | none => .error (.missingMetric m.name)
  | some found =>
    if found.name ≠ m.name then .error (.misfiledMetric m.name found)
    else if found.unit ≠ m.unit then .error (.unitDiffers m.name m.unit found.unit)
    else if found.measurement ≠ m.measurement then
      .error (.measurementDiffers m.name m.measurement found.measurement)
    else .ok ()

/-- Every expected metric is found under its name, with its unit and its kind of value. -/
def checkMetrics (e : Expectations) (lookup : String → Option Metric) : Except Violation Unit :=
  e.metrics.forM (checkMetric lookup)

/-- The names that count for a comparison: all but the harness's own source. -/
def counted (kind : ElementKind) (names : List ElementName) : List ElementName :=
  match kind with
  | .source => names.filter (· ≠ .harness)
  | _ => names

/-- Compares sorted lists. A name declared twice asks for it once. -/
def checkKind (e : Expectations) (actual : Pipeline) (kind : ElementKind) :
    Except Violation Unit :=
  let expected := ElementName.sort (e.elements.names kind).eraseDups
  let found := ElementName.sort (counted kind (actual.names kind))
  if found = expected then .ok () else .error (.elementsDiffer kind expected found)

/-- The registered elements are exactly the expected ones. -/
def checkElements (e : Expectations) (actual : Pipeline) : Except Violation Unit :=
  ElementKind.all.forM (checkKind e actual)

end Preflight.Expectations
