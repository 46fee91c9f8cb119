import Preflight.Metric

/-! The ways in which an agent can differ from what a test expects, and how each is reported. -/
namespace Preflight

inductive Violation where
  | missingPlugin (name : String)
  | missingMetric (name : String)
  /-- The look-up of a name answered with a metric of another name. -/
  | misfiledMetric (name : String) (found : Metric)
  | unitDiffers (name : String) (expected actual : ScaledUnit)
  | measurementDiffers (name : String) (expected actual : Measurement)
  /-- Both lists are sorted; the expected one has no name twice. -/
  | elementsDiffer (kind : ElementKind) (expected actual : List ElementName)
deriving DecidableEq, Repr

namespace Violation

/-- Names of the first list that the second one lacks. -/
def lacking (names others : List ElementName) : List ElementName :=
  names.filter fun n => !others.contains n

def paths (kind : ElementKind) (names : List ElementName) : String :=
  Text.quoteList (names.map (·.path kind))

def unfulfilled (what : String) : String := "StartupExpectations not fulfilled: " ++ what

def message : Violation → String
  | missingPlugin name => unfulfilled ("plugin " ++ name ++ " not found")
  | missingMetric name => unfulfilled ("missing metric `" ++ name ++ "`")
  | misfiledMetric name found =>
    "MetricRegistry is inconsistent: lookup by name " ++ name ++ " returned " ++ found.display
  | unitDiffers name expected actual =>
    unfulfilled ("metric " ++ name ++ " should have unit " ++ expected.code ++ ", not " ++
      actual.code)
  | measurementDiffers name expected actual =>
    unfulfilled ("metric " ++ name ++ " should have type " ++ expected.code ++ ", not " ++
      actual.code)
  | elementsDiffer kind expected actual =>
    "registered " ++ kind.plural ++ " do not match what you requested\n  expected: " ++
      paths kind expected ++ "\n  actual:   " ++ paths kind actual ++ "\n  missing: " ++
      paths kind (lacking expected actual) ++ ", unexpected: " ++
      paths kind (lacking actual expected)

/-- What was checked. -/
def topic : Violation → String
  | missingPlugin _ => "plugin"
  | missingMetric _ | unitDiffers .. | measurementDiffers .. => "metric"
  | misfiledMetric .. => "registry"
  | elementsDiffer kind .. => kind.word

/-- The metric, the plugin or the kind of elements at fault. -/
def subject : Violation → String
  | missingPlugin name | missingMetric name | misfiledMetric name _ | unitDiffers name ..
  | measurementDiffers name .. => name
  | elementsDiffer kind .. => kind.plural

def elementValues (kind : ElementKind) (names : List ElementName) : Value :=
  .list (names.map fun n => .element ⟨kind, n⟩)

/-- The declared value, if the violation is a difference of two values. -/
def expected : Violation → Value
  | missingPlugin _ | missingMetric _ => .null
  | misfiledMetric name _ => .text name
  | unitDiffers _ e _ => .unit e
  | measurementDiffers _ e _ => .measurement e
  | elementsDiffer kind e _ => elementValues kind e

/-- The value found, if the violation is a difference of two values. -/
def actual : Violation → Value
  | missingPlugin _ | missingMetric _ => .null
  | misfiledMetric _ found => .text found.name
  | unitDiffers _ _ a => .unit a
  | measurementDiffers _ _ a => .measurement a
  | elementsDiffer kind _ a => elementValues kind a

end Violation
end Preflight
