import Preflight.Value

/-! A registered metric, and the part of one that a test can expect. -/
namespace Preflight
open Text (quote)

structure Metric where
  name : String
  measurement : Measurement
  unit : ScaledUnit
  description : String := ""
deriving DecidableEq, Repr

def Metric.display (m : Metric) : String :=
  "MetricDefinition(name=" ++ quote m.name ++ ", value_type=" ++ m.measurement.display ++
    ", unit=" ++ m.unit.display ++ ", description=" ++ quote m.description ++ ")"

structure ExpectedMetric where
  name : String
  measurement : Measurement
  unit : ScaledUnit
deriving DecidableEq, Repr

def ExpectedMetric.display (m : ExpectedMetric) : String :=
  "ExpectedMetric(name=" ++ quote m.name ++ ", value_type=" ++ m.measurement.display ++
    ", unit=" ++ m.unit.display ++ ")"

end Preflight
