import Preflight.Fault
import Preflight.Text.Casing

/-! Reading a caller's value as a measurement kind, a unit, a scale or a checkpoint. -/
namespace Preflight

/-- The type names that stand for a measurement kind. -/
def Measurement.ofTypeRef? : TypeRef → Option Measurement
  | .builtin "bool" => some .bool
  | .builtin "int" => some .u64
  | .builtin "float" => some .f64
  | _ => none

/-- A kind itself, a type that stands for one, or a code in any case. -/
def Measurement.ofValue (v : Value) : Except Fault Measurement :=
  match v with
  | .measurement m => .ok m
  | .type t =>
    match Measurement.ofTypeRef? t with
    | some m => .ok m
    | none => .error (.unsupportedType t.name)
  | v =>
    match v.text? with
    | some s =>
      match Measurement.ofCode? (Text.lower s) with
      | some m => .ok m
      | none => .error (.unknownMeasurement (Text.lower s))
    | none => .error (.notMeasurement v)

/-- A text as a unit code. Bytes and tuples are no codes either, but could be looked up and taken
apart like one; any other value fails at the first of the two that it does not allow. -/
def ScaledUnit.parse (v : Value) : Except Fault ScaledUnit :=
  match v.text?, v.unhashable?, v with
  | some code, _, _ =>
    match ScaledUnit.ofCode? code with
    | some u => .ok u
    | none => .error (.unknownUnit v)
  | none, some typeName, _ => .error (.unhashable typeName)
  | none, none, .bytes _ => .error (.unknownUnit v)
  | none, none, .tuple _ => .error (.unknownUnit v)
  | none, none, .type (.enumeration _) => .error (.missingIndex 0)
  | none, none, v => .error (.unsized v.typeName)

/-- A unit as it is, even a scaled unity; a base unit unscaled; or a code. -/
def ScaledUnit.ofValue (v : Value) : Except Fault ScaledUnit :=
  match v with
  | .unit u => .ok u
  | .base b => .ok (.ofBase b)
  | v => if v.text?.isSome then ScaledUnit.parse v else .error (.notUnit v)

def Scale.ofValue (v : Value) : Except Fault Scale :=
  match v.text?.bind Scale.ofSymbol? with
  | some s => .ok s
  | none => .error (.unknownScale v)

def Checkpoint.ofValue (v : Value) : Except Fault Checkpoint :=
  match v.text?.bind Checkpoint.ofWord? with
  | some c => .ok c
  | none => .error (.unknownCheckpoint v)

/-- The type is read before the unit, so of two bad values the type is reported. -/
def ExpectedMetric.ofValues (name : String) (type unit : Value) : Except Fault ExpectedMetric := do
  let measurement ← Measurement.ofValue type
  let unit ← ScaledUnit.ofValue unit
  return { name, measurement, unit }

theorem Measurement.ofValue_measurement (m : Measurement) :
    Measurement.ofValue (.measurement m) = .ok m := rfl

theorem ScaledUnit.ofValue_unit (u : ScaledUnit) : ScaledUnit.ofValue (.unit u) = .ok u := rfl

end Preflight
