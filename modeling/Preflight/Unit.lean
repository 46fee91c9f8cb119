import Preflight.Number.Binary64

/-! Units of measurement by their UCUM codes: a base unit, with a decimal scale written in front
of it. `mW` is a milliwatt and `kW.h` a kilowatt-hour. -/
namespace Preflight

inductive BaseUnit where
  | unity | second | watt | joule | volt | ampere | hertz | degreeCelsius | degreeFahrenheit
  | wattHour | byte | percent
deriving DecidableEq, Repr, Inhabited

namespace BaseUnit

def all : List BaseUnit :=
  [.unity, .second, .watt, .joule, .volt, .ampere, .hertz, .degreeCelsius, .degreeFahrenheit,
    .wattHour, .byte, .percent]

def code : BaseUnit → String
  | unity => "1"
  | second => "s"
  | watt => "W"
  | joule => "J"
  | volt => "V"
  | ampere => "A"
  | hertz => "Hz"
  | degreeCelsius => "Cel"
  | degreeFahrenheit => "[degF]"
  | wattHour => "W.h"
  | byte => "By"
  | percent => "%"

def label : BaseUnit → String
  | unity => "UNITY"
  | second => "SECOND"
  | watt => "WATT"
  | joule => "JOULE"
  | volt => "VOLT"
  | ampere => "AMPERE"
  | hertz => "HERTZ"
  | degreeCelsius => "DEGREE_CELSIUS"
  | degreeFahrenheit => "DEGREE_FAHRENHEIT"
  | wattHour => "WATT_HOUR"
  | byte => "BYTE"
  | percent => "PERCENT"

def ofCode? (code : String) : Option BaseUnit := all.find? (·.code == code)

theorem mem_all (u : BaseUnit) : u ∈ all := by cases u <;> decide

theorem ofCode?_code (u : BaseUnit) : ofCode? u.code = some u := by cases u <;> decide

theorem code_eq_of_ofCode? {s : String} {u : BaseUnit} (h : ofCode? s = some u) : u.code = s := by
  simpa using List.find?_some h

end BaseUnit

/-- A power of ten in front of a base unit. -/
inductive Scale where
  | nano | micro | milli | plain | kilo | mega | giga
deriving DecidableEq, Repr, Inhabited

namespace Scale

def all : List Scale := [.nano, .micro, .milli, .plain, .kilo, .mega, .giga]

def symbol : Scale → String
  | nano => "n"
  | micro => "u"
  | milli => "m"
  | plain => ""
  | kilo => "k"
  | mega => "M"
  | giga => "G"

def exponent : Scale → Int
  | nano => -9
  | micro => -6
  | milli => -3
  | plain => 0
  | kilo => 3
  | mega => 6
  | giga => 9

def label : Scale → String
  | nano => "NANO"
  | micro => "MICRO"
  | milli => "MILLI"
  | plain => "PLAIN"
  | kilo => "KILO"
  | mega => "MEGA"
  | giga => "GIGA"

/-- The factor from the scaled unit to its base unit. -/
def factor (s : Scale) : Binary64 := .ofDecimal false 1 s.exponent

def ofSymbol? (symbol : String) : Option Scale := all.find? (·.symbol == symbol)

theorem ofSymbol?_symbol (s : Scale) : ofSymbol? s.symbol = some s := by cases s <;> decide

theorem symbol_eq_of_ofSymbol? {t : String} {s : Scale} (h : ofSymbol? t = some s) :
    s.symbol = t := by
  simpa using List.find?_some h

end Scale

structure ScaledUnit where
  base : BaseUnit
  scale : Scale
deriving DecidableEq, Repr, Inhabited

namespace ScaledUnit

def ofBase (base : BaseUnit) : ScaledUnit := ⟨base, .plain⟩

def code (u : ScaledUnit) : String := u.scale.symbol ++ u.base.code

/-- Unity carries no dimension, so a scaled unity has no meaning and no code is read as one. -/
def IsLegal (u : ScaledUnit) : Prop := u.base = .unity → u.scale = .plain

instance (u : ScaledUnit) : Decidable u.IsLegal := inferInstanceAs (Decidable (_ → _))

/-- A scale in one character, then the code of a base unit other than unity. -/
def ofScaledCode? : List Char → Option ScaledUnit
  | [] => none
  | c :: rest =>
    match BaseUnit.ofCode? (.ofList rest), Scale.ofSymbol? (.singleton c) with
    | some base, some scale => if base = .unity then none else some ⟨base, scale⟩
    | _, _ => none

/-- The unit of a code. The whole code is tried as a base unit first. -/
def ofCode? (code : String) : Option ScaledUnit :=
  match BaseUnit.ofCode? code with
  | some base => some (ofBase base)
  | none => ofScaledCode? code.toList

end ScaledUnit
end Preflight
