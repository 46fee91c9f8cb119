/-! The kinds of value a metric measures. The set is closed. -/
namespace Preflight

inductive Measurement where
  | u64 | i64 | f64 | bool
deriving DecidableEq, Repr, Inhabited

namespace Measurement

def all : List Measurement := [.u64, .i64, .f64, .bool]

/-- The code under which settings, plugins and messages name the kind. -/
def code : Measurement → String
  | u64 => "u64"
  | i64 => "i64"
  | f64 => "f64"
  | bool => "bool"

/-- The name of the member, as its display and its reports write it. -/
def label : Measurement → String
  | u64 => "U64"
  | i64 => "I64"
  | f64 => "F64"
  | bool => "BOOL"

def ofCode? (code : String) : Option Measurement := all.find? (·.code == code)

theorem mem_all (m : Measurement) : m ∈ all := by cases m <;> decide

theorem ofCode?_code (m : Measurement) : ofCode? m.code = some m := by cases m <;> decide

theorem code_eq_of_ofCode? {s : String} {m : Measurement} (h : ofCode? s = some m) :
    m.code = s := by
  simpa using List.find?_some h

end Measurement
end Preflight
