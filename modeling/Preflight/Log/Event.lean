import Preflight.Datum

/-! Log events: a level, a message, and fields in the order in which they were given. -/
namespace Preflight.Log

inductive Level where
  | debug | info | warning | error | critical
deriving DecidableEq, Repr, Inhabited

namespace Level

def rank : Level → Nat
  | debug => 10
  | info => 20
  | warning => 30
  | error => 40
  | critical => 50

def word : Level → String
  | debug => "debug"
  | info => "info"
  | warning => "warning"
  | error => "error"
  | critical => "critical"

end Level

structure Event where
  level : Level
  /-- What happened, nearly always a text; nothing at all when it is `null`. -/
  message : Datum
  fields : List (String × Datum) := []
deriving Repr

end Preflight.Log
