import Preflight.Number.Binary64
import Preflight.Entries

/-! Plain data: what a settings file, a plugin's configuration and the fields of a log event are
made of. Records keep the order of their keys. -/
namespace Preflight

inductive Datum where
  | null
  | bool (b : Bool)
  | int (n : Int)
  | float (x : Binary64)
  | text (s : String)
  /-- A date, a time or both, as it is shown. -/
  | moment (shown : String)
  | list (items : List Datum)
  | record (fields : List (String × Datum))
deriving Repr, Inhabited

namespace Datum

def fields? : Datum → Option (List (String × Datum))
  | record fs => some fs
  | _ => none

def texts (ss : List String) : Datum := .list (ss.map .text)

mutual
def beq : Datum → Datum → Bool
  | .null, .null => true
  | .bool a, .bool b => a == b
  | .int m, .int n => m == n
  | .float x, .float y => x == y
  | .text s, .text t => s == t
  | .moment s, .moment t => s == t
  | .list xs, .list ys => beqItems xs ys
  | .record fs, .record gs => beqFields fs gs
  | _, _ => false
termination_by structural d => d

def beqItems : List Datum → List Datum → Bool
  | [], [] => true
  | x :: xs, y :: ys => beq x y && beqItems xs ys
  | _, _ => false
termination_by structural items => items

def beqFields : List (String × Datum) → List (String × Datum) → Bool
  | [], [] => true
  | f :: fs, g :: gs => beqField f g && beqFields fs gs
  | _, _ => false
termination_by structural fields => fields

def beqField : String × Datum → String × Datum → Bool
  | (k, x), (l, y) => k == l && beq x y
termination_by structural field => field
end

instance : BEq Datum := ⟨beq⟩

/-- No value, a zero, or nothing in it. -/
def isTrivial : Datum → Bool
  | null => true
  | bool b => !b
  | int n => n == 0
  | float (.finite _ m _) => m == 0
  | float _ => false
  | text s => s.isEmpty
  | moment _ => false
  | list items => items.isEmpty
  | record fs => fs.isEmpty

/-- What is under `key` in a record. -/
def get? (key : String) : Datum → Option Datum
  | record fs => Entries.get? key fs
  | _ => none

end Datum
end Preflight
